import Mathlib.Data.List.Forall2
import Mathlib.Data.List.Induction
import SatClient.Program.Course
import SatClient.Proofs.Settings.RoundTrip
import SatClient.Proofs.Text.Boundary

/-! Settings in layers. Whatever layers are put over each other, each field ends with the value of
the last layer that supplies it, and no field depends on what is supplied for another one. So the
command line is preferred to the environment, and this to the file or to the standard settings.
-/

namespace SatClient

-----------------------------------------------------------------------------------------
-- Fields
-----------------------------------------------------------------------------------------

/-- The names of what can be set. -/
inductive Settings.Field where
  | baseUrl
  | bindAddress
  | format
  | reportDirectory
  | rule
  deriving DecidableEq, Repr

@[reducible]
def Settings.Field.Value : Field → Type
  | baseUrl => String
  | bindAddress => String
  | format => OutputFormat
  | reportDirectory => Files.Path
  | rule => UnsatRule

open Settings (Field)

def Settings.value (settings : Settings) : (field : Field) → field.Value
  | .baseUrl => settings.baseUrl
  | .bindAddress => settings.bindAddress
  | .format => settings.format
  | .reportDirectory => settings.reportDirectory
  | .rule => settings.rule

/-- The value to put over that of a field. -/
def Overrides.value? (overrides : Overrides) : (field : Field) → Option field.Value
  | .baseUrl => overrides.usefulBaseUrl
  | .bindAddress => overrides.bindAddress
  | .format => overrides.format
  | .reportDirectory => overrides.reportDirectory
  | .rule => overrides.rule

/-- Settings are no more than the values of their fields. -/
theorem Settings.ext_value {settings other : Settings}
    (same : ∀ field, settings.value field = other.value field)
    : settings = other := by
  obtain ⟨baseUrl, bindAddress, format, reportDirectory, rule⟩ := settings
  obtain ⟨_, _, _, _, _⟩ := other
  cases same .baseUrl
  cases same .bindAddress
  cases same .format
  cases same .reportDirectory
  cases same .rule
  rfl

theorem Settings.value_override (settings : Settings) (overrides : Overrides) (field : Field)
    : (settings.override overrides).value field
      = (overrides.value? field).getD (settings.value field) := by
  cases field <;> rfl

-----------------------------------------------------------------------------------------
-- Layers
-----------------------------------------------------------------------------------------

namespace Settings

/-- Where values come from that are put over others. -/
inductive Layer where
  | environment (env : Environment)
  | commandLine (overrides : Overrides)

namespace Layer

/-- Put a layer over settings. -/
def onto (settings : Settings) : Layer → Settings
  | environment env => settings.override (.ofEnvironment env)
  | commandLine overrides => settings.override overrides

/-- A layer supplies a value for a field. The environment has none but a base URL, and no base URL
is blank, wherever it comes from.
-/
def Supplies : Layer → (field : Field) → field.Value → Prop
  | environment env, .baseUrl, url =>
      env.get? "MARINA_API_URL" = some url ∧ Text.isBlankString url = false
  | commandLine overrides, .baseUrl, url =>
      overrides.baseUrl = some url ∧ Text.isBlankString url = false
  | commandLine overrides, .bindAddress, address => overrides.bindAddress = some address
  | commandLine overrides, .format, format => overrides.format = some format
  | commandLine overrides, .reportDirectory, path => overrides.reportDirectory = some path
  | commandLine overrides, .rule, rule => overrides.rule = some rule
  | environment _, .bindAddress, _ => False
  | environment _, .format, _ => False
  | environment _, .reportDirectory, _ => False
  | environment _, .rule, _ => False

/-- A layer supplies no value for a field. -/
def LeavesOut (layer : Layer) (field : Field) : Prop := ∀ value, ¬ layer.Supplies field value

/-- The values that a layer puts over others. -/
def overrides : Layer → Overrides
  | environment env => .ofEnvironment env
  | commandLine overrides => overrides

variable {layer : Layer} {field : Field}

theorem onto_eq (layer : Layer) (settings : Settings)
    : layer.onto settings = settings.override layer.overrides := by
  cases layer <;> rfl

theorem supplies_iff {value : field.Value}
    : layer.Supplies field value ↔ layer.overrides.value? field = some value := by
  cases layer <;> cases field
  all_goals
    simp [Supplies, overrides, Overrides.value?, Overrides.ofEnvironment, Overrides.none,
      Overrides.usefulBaseUrl, Overrides.baseUrlVariable, Option.filter_eq_some_iff]

theorem leavesOut_iff : layer.LeavesOut field ↔ layer.overrides.value? field = none := by
  simp only [LeavesOut, supplies_iff, Option.eq_none_iff_forall_ne_some]

/-- What one layer does to a field: its value counts if it supplies one, and else that of the
settings below it.
-/
theorem value_onto_iff {settings : Settings} {value : field.Value}
    : (layer.onto settings).value field = value
      ↔ layer.Supplies field value
        ∨ layer.LeavesOut field ∧ settings.value field = value := by
  rw [onto_eq, value_override, Option.getD_eq_iff, supplies_iff, leavesOut_iff]

end Layer

/-- Put layers over settings, one after another. -/
def layered (start : Settings) (layers : List Layer) : Settings :=
  layers.foldl (fun settings layer => layer.onto settings) start

/-- The value of a field under some layers: that of the last layer which supplies one, or else the
one at the start.
-/
def IsLatest (start : Settings) (layers : List Layer) (field : Field) (value : field.Value)
    : Prop :=
  (∃ before layer after,
    layers = before ++ layer :: after
    ∧ layer.Supplies field value
    ∧ ∀ later ∈ after, later.LeavesOut field)
  ∨ (∀ layer ∈ layers, layer.LeavesOut field) ∧ start.value field = value

section

variable {start : Settings} {layers : List Layer} {field : Field} {value : field.Value}

theorem isLatest_nil : IsLatest start [] field value ↔ start.value field = value := by
  simp [IsLatest]

/-- One more layer counts if it supplies a value, and else those below it do. -/
theorem isLatest_concat {last : Layer}
    : IsLatest start (layers ++ [last]) field value
      ↔ last.Supplies field value
        ∨ last.LeavesOut field ∧ IsLatest start layers field value := by
  constructor
  · rintro (⟨before, layer, after, cut, supplies, leftOut⟩ | ⟨leftOut, same⟩)
    · rcases Text.append_eq_append_cons_iff.mp cut with ⟨rest, rfl, rfl⟩ | ⟨middle, rfl, ends⟩
      · obtain ⟨others, leftOut⟩ := List.forall_mem_append.mp leftOut
        exact .inr ⟨leftOut last (by simp), .inl ⟨before, layer, rest, rfl, supplies, others⟩⟩
      · obtain ⟨rfl, rfl, rfl⟩ : middle = [] ∧ layer = last ∧ after = [] := by
          cases middle <;> simp_all
        exact .inl supplies
    · obtain ⟨others, leftOut⟩ := List.forall_mem_append.mp leftOut
      exact .inr ⟨leftOut last (by simp), .inr ⟨others, same⟩⟩
  · rintro (supplies | ⟨leftOut, ⟨before, layer, after, rfl, supplies, others⟩ | ⟨others, same⟩⟩)
    · exact .inl ⟨layers, last, [], rfl, supplies, by simp⟩
    · refine .inl ⟨before, layer, after ++ [last], by simp, supplies, ?_⟩
      exact List.forall_mem_append.mpr ⟨others, by simpa using leftOut⟩
    · exact .inr ⟨List.forall_mem_append.mpr ⟨others, by simpa using leftOut⟩, same⟩

/-- Each field ends with its latest value, by induction on the layers from the last one. -/
theorem value_layered_iff
    : (start.layered layers).value field = value ↔ IsLatest start layers field value := by
  induction layers using List.reverseRecOn with
  | nil => exact isLatest_nil.symm
  | append_singleton layers last ih =>
      rw [layered, List.foldl_concat, Layer.value_onto_iff, isLatest_concat, ← ih]
      rfl

/-- Two layers supply the same value for a field, or none, whatever they do to the others. -/
def Layer.AgreeOn (field : Field) (layer other : Layer) : Prop :=
  ∀ value, layer.Supplies field value ↔ other.Supplies field value

theorem Layer.AgreeOn.value_onto {layer other : Layer} {settings below : Settings}
    (agree : AgreeOn field layer other) (same : settings.value field = below.value field)
    : (layer.onto settings).value field = (other.onto below).value field := by
  have leftOut : layer.LeavesOut field ↔ other.LeavesOut field :=
    forall_congr' fun value => not_congr (agree value)
  rw [value_onto_iff, agree, leftOut, same, ← value_onto_iff]

/-- A field depends on what is said about it alone, by induction on the layers. -/
theorem value_layered_congr {other : Settings} {others : List Layer}
    (same : start.value field = other.value field)
    (agree : List.Forall₂ (Layer.AgreeOn field) layers others)
    : (start.layered layers).value field = (other.layered others).value field := by
  induction agree generalizing start other with
  | nil => exact same
  | cons first _ ih => exact ih (first.value_onto same)

end

-----------------------------------------------------------------------------------------
-- The settings that a command works with
-----------------------------------------------------------------------------------------

/-- The settings that others are put over: those of a file, or the standard ones without a file. -/
inductive IsBase (tree : Files.Tree) (path : Files.Path) : Settings → Prop
  | file {text settings} (held : tree.holds path = true) (reads : tree.readText path = .ok text)
    (means : ofYaml text = .ok settings) (usable : settings.validate = .ok ())
    : IsBase tree path settings
  | noFile (missing : tree.holds path = false) : IsBase tree path standard

/-- The value of a field on the command line, or else that in the environment, or else the one in
the settings below.
-/
def IsPreferred (overrides : Overrides) (env : Environment) (base : Settings) (field : Field)
    (value : field.Value) : Prop :=
  (Layer.commandLine overrides).Supplies field value
  ∨ (Layer.commandLine overrides).LeavesOut field
    ∧ ((Layer.environment env).Supplies field value
      ∨ (Layer.environment env).LeavesOut field ∧ base.value field = value)

theorem readOrStandard_eq_ok_iff {tree : Files.Tree} {path : Files.Path} {settings : Settings}
    : readOrStandard tree path = .ok settings ↔ IsBase tree path settings := by
  rw [readOrStandard]
  constructor
  · intro found
    split at found
    · next held =>
      obtain ⟨text, reads, means, usable⟩ := read_eq_ok_iff.mp found
      exact .file held reads means usable
    · next missing =>
      cases found
      exact .noFile (Bool.eq_false_iff.mpr missing)
  · intro base
    cases base with
    | file held reads means usable =>
        rw [if_pos held]
        exact read_eq_ok_iff.mpr ⟨_, reads, means, usable⟩
    | noFile missing => rw [if_neg (by simp [missing])]

/-- What is gathered are the settings at the bottom under both layers, provided that they can be
used.
-/
theorem gather_eq_ok_iff {around : Surroundings} {config : Files.Path} {overrides : Overrides}
    {settings : Settings}
    : gather around config overrides = .ok settings
      ↔ ∃ base,
          IsBase around.files config base
          ∧ base.layered [.environment around.env, .commandLine overrides] = settings
          ∧ settings.validate = .ok () := by
  simp only [← readOrStandard_eq_ok_iff, layered, List.foldl_cons, List.foldl_nil, Layer.onto]
  rw [gather]
  constructor
  · intro found
    split at found
    · cases found
    · next base read =>
      dsimp only at found
      split at found
      · cases found
      · next usable =>
        cases found
        exact ⟨base, read, rfl, usable⟩
  · rintro ⟨base, read, rfl, usable⟩
    simp only [read, usable]

/-- Two layers over a base leave it with the preferred values, and with nothing else. -/
theorem layered_eq_iff {overrides : Overrides} {env : Environment} {base settings : Settings}
    : base.layered [.environment env, .commandLine overrides] = settings
      ↔ ∀ field value,
          settings.value field = value ↔ IsPreferred overrides env base field value := by
  have preferred (field : Field) (value : field.Value)
      : (base.layered [.environment env, .commandLine overrides]).value field = value
        ↔ IsPreferred overrides env base field value := by
    rw [IsPreferred, ← Layer.value_onto_iff, ← Layer.value_onto_iff]
    rfl
  constructor
  · rintro rfl
    exact preferred
  · intro values
    refine ext_value fun field => ?_
    exact (preferred field _).mpr ((values field _).mp rfl)

/-- The last layer that supplies a field decides it, and no field depends on the others. So the
settings that a command works with are, field by field, those of the command line, of the
environment, and of the file or the standard ones, and they can be used.
-/
theorem lastLayer_decides
    : (∀ (start : Settings) (layers : List Layer) (field : Field) (value : field.Value),
        (start.layered layers).value field = value ↔ IsLatest start layers field value)
      ∧ (∀ (start other : Settings) (layers others : List Layer) (field : Field),
          start.value field = other.value field
          → List.Forall₂ (Layer.AgreeOn field) layers others
          → (start.layered layers).value field = (other.layered others).value field)
      ∧ ∀ (around : Surroundings) (config : Files.Path) (overrides : Overrides)
          (settings : Settings),
          gather around config overrides = .ok settings
          ↔ ∃ base,
              IsBase around.files config base
              ∧ (∀ field value,
                  settings.value field = value
                  ↔ IsPreferred overrides around.env base field value)
              ∧ settings.validate = .ok () := by
  refine ⟨fun _ _ _ _ => value_layered_iff, fun _ _ _ _ _ => value_layered_congr, ?_⟩
  intro around config overrides settings
  simp only [gather_eq_ok_iff, layered_eq_iff]

/-- An environment with a base URL, and a command line with a blank one and a format. -/
def blankOver : List Layer :=
  [.environment ⟨[("MARINA_API_URL", "http://a")]⟩,
    .commandLine ⟨some " \t", none, some .json, none, none⟩]

/-- A base URL that is blank takes nothing away from the one below it, while a format beside it
counts.
-/
theorem lastLayer_decides_blank
    : (standard.layered blankOver).value .baseUrl = "http://a"
      ∧ (standard.layered blankOver).value .format = .json
      ∧ (standard.layered blankOver).value .rule = .sentinel := by
  have decides := lastLayer_decides.1 standard blankOver
  have noUrl : (Layer.commandLine ⟨some " \t", none, some .json, none, none⟩).LeavesOut
      .baseUrl := by
    rintro url ⟨⟨⟩, solid⟩
    exact absurd solid (by decide)
  have noRule : ∀ layer ∈ blankOver, layer.LeavesOut .rule := by
    simp [blankOver, Layer.LeavesOut, Layer.Supplies]
  refine ⟨(decides .baseUrl _).mpr (.inl ⟨[], _, [_], rfl, ⟨rfl, by decide⟩, ?_⟩),
    (decides .format _).mpr (.inl ⟨[_], _, [], rfl, rfl, by simp⟩),
    (decides .rule _).mpr (.inr ⟨noRule, rfl⟩)⟩
  exact List.forall_mem_singleton.mpr noUrl

end Settings

end SatClient
