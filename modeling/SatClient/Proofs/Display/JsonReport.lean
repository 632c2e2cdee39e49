import Mathlib.Data.List.Basic
import SatClient.Display.Result
import SatClient.Proofs.Json.Lines

/-! A report in JSON is read back. The text that is shown holds an object, whose members tell the
formula, the outcome and the variables that are free, whatever characters these hold. So reports of
different things are never shown alike.
-/

namespace SatClient

open Json (Value lookup?)

namespace Outcome

-----------------------------------------------------------------------------------------
-- What a report tells
-----------------------------------------------------------------------------------------

/-- What the members of an object tell of a formula, of its outcome and of the variables that this
leaves free.
-/
structure IsReadAs (formula : Formula) (outcome : Outcome) (free : List String)
    (members : List (String × Value)) : Prop where
  formula : lookup? "formula" members = some (.string formula.text)
  kind
    : lookup? "kind" members
      = some
          (.string
            (match outcome with
            | satisfiable _ => "satisfiable"
            | unsatisfiable _ => "unsatisfiable"
            | error _ => "error"))
  pairs
    : lookup? "pairs" members
      = some
          (.array
            (outcome.bindings.map fun binding =>
              .object [("name", .string binding.name), ("value", .bool binding.value)]))
  /-- Only errors have a message. -/
  message
    : lookup? "message" members
      = match outcome with
        | error message => some (.string message)
        | _ => none
  /-- Free variables are told where there are any. -/
  unconstrained
    : lookup? "unconstrained" members
      = if free = [] then none else some (.array (free.map Value.string))
  /-- Nothing else is told, and nothing twice. -/
  known
    : ∀ member ∈ members, member.1 ∈ ["formula", "kind", "pairs", "message", "unconstrained"]
  once : (members.map Prod.fst).Nodup

section

variable {formula other : Formula} {outcome others : Outcome} {free rest : List String}
  {members : List (String × Value)}

theorem toJson_injective : Function.Injective Binding.toJson := by
  rintro ⟨name, value⟩ ⟨name', value'⟩ same
  simpa [Binding.toJson] using same

theorem IsReadAs.formula_unique (reads : outcome.IsReadAs formula free members)
    (also : others.IsReadAs other rest members)
    : formula = other := by
  have same := reads.formula.symm.trans also.formula
  obtain ⟨text, _⟩ := formula
  obtain ⟨text', _⟩ := other
  cases same
  rfl

theorem IsReadAs.bindings_unique (reads : outcome.IsReadAs formula free members)
    (also : others.IsReadAs other rest members)
    : outcome.bindings = others.bindings := by
  have same := Option.some.inj (reads.pairs.symm.trans also.pairs)
  exact List.map_injective_iff.mpr toJson_injective (Value.array.inj same)

theorem IsReadAs.outcome_unique (reads : outcome.IsReadAs formula free members)
    (also : others.IsReadAs other rest members)
    : outcome = others := by
  have bindings := reads.bindings_unique also
  have kind := reads.kind.symm.trans also.kind
  have message := reads.message.symm.trans also.message
  cases outcome <;> cases others <;> simp_all [Outcome.bindings]

theorem IsReadAs.free_unique (reads : outcome.IsReadAs formula free members)
    (also : others.IsReadAs other rest members)
    : free = rest := by
  have same := reads.unconstrained.symm.trans also.unconstrained
  split at same <;> split at same
  · simp_all
  · cases same
  · cases same
  · have injective : Function.Injective Value.string := fun _ _ same => Value.string.inj same
    exact List.map_injective_iff.mpr injective (Value.array.inj (Option.some.inj same))

end

-----------------------------------------------------------------------------------------
-- What is shown
-----------------------------------------------------------------------------------------

/-- The members of a report in the order in which they are written. -/
def reportMembers (text : String) (free : List String) (outcome : Outcome)
    : List (String × Value) :=
  ("formula", .string text) :: outcome.members
    ++ (if free.isEmpty then [] else [("unconstrained", .array (free.map Value.string))])

theorem report_eq (formula : Formula) (outcome : Outcome) (checked : Option Checked)
    : outcome.report formula checked
      = .object (outcome.reportMembers formula.text (outcome.unconstrained checked)) :=
  rfl

theorem settled_bindings (bindings : List Binding)
    : (Assignment.toJson bindings).settled = Assignment.toJson bindings :=
  congrArg Value.array (Value.settledItems_map bindings fun _ => rfl)

theorem settled_names (names : List String)
    : (Value.array (names.map Value.string)).settled = .array (names.map Value.string) :=
  congrArg Value.array (Value.settledItems_map names fun _ => rfl)

/-- A reader that sorts members finds what was written, by cases on what there is to tell. -/
theorem isReadAs_settledMembers (formula : Formula) (outcome : Outcome) (free : List String)
    : outcome.IsReadAs formula free
        (Value.settledMembers [] (outcome.reportMembers formula.text free)) := by
  have looked (name : String)
      : lookup? name (Value.settledMembers [] (outcome.reportMembers formula.text free))
        = (lookup? name (outcome.reportMembers formula.text free).reverse).map Value.settled := by
    rw [Value.lookup?_settledMembers]
    exact Option.or_none
  constructor
  case formula =>
    rw [looked]
    cases outcome <;> cases free <;> rfl
  case kind =>
    rw [looked]
    cases outcome <;> cases free <;> rfl
  case pairs =>
    rw [looked]
    refine Eq.trans ?_ (congrArg some (settled_bindings outcome.bindings))
    cases outcome <;> cases free <;> rfl
  case message =>
    rw [looked]
    cases outcome <;> cases free <;> rfl
  case unconstrained =>
    rw [looked, ← settled_names]
    cases outcome <;> cases free <;> rfl
  case known =>
    intro member isIn
    have written := (Value.mem_names_of_mem_settledMembers isIn).resolve_left List.not_mem_nil
    cases outcome <;> cases free <;> grind [reportMembers, Outcome.members, message?]
  case once => exact Value.nodup_names_settledMembers _

/-- The values of a report are strings, the bindings and the free variables. -/
theorem forall_mem_reportMembers {p : Value → Prop} {text : String} {free : List String}
    {outcome : Outcome} (strings : ∀ s, p (.string s))
    (pairs : p (Assignment.toJson outcome.bindings)) (names : p (.array (free.map Value.string)))
    : ∀ member ∈ outcome.reportMembers text free, p member.2 := by
  have messages : ∀ member ∈ (outcome.message?.map fun s => ("message", Value.string s)).toList,
      p member.2 := by
    cases outcome.message? <;> simp [strings]
  have rest : ∀ member ∈ if free.isEmpty then [] else
      [("unconstrained", Value.array (free.map Value.string))], p member.2 := by
    split <;> simp [names]
  simp only [reportMembers, Outcome.members, List.cons_append, List.nil_append,
    List.forall_mem_cons, List.forall_mem_append]
  exact ⟨strings text, strings outcome.kindWord, pairs, messages, rest⟩

theorem isWhole_report (formula : Formula) (outcome : Outcome) (checked : Option Checked)
    : (outcome.report formula checked).IsWhole := by
  have pairs : (Assignment.toJson outcome.bindings).numbers = [] :=
    Value.numbersOfItems_map outcome.bindings fun _ => rfl
  have names (free : List String) : (Value.array (free.map Value.string)).numbers = [] :=
    Value.numbersOfItems_map free fun _ => rfl
  have noNumbers : (outcome.report formula checked).numbers = [] :=
    Value.numbersOfMembers_eq_nil
      (forall_mem_reportMembers (p := fun value => value.numbers = []) (fun _ => rfl) pairs
        (names _))
  intro n isIn
  rw [noNumbers] at isIn
  cases isIn

theorem nesting_report_le (formula : Formula) (outcome : Outcome) (checked : Option Checked)
    : (outcome.report formula checked).nesting ≤ 3 := by
  have pairs : (Assignment.toJson outcome.bindings).nesting ≤ 2 :=
    Nat.succ_le_succ (Value.nestingOfItems_map_le outcome.bindings fun _ => Nat.le_refl 1)
  have names (free : List String) : (Value.array (free.map Value.string)).nesting ≤ 2 :=
    Nat.succ_le_succ (Value.nestingOfItems_map_le free fun _ => Nat.zero_le 1)
  exact Nat.succ_le_succ
    (Value.nestingOfMembers_le
      (forall_mem_reportMembers (p := fun value => value.nesting ≤ 2) (fun _ => Nat.zero_le 2)
        pairs (names _)))

/-- The text that is shown holds an object with these members. -/
theorem parse_renderJson (formula : Formula) (outcome : Outcome) (checked : Option Checked)
    : Json.parse (Utf8.ofString (outcome.renderJson formula checked))
      = .ok
          (.object
            (Value.settledMembers []
              (outcome.reportMembers formula.text (outcome.unconstrained checked)))) := by
  have fits : (outcome.report formula checked).nesting ≤ Json.maxNesting :=
    Nat.le_trans (nesting_report_le formula outcome checked) (by decide)
  exact Json.parse_renderPretty (isWhole_report formula outcome checked) fits

/-- What is shown in JSON holds an object that tells the formula, the outcome and the free
variables, and nothing else. So nothing that differs in these is shown alike.
-/
theorem renderJson_readsBack (formula : Formula) (outcome : Outcome) (checked : Option Checked)
    : (∃ members,
        Json.parse (Utf8.ofString (outcome.renderJson formula checked)) = .ok (.object members)
        ∧ outcome.IsReadAs formula (outcome.unconstrained checked) members)
      ∧ ∀ (other : Formula) (others : Outcome) (also : Option Checked),
          outcome.renderJson formula checked = others.renderJson other also
          ↔ formula = other ∧ outcome = others
            ∧ outcome.unconstrained checked = others.unconstrained also := by
  have reads := isReadAs_settledMembers formula outcome (outcome.unconstrained checked)
  refine ⟨⟨_, parse_renderJson formula outcome checked, reads⟩, fun other others also => ?_⟩
  constructor
  · intro same
    have shown := parse_renderJson formula outcome checked
    rw [same, parse_renderJson other others also] at shown
    have readsToo := isReadAs_settledMembers other others (others.unconstrained also)
    rw [Value.object.inj (Except.ok.inj shown)] at readsToo
    exact ⟨reads.formula_unique readsToo, reads.outcome_unique readsToo,
      reads.free_unique readsToo⟩
  · rintro ⟨rfl, rfl, same⟩
    rw [renderJson, renderJson, report_eq, report_eq, same]

end Outcome

end SatClient
