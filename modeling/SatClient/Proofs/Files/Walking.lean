import SatClient.Files.Tree
import SatClient.Proofs.Bind

/-! Ways through a tree. Each step is taken from a directory, so that a way leads to the same place
in every tree that keeps the directories.
-/

namespace SatClient.Files.Tree

variable {tree after : Tree} {here location : Location}

-----------------------------------------------------------------------------------------
-- Entries
-----------------------------------------------------------------------------------------

theorem entry?_put_self (tree : Tree) (entry : Entry) (some : location ≠ [])
    : entry? (tree.put location entry) location = Option.some entry := by
  simp [put, entry?, some]

/-- Entries under another key make no difference to what is looked up, by induction on them. -/
theorem lookup_filter_of_ne {α β : Type} [BEq α] [LawfulBEq α] [DecidableEq α] {key other : α}
    (different : other ≠ key) (entries : List (α × β))
    : (entries.filter (·.1 ≠ key)).lookup other = entries.lookup other := by
  induction entries with
  | nil => rfl
  | cons head entries ih =>
      obtain ⟨place, found⟩ := head
      by_cases same : place = key
      · have noOther : (other == place) = false := by simpa [same] using different
        rw [List.filter_cons_of_neg (by simpa using same), List.lookup_cons, noOther, ih]
      · rw [List.filter_cons_of_pos (by simpa using same), List.lookup_cons, List.lookup_cons, ih]

theorem entry?_put_of_ne (tree : Tree) (entry : Entry) {other : Location}
    (different : other ≠ location)
    : entry? (tree.put location entry) other = tree.entry? other := by
  have noOther : (other == location) = false := by simpa using different
  simp only [put, entry?, List.lookup_cons, noOther, lookup_filter_of_ne different]

-----------------------------------------------------------------------------------------
-- Directories that stay
-----------------------------------------------------------------------------------------

/-- The second tree has every directory of the first one, and the same working directory. -/
structure KeepsDirectories (before after : Tree) : Prop where
  here : after.here = before.here
  directories
    : ∀ {location},
        before.entry? location = some .directory → after.entry? location = some .directory

theorem KeepsDirectories.trans {before middle after : Tree}
    (first : KeepsDirectories before middle) (next : KeepsDirectories middle after)
    : KeepsDirectories before after :=
  ⟨next.here.trans first.here, fun stands => next.directories (first.directories stands)⟩

/-- What is put where no directory stands leaves the directories. -/
theorem keepsDirectories_put (entry : Entry)
    (noDirectory : tree.entry? location ≠ some .directory)
    : KeepsDirectories tree (tree.put location entry) where
  here := rfl
  directories := by
    intro other stands
    have different : other ≠ location := by
      rintro rfl
      exact noDirectory stands
    rw [entry?_put_of_ne tree entry different, stands]

-----------------------------------------------------------------------------------------
-- Ways
-----------------------------------------------------------------------------------------

/-- The steps of a path lead to a place. Whether anything stands there is left open. -/
def LeadsTo (tree : Tree) (path : Path) (location : Location) : Prop :=
  tree.walk (tree.origin path) path.steps = .ok location

theorem LeadsTo.unique {path : Path} {other : Location} (leads : tree.LeadsTo path location)
    (also : tree.LeadsTo path other)
    : location = other :=
  Except.ok.inj (leads.symm.trans also)

/-- A step is taken from a directory. -/
theorem isDirectory_of_walk {step : String} {steps : List String}
    (leads : tree.walk here (step :: steps) = .ok location)
    : tree.entry? here = some .directory := by
  rw [walk] at leads
  split at leads
  · cases leads
  · cases leads
  · assumption

theorem walk_append (tree : Tree) (here : Location) (steps more : List String)
    : tree.walk here (steps ++ more)
      = (do
          let middle ← tree.walk here steps
          tree.walk middle more) := by
  induction steps generalizing here with
  | nil => rfl
  | cons step steps ih =>
      rw [List.cons_append, walk, walk]
      split
      · rfl
      · rfl
      · repeat' split
        · exact ih here
        · exact ih here.dropLast
        · rfl
        · exact ih (here ++ [step])

/-- A way leads to the same place as long as the directories stay, by induction on the steps. -/
theorem KeepsDirectories.walk_eq {before after : Tree} (keeps : KeepsDirectories before after)
    {steps : List String} (leads : before.walk here steps = .ok location)
    : after.walk here steps = .ok location := by
  induction steps generalizing here with
  | nil => exact leads
  | cons step steps ih =>
      have isDirectory := isDirectory_of_walk leads
      rw [walk, isDirectory] at leads
      rw [walk, keeps.directories isDirectory]
      dsimp only at leads ⊢
      by_cases stays : step = "."
      · rw [if_pos stays] at leads ⊢
        exact ih leads
      rw [if_neg stays] at leads ⊢
      by_cases goesUp : step = ".."
      · rw [if_pos goesUp] at leads ⊢
        exact ih leads
      rw [if_neg goesUp] at leads ⊢
      by_cases tooLong : nameBound < step.utf8ByteSize
      · rw [if_pos tooLong] at leads
        cases leads
      rw [if_neg tooLong] at leads ⊢
      exact ih leads

theorem KeepsDirectories.leadsTo {before after : Tree} {path : Path}
    (keeps : KeepsDirectories before after) (leads : before.LeadsTo path location)
    : after.LeadsTo path location := by
  have leads := keeps.walk_eq leads
  rwa [LeadsTo, origin, keeps.here]

/-- A name that is not one of the two for directories on the way. -/
def IsPlainName (name : String) : Prop := name ≠ "." ∧ name ≠ ".."

instance (name : String) : Decidable (IsPlainName name) :=
  inferInstanceAs (Decidable (_ ∧ _))

/-- One step to a plain name goes down from a directory. -/
theorem walk_singleton_iff {name : String} (plain : IsPlainName name)
    : tree.walk here [name] = .ok location
      ↔ tree.entry? here = some .directory ∧ ¬ nameBound < name.utf8ByteSize
        ∧ location = here ++ [name] := by
  constructor
  · intro leads
    have isDirectory := isDirectory_of_walk leads
    rw [walk, isDirectory] at leads
    simp only [if_neg plain.1, if_neg plain.2] at leads
    split at leads
    · cases leads
    next short =>
      cases leads
      exact ⟨isDirectory, short, rfl⟩
  · rintro ⟨isDirectory, short, rfl⟩
    simp [walk, isDirectory, plain.1, plain.2, short]

/-- Steps to plain names go down. -/
theorem eq_append_of_walk {names : List String} (plain : ∀ name ∈ names, IsPlainName name)
    (leads : tree.walk here names = .ok location)
    : location = here ++ names := by
  induction names generalizing here with
  | nil =>
      cases leads
      exact (List.append_nil _).symm
  | cons name names ih =>
      rw [← List.singleton_append, walk_append] at leads
      obtain ⟨middle, first, others⟩ := exists_of_bind_eq_ok leads
      obtain ⟨-, -, rfl⟩ := (walk_singleton_iff (plain name List.mem_cons_self)).mp first
      rw [ih (fun other member => plain other (List.mem_cons_of_mem name member)) others,
        List.append_assoc, List.singleton_append]

/-- What is found at a path stands at the place to which the steps of the path lead. -/
theorem of_find {path : Path} {entry : Entry} (found : tree.find path = .ok (location, entry))
    : checkName path = .ok ()
      ∧ tree.LeadsTo path location
      ∧ tree.entry? location = some entry := by
  obtain ⟨_, isName, found⟩ := exists_of_bind_eq_ok found
  obtain ⟨target, whole, found⟩ := exists_of_bind_eq_ok found
  rw [walk_append] at whole
  obtain ⟨middle, leads, stays⟩ := exists_of_bind_eq_ok whole
  obtain rfl : middle = target := by
    split at stays
    · have isDirectory := isDirectory_of_walk stays
      simpa [walk, isDirectory] using stays
    · cases stays
      rfl
  split at found
  next stands =>
    cases found
    exact ⟨isName, leads, stands⟩
  next => cases found

/-- What stands where the steps of a path lead is found, unless the path is to lead to a directory
and does not.
-/
theorem find_of_leadsTo {path : Path} {entry : Entry} (isName : checkName path = .ok ())
    (leads : tree.LeadsTo path location) (stands : tree.entry? location = some entry)
    (fits : path.endsInSlash = true → entry = .directory)
    : tree.find path = .ok (location, entry) := by
  have stays
      : tree.walk location (if path.endsInSlash then ["."] else []) = .ok location := by
    split
    next slash =>
      rw [fits slash] at stands
      simp [walk, stands]
    next => rfl
  have leads : tree.walk (tree.origin path) path.steps = .ok location := leads
  simp [find, isName, walk_append, leads, stays, stands, bind, Except.bind, pure, Except.pure]

end SatClient.Files.Tree
