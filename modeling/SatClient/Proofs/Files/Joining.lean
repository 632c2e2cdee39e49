import SatClient.Proofs.Files.Walking
import SatClient.Proofs.Text.Splitting

/-! Paths inside of others. The steps of a path that is joined to a directory come behind the steps
of the directory, however many slashes the directory ends in, and they are taken from where the
directory starts.
-/

namespace SatClient.Files.Path

variable {directory path : Path}

/-- What a path is joined to comes before it, and has the steps of the directory. -/
theorem pieces_join (directory path : Path) (relative : path.isAbsolute = false)
    : ∃ before,
        (directory.join path).pieces = before ++ path.pieces
        ∧ before.filter (· ≠ "") = directory.steps := by
  unfold join
  by_cases blank : directory.text = ""
  · rw [if_pos (.inr blank)]
    exact ⟨[], rfl, by simp [steps, pieces, blank]⟩
  rw [if_neg (by simp [relative, blank])]
  by_cases slash : directory.endsInSlash = true
  · rw [if_pos slash]
    obtain ⟨front, isFront⟩ := List.getLast?_eq_some_iff.mp (beq_iff_eq.mp slash)
    refine ⟨(front.splitOn '/').map String.ofList, ?_, ?_⟩
    · rw [pieces, String.toList_append, isFront, List.append_assoc, List.singleton_append,
        List.splitOn_append_cons_self, List.map_append]
      rfl
    · rw [steps, pieces, isFront, List.splitOn_append_cons_self, List.map_append,
        List.filter_append]
      simp
  · rw [if_neg slash]
    refine ⟨directory.pieces, ?_, rfl⟩
    have text
        : (directory.text ++ "/" ++ path.text).toList
          = directory.text.toList ++ '/' :: path.text.toList := by
      simp
    rw [pieces, text, List.splitOn_append_cons_self, List.map_append]
    rfl

theorem steps_join (directory path : Path) (relative : path.isAbsolute = false)
    : (directory.join path).steps = directory.steps ++ path.steps := by
  obtain ⟨before, isPieces, isSteps⟩ := pieces_join directory path relative
  rw [steps, isPieces, List.filter_append, isSteps]
  rfl

theorem isAbsolute_join (directory path : Path) (relative : path.isAbsolute = false)
    : (directory.join path).isAbsolute = directory.isAbsolute := by
  unfold join
  by_cases blank : directory.text = ""
  · rw [if_pos (.inr blank), relative]
    simp [isAbsolute, blank]
  rw [if_neg (by simp [relative, blank])]
  obtain ⟨first, rest, isText⟩ : ∃ first rest, directory.text.toList = first :: rest :=
    List.exists_cons_of_ne_nil (by simpa using blank)
  split <;> simp [isAbsolute, isText]

theorem origin_join (tree : Tree) (directory path : Path) (relative : path.isAbsolute = false)
    : tree.origin (directory.join path) = tree.origin directory := by
  rw [Tree.origin, Tree.origin, isAbsolute_join directory path relative]

/-- A joined path leads on from where the directory is. -/
theorem leadsTo_join_iff {tree : Tree} {location : Location} (relative : path.isAbsolute = false)
    : tree.LeadsTo (directory.join path) location
      ↔ ∃ root, tree.LeadsTo directory root ∧ tree.walk root path.steps = .ok location := by
  rw [Tree.LeadsTo, origin_join tree directory path relative,
    steps_join directory path relative, Tree.walk_append, bind_eq_ok_iff]
  rfl

/-- A joined path with plain names leads down from where the directory is. -/
theorem exists_root_of_join {tree : Tree} {location : Location}
    (leads : tree.LeadsTo (directory.join path) location) (relative : path.isAbsolute = false)
    (plain : ∀ name ∈ path.steps, Tree.IsPlainName name)
    : ∃ root, tree.LeadsTo directory root ∧ location = root ++ path.steps := by
  obtain ⟨root, first, others⟩ := (leadsTo_join_iff relative).mp leads
  exact ⟨root, first, Tree.eq_append_of_walk plain others⟩

/-- A path that ends in a name is inside of another one. -/
theorem parent?_ne_none {before : List String} {name : String}
    (isPieces : path.pieces = before ++ [name]) (noBlank : name ≠ "") (noDot : name ≠ ".")
    : path.parent? ≠ none := by
  rw [parent?, isPieces, List.reverse_append, List.reverse_singleton, List.singleton_append]
  cases before.reverse with
  | nil => simp [trimPieces, noBlank]
  | cons other rest => simp [trimPieces, noBlank, noDot]

end SatClient.Files.Path
