import SatClient.Proofs.Files.Writing

/-! Directories are made beside what is there. Nothing that stands in a tree is replaced by a
directory, whether all directories come about or only some of them, and a directory that is there
already is left as it is.
-/

namespace SatClient.Files

-----------------------------------------------------------------------------------------
-- What stays
-----------------------------------------------------------------------------------------

/-- The second tree has everything that stands in the first one as it was, and the same working
directory. What is new in it are directories.
-/
structure Tree.Keeps (before after : Tree) : Prop where
  here : after.here = before.here
  entries
    : ∀ {location entry},
        before.entry? location = some entry → after.entry? location = some entry
  files
    : ∀ {location content},
        after.entry? location = some (.file content)
        → before.entry? location = some (.file content)

namespace Tree

variable {tree before middle after : Tree} {location : Location} {path : Path}

theorem Keeps.refl (tree : Tree) : Keeps tree tree :=
  ⟨rfl, id, id⟩

theorem Keeps.trans (first : Keeps before middle) (next : Keeps middle after)
    : Keeps before after :=
  ⟨next.here.trans first.here, fun stands => next.entries (first.entries stands),
    fun stands => first.files (next.files stands)⟩

theorem Keeps.keepsDirectories (keeps : Keeps before after) : KeepsDirectories before after :=
  ⟨keeps.here, keeps.entries⟩

/-- A directory that is put where nothing stands leaves everything else. -/
theorem keeps_put_directory (notTop : location ≠ []) (vacant : tree.entry? location = none)
    : Keeps tree (tree.put location .directory) where
  here := rfl
  entries := by
    intro other entry stands
    have different : other ≠ location := by
      rintro rfl
      rw [vacant] at stands
      cases stands
    rw [entry?_put_of_ne tree .directory different, stands]
  files := by
    intro other content stands
    by_cases same : other = location
    · rw [same, entry?_put_self tree .directory notTop] at stands
      cases stands
    · rwa [entry?_put_of_ne tree .directory same] at stands

theorem isDirectory_iff
    : tree.isDirectory path = true ↔ ∃ location, tree.find path = .ok (location, .directory) := by
  unfold isDirectory
  constructor
  · intro isThere
    split at isThere
    next location found => exact ⟨location, found⟩
    next => cases isThere
  · rintro ⟨location, found⟩
    rw [found]

/-- A path leads to a directory as long as the directories stay. -/
theorem KeepsDirectories.isDirectory (keeps : KeepsDirectories before after)
    (isThere : before.isDirectory path = true)
    : after.isDirectory path = true := by
  obtain ⟨location, found⟩ := isDirectory_iff.mp isThere
  obtain ⟨isName, leads, stands⟩ := of_find found
  have isThere := find_of_leadsTo isName (keeps.leadsTo leads) (keeps.directories stands)
  exact isDirectory_iff.mpr ⟨location, isThere fun _ => rfl⟩

/-- The second tree has a file where a path leads, and nothing else that stands in the first one is
different there.
-/
structure Rewrites (before after : Tree) (path : Path) (location : Location) : Prop where
  isName : checkName path = .ok ()
  noSlash : path.endsInSlash = false
  leads : after.LeadsTo path location
  noDirectory : before.entry? location ≠ some .directory
  keepsDirectories : KeepsDirectories before after
  others
    : ∀ {other entry},
        other ≠ location
        → before.entry? other = some entry
        → after.entry? other = some entry

theorem rewrites_of_write {content : Utf8.Bytes} (wrote : tree.write path content = .ok after)
    : ∃ location, Rewrites tree after path location := by
  obtain ⟨location, -, isName, noSlash, leads, noDirectory, rfl⟩ := of_write wrote
  have keeps := keepsDirectories_put (.file content) noDirectory
  refine ⟨location, isName, noSlash, keeps.leadsTo leads, noDirectory, keeps, ?_⟩
  intro other entry different stands
  rw [entry?_put_of_ne tree (.file content) different, stands]

/-- What is made before a file is written makes no difference. -/
theorem Keeps.rewrites (keeps : Keeps before middle)
    (rewrites : Rewrites middle after path location)
    : Rewrites before after path location where
  isName := rewrites.isName
  noSlash := rewrites.noSlash
  leads := rewrites.leads
  noDirectory stands := rewrites.noDirectory (keeps.entries stands)
  keepsDirectories := keeps.keepsDirectories.trans rewrites.keepsDirectories
  others different stands := rewrites.others different (keeps.entries stands)

-----------------------------------------------------------------------------------------
-- One directory
-----------------------------------------------------------------------------------------

/-- A directory is made where the steps of its path lead, and nothing stands there before. -/
theorem of_makeDirectory (made : tree.makeDirectory path = .ok after)
    : ∃ location,
        location ≠ []
        ∧ checkName path = .ok ()
        ∧ tree.LeadsTo path location
        ∧ tree.entry? location = none
        ∧ after = tree.put location .directory := by
  obtain ⟨place, isPlace, found⟩ := exists_of_bind_eq_ok made
  split at found
  · cases found
  · next location name =>
    obtain ⟨isName, leads⟩ := of_place isPlace
    cases stands : tree.entry? (location ++ [name]) with
    | some entry =>
        rw [stands] at found
        cases found
    | none =>
        rw [stands] at found
        cases found
        exact ⟨location ++ [name], by simp, isName, leads, stands, rfl⟩

theorem keeps_makeDirectory (made : tree.makeDirectory path = .ok after) : Keeps tree after := by
  obtain ⟨location, notTop, -, -, vacant, rfl⟩ := of_makeDirectory made
  exact keeps_put_directory notTop vacant

theorem isDirectory_of_makeDirectory (made : tree.makeDirectory path = .ok after)
    : after.isDirectory path = true := by
  have keeps := (keeps_makeDirectory made).keepsDirectories
  obtain ⟨location, notTop, isName, leads, -, rfl⟩ := of_makeDirectory made
  have isThere := entry?_put_self tree .directory notTop
  have found := find_of_leadsTo isName (keeps.leadsTo leads) isThere
  exact isDirectory_iff.mpr ⟨location, found fun _ => rfl⟩

/-- Where something stands no directory is made. -/
theorem makeDirectory_of_find {entry : Entry} (found : tree.find path = .ok (location, entry))
    : tree.makeDirectory path = .error .alreadyThere := by
  obtain ⟨isName, leads, stands⟩ := of_find found
  -- The place is a directory on the way, or the one to which the last step leads.
  have placed
      : tree.place path = .ok none
        ∨ ∃ outer name,
            tree.place path = .ok (some (outer, name)) ∧ outer ++ [name] = location := by
    unfold place
    split
    next => simp [isName, bind, Except.bind, pure, Except.pure]
    next last before isSteps =>
      have steps : path.steps = before.reverse ++ [last] := by
        rw [← List.reverse_reverse path.steps, isSteps, List.reverse_cons]
      rw [LeadsTo, steps, walk_append] at leads
      obtain ⟨outer, first, final⟩ := exists_of_bind_eq_ok leads
      have isDirectory := isDirectory_of_walk final
      have stays : tree.walk outer ["."] = .ok outer := by simp [walk, isDirectory]
      simp only [isName, walk_append, first, stays, bind, Except.bind, pure, Except.pure]
      by_cases dots : last = "." ∨ last = ".."
      · rw [if_pos dots]
        exact .inl rfl
      rw [if_neg dots]
      have plain : IsPlainName last := ⟨fun same => dots (.inl same), fun same => dots (.inr same)⟩
      obtain ⟨-, short, rfl⟩ := (walk_singleton_iff plain).mp final
      rw [if_neg short]
      exact .inr ⟨outer, last, rfl, rfl⟩
  unfold makeDirectory
  rcases placed with nowhere | ⟨outer, name, somewhere, rfl⟩
  · rw [nowhere]
    rfl
  · simp [somewhere, stands, bind, Except.bind, throw, throwThe, MonadExceptOf.throw]

theorem keeps_ensureDirectory (tree : Tree) (path : Path)
    : Keeps tree (tree.ensureDirectory path).tree := by
  unfold ensureDirectory
  split
  next after made => exact keeps_makeDirectory made
  next => exact .refl tree

theorem isDirectory_of_ensureDirectory (done : (tree.ensureDirectory path).fault = none)
    : (tree.ensureDirectory path).tree.isDirectory path = true := by
  unfold ensureDirectory at done ⊢
  split at done
  next after made => exact isDirectory_of_makeDirectory made
  next =>
    split at done
    next isThere => exact isThere
    next => cases done

theorem ensureDirectory_of_isDirectory (isThere : tree.isDirectory path = true)
    : tree.ensureDirectory path = ⟨tree, none⟩ := by
  obtain ⟨location, found⟩ := isDirectory_iff.mp isThere
  simp only [ensureDirectory, makeDirectory_of_find found, isThere, if_true]

-----------------------------------------------------------------------------------------
-- Several directories
-----------------------------------------------------------------------------------------

/-- What an attempt and its continuation keep. -/
theorem Keeps.andThen {ε : Type} {attempt : Attempt ε} {next : Tree → Attempt ε}
    (first : Keeps tree attempt.tree) (others : ∀ middle, Keeps middle (next middle).tree)
    : Keeps tree (attempt.andThen next).tree := by
  unfold Attempt.andThen
  split
  · exact first.trans (others attempt.tree)
  · exact first

/-- Directories inside of each other are made beside what is there, by induction on the outer
ones.
-/
theorem keeps_makeChain (tree : Tree) (paths : List Path)
    : Keeps tree (tree.makeChain paths).tree := by
  induction paths with
  | nil => exact .refl tree
  | cons path rest ih =>
      unfold makeChain
      split
      · exact ih.andThen fun middle => keeps_ensureDirectory middle path
      · exact keeps_ensureDirectory tree path

theorem keeps_makeDirectories (tree : Tree) (path : Path)
    : Keeps tree (tree.makeDirectories path).tree :=
  keeps_makeChain tree path.ancestors

/-- A path that has a name leads through itself first. -/
theorem ancestors_eq_cons (named : path.parent? ≠ none)
    : ∃ rest, path.ancestors = path :: rest := by
  unfold Path.ancestors Path.chain
  split
  next missing => exact absurd missing named
  next => exact ⟨_, rfl⟩

/-- The directory is there once it was made with those that it is inside of. -/
theorem isDirectory_of_makeDirectories (named : path.parent? ≠ none)
    (done : (tree.makeDirectories path).fault = none)
    : (tree.makeDirectories path).tree.isDirectory path = true := by
  obtain ⟨rest, ways⟩ := ancestors_eq_cons named
  unfold makeDirectories at done ⊢
  rw [ways] at done ⊢
  unfold makeChain at done ⊢
  split at done
  · obtain ⟨-, same⟩ := Attempt.of_andThen done
    rw [same] at done ⊢
    exact isDirectory_of_ensureDirectory done
  · exact isDirectory_of_ensureDirectory done

/-- A directory that is there is not made again. -/
theorem makeDirectories_of_isDirectory (isThere : tree.isDirectory path = true)
    : tree.makeDirectories path = ⟨tree, none⟩ := by
  obtain ⟨location, found⟩ := isDirectory_iff.mp isThere
  unfold makeDirectories Path.ancestors Path.chain
  split
  next => rfl
  next =>
    unfold makeChain
    rw [makeDirectory_of_find found]
    exact ensureDirectory_of_isDirectory isThere

end Tree

end SatClient.Files
