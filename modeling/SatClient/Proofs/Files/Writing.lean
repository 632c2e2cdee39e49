import SatClient.Proofs.Files.Walking
import SatClient.Proofs.Text.Utf8

/-! What is written at a path is read there. The way to a file leads through directories, and none
of them is the file, so that writing it does not change the way.
-/

namespace SatClient.Files

-----------------------------------------------------------------------------------------
-- Attempts
-----------------------------------------------------------------------------------------

namespace Attempt

variable {ε : Type}

/-- An attempt that goes on without a fault had none before. -/
theorem of_andThen {attempt : Attempt ε} {next : Tree → Attempt ε}
    (done : (attempt.andThen next).fault = none)
    : attempt.fault = none ∧ attempt.andThen next = next attempt.tree := by
  rw [andThen] at done ⊢
  split at done
  next noFault => exact ⟨noFault, rfl⟩
  next => cases done

theorem tree_mapFault {δ : Type} (f : ε → δ) (attempt : Attempt ε)
    : (attempt.mapFault f).tree = attempt.tree :=
  rfl

theorem fault_mapFault {δ : Type} {f : ε → δ} {attempt : Attempt ε}
    : (attempt.mapFault f).fault = none ↔ attempt.fault = none :=
  Option.map_eq_none_iff

/-- A single step without a fault is one that succeeded. -/
theorem eq_ok_of_ofStep {tree : Tree} {step : Except ε Tree}
    (done : (ofStep tree step).fault = none)
    : step = .ok (ofStep tree step).tree := by
  cases step with
  | ok after => rfl
  | error fault => cases done

end Attempt

-----------------------------------------------------------------------------------------
-- Files
-----------------------------------------------------------------------------------------

namespace Tree

variable {tree after : Tree} {location : Location}

/-- A file or directory is made where all steps of its path lead. -/
theorem of_place {path : Path} {name : String}
    (isPlace : tree.place path = .ok (some (location, name)))
    : checkName path = .ok ()
      ∧ tree.LeadsTo path (location ++ [name]) := by
  obtain ⟨_, isName, found⟩ := exists_of_bind_eq_ok isPlace
  refine ⟨isName, ?_⟩
  split at found
  · cases found
  · next last before steps =>
    obtain ⟨target, whole, found⟩ := exists_of_bind_eq_ok found
    rw [walk_append] at whole
    obtain ⟨middle, leads, stays⟩ := exists_of_bind_eq_ok whole
    have isDirectory := isDirectory_of_walk stays
    obtain rfl : middle = target := by
      simpa [walk, isDirectory] using stays
    have isSteps : path.steps = before.reverse ++ [last] := by
      rw [← List.reverse_reverse path.steps, steps, List.reverse_cons]
    split at found
    · cases found
    · next noDots =>
      split at found
      · cases found
      · next short =>
        cases found
        have plain : IsPlainName name := ⟨(noDots <| .inl ·), (noDots <| .inr ·)⟩
        rw [LeadsTo, isSteps, walk_append, leads]
        exact (walk_singleton_iff plain).mpr ⟨isDirectory, short, rfl⟩

/-- A file is written where the steps of its path lead, unless a directory stands there. -/
theorem of_write {path : Path} {content : Utf8.Bytes}
    (wrote : tree.write path content = .ok after)
    : ∃ location,
        location ≠ []
        ∧ checkName path = .ok ()
        ∧ path.endsInSlash = false
        ∧ tree.LeadsTo path location
        ∧ tree.entry? location ≠ some .directory
        ∧ after = tree.put location (.file content) := by
  obtain ⟨place, isPlace, found⟩ := exists_of_bind_eq_ok wrote
  split at found
  · cases found
  · next location name =>
    obtain ⟨isName, leads⟩ := of_place isPlace
    cases slash : path.endsInSlash with
    | true =>
        rw [slash] at found
        cases found
    | false =>
        simp only [slash, Bool.false_eq_true, if_false] at found
        split at found
        · cases found
        · next noDirectory =>
          cases found
          exact ⟨location ++ [name], by simp, isName, rfl, leads, noDirectory, rfl⟩

/-- A file is read as it was written. -/
theorem read_of_write {path : Path} {content : Utf8.Bytes}
    (wrote : tree.write path content = .ok after)
    : after.read path = .ok content := by
  obtain ⟨location, notTop, isName, noSlash, leads, noDirectory, rfl⟩ := of_write wrote
  have leadsThere := (keepsDirectories_put (.file content) noDirectory).leadsTo leads
  have isThere := entry?_put_self tree (.file content) notTop
  have found := find_of_leadsTo isName leadsThere isThere (by simp [noSlash])
  simp [read, found, bind, Except.bind, pure, Except.pure]

/-- A text is read from a file as it was written. -/
theorem readText_of_write {path : Path} {text : List Char}
    (wrote : tree.write path (Utf8.encode text) = .ok after)
    : after.readText path = .ok text := by
  simp [readText, read_of_write wrote, Utf8.decode?_encode, bind, Except.bind, pure,
    Except.pure]

end Tree

end SatClient.Files
