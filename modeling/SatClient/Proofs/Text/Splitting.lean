import Mathlib.Data.List.TakeWhile
import SatClient.Text.Basic

/-! Texts cut at separators. No piece between them holds one, and cutting at the first one leaves a
text before it without any.
-/

namespace SatClient.Text

variable {separator : Char} {text : List Char}

/-- Pieces before the last one add at least their separators. -/
theorem length_lt_length_intercalate (separator : Char) {pieces : List (List Char)}
    (some : pieces ≠ []) (last : List Char)
    : last.length < ([separator].intercalate (pieces ++ [last])).length := by
  induction pieces with
  | nil => exact absurd rfl some
  | cons piece others ih =>
      have rest : last.length ≤ ([separator].intercalate (others ++ [last])).length := by
        by_cases none : others = []
        · rw [none]
          simp
        · exact Nat.le_of_lt (ih none)
      have whole : [separator].intercalate (piece :: (others ++ [last]))
          = piece ++ [separator] ++ [separator].intercalate (others ++ [last]) := by
        cases others <;> simp
      rw [List.cons_append, whole, List.length_append, List.length_append, List.length_singleton]
      omega

theorem not_mem_of_mem_splitOn {piece : List Char} (member : piece ∈ text.splitOn separator)
    : separator ∉ piece := by
  induction text generalizing piece with
  | nil =>
      rw [List.mem_singleton.mp member]
      exact List.not_mem_nil
  | cons c rest ih =>
      rw [List.splitOn_cons_eq_if_modifyHead] at member
      split at member
      · rcases List.mem_cons.mp member with rfl | later
        · exact List.not_mem_nil
        · exact ih later
      · rename_i other
        cases cut : rest.splitOn separator with
        | nil => exact absurd cut (List.splitOn_ne_nil separator rest)
        | cons first pieces =>
            rw [cut, List.modifyHead_cons] at member
            rw [cut] at ih
            rcases List.mem_cons.mp member with rfl | later
            · have notFirst := ih List.mem_cons_self
              simp only [beq_iff_eq] at other
              simp [notFirst, Ne.symm other]
            · exact ih (List.mem_cons_of_mem first later)

theorem splitOn_eq_singleton_iff {piece : List Char}
    : text.splitOn separator = [piece] ↔ text = piece ∧ separator ∉ text := by
  constructor
  · intro single
    obtain rfl : piece = text := by
      have joined : [separator].intercalate (text.splitOn separator) = text :=
        List.intercalate_splitOn separator
      rwa [single, List.intercalate_singleton] at joined
    have member : piece ∈ piece.splitOn separator := by simp [single]
    exact ⟨rfl, not_mem_of_mem_splitOn member⟩
  · rintro ⟨rfl, absent⟩
    exact List.splitOn_eq_singleton absent

theorem splitOn_eq_pair_iff {before after : List Char}
    : text.splitOn separator = [before, after]
      ↔ text = before ++ separator :: after ∧ separator ∉ before ∧ separator ∉ after := by
  constructor
  · intro cut
    have first : before ∈ text.splitOn separator := by simp [cut]
    have second : after ∈ text.splitOn separator := by simp [cut]
    refine ⟨?_, not_mem_of_mem_splitOn first, not_mem_of_mem_splitOn second⟩
    have joined : [separator].intercalate (text.splitOn separator) = text :=
      List.intercalate_splitOn separator
    rw [cut] at joined
    simpa using joined.symm
  · rintro ⟨rfl, notBefore, notAfter⟩
    rw [List.splitOn_append_cons_self, List.splitOn_eq_singleton notBefore,
      List.splitOn_eq_singleton notAfter]
    rfl

/-- What is put behind a text, and has no separator in it, goes to the last piece. -/
theorem exists_splitOn_append (separator : Char) (text : List Char)
    : ∃ pieces last, ∀ more, separator ∉ more →
        (text ++ more).splitOn separator = pieces ++ [last ++ more] := by
  induction text with
  | nil => exact ⟨[], [], fun more absent => List.splitOn_eq_singleton absent⟩
  | cons c rest ih =>
      obtain ⟨pieces, last, cut⟩ := ih
      by_cases same : c = separator
      · refine ⟨[] :: pieces, last, fun more absent => ?_⟩
        rw [List.cons_append, List.splitOn_cons_eq_if_modifyHead, if_pos (beq_iff_eq.mpr same),
          cut more absent, List.cons_append]
      · have other : ¬ (c == separator) = true := by simpa using same
        cases pieces with
        | nil =>
            refine ⟨[], c :: last, fun more absent => ?_⟩
            rw [List.cons_append, List.splitOn_cons_eq_if_modifyHead, if_neg other, cut more absent]
            rfl
        | cons piece pieces =>
            refine ⟨(c :: piece) :: pieces, last, fun more absent => ?_⟩
            rw [List.cons_append, List.splitOn_cons_eq_if_modifyHead, if_neg other, cut more absent]
            rfl

/-- Characters that leave the separator in its place can be taken out before or after a text is
cut.
-/
theorem splitOn_filter {keeps : Char → Bool} (kept : keeps separator = true) (text : List Char)
    : (text.filter keeps).splitOn separator
      = (text.splitOn separator).map (List.filter keeps) := by
  induction text with
  | nil => rfl
  | cons c rest ih =>
      rw [List.splitOn_cons_eq_if_modifyHead]
      cases cut : rest.splitOn separator with
      | nil => exact absurd cut (List.splitOn_ne_nil separator rest)
      | cons piece pieces =>
          rw [cut] at ih
          by_cases same : c = separator
          · simp [same, kept, List.splitOn_cons_eq_if_modifyHead, ih]
          · cases passes : keeps c with
            | true => simp [same, passes, List.splitOn_cons_eq_if_modifyHead, ih]
            | false => simp [same, passes, ih]

/-- What is cut at its first separator is the text before it, the separator and the rest. -/
theorem splitFirst?_eq_some_iff {before after : List Char}
    : splitFirst? separator text = some (before, after)
      ↔ text = before ++ separator :: after ∧ separator ∉ before := by
  rw [splitFirst?]
  constructor
  · intro found
    cases cut : text.dropWhile (· != separator) with
    | nil => simp [cut] at found
    | cons c rest =>
        simp only [cut, Option.some.injEq, Prod.mk.injEq] at found
        obtain ⟨rfl, rfl⟩ := found
        have isSeparator : c = separator := by
          have ends := List.head?_dropWhile_not (· != separator) text
          simpa [cut] using ends
        constructor
        · rw [← isSeparator] at cut ⊢
          rw [← cut, List.takeWhile_append_dropWhile]
        · intro member
          simpa using List.mem_takeWhile_imp member
  · rintro ⟨rfl, absent⟩
    have passes : ∀ c ∈ before, (c != separator) = true := by
      intro c member
      simp only [bne_iff_ne, ne_eq]
      rintro rfl
      exact absent member
    rw [List.dropWhile_append_of_pos passes, List.takeWhile_append_of_pos passes]
    simp

end SatClient.Text
