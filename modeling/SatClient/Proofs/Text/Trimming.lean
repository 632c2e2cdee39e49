import Mathlib.Data.List.DropRight
import SatClient.Text.Basic

/-! Texts without the characters of a kind at their ends. -/

namespace SatClient.Text

variable {p q : Char → Bool} {text more : List Char}

theorem dropEndWhile_eq_rdropWhile (p : Char → Bool) (text : List Char)
    : dropEndWhile p text = text.rdropWhile p :=
  rfl

theorem dropEndWhile_append (all : ∀ c ∈ more, p c = true)
    : dropEndWhile p (text ++ more) = dropEndWhile p text := by
  rw [dropEndWhile, List.reverse_append, List.dropWhile_append_of_pos (by simpa using all)]
  rfl

theorem dropEndWhile_eq_self_iff
    : dropEndWhile p text = text ↔ ∀ c ∈ text.getLast?, p c = false := by
  rw [dropEndWhile_eq_rdropWhile]
  refine List.rdropWhile_eq_self_iff.trans ⟨fun other c last => ?_, fun other some => ?_⟩
  · obtain ⟨some, rfl⟩ := List.mem_getLast?_eq_getLast last
    simpa using other some
  · simpa using other _ (List.getLast?_eq_getLast_of_ne_nil some)

/-- What is dropped is of the kind, and what is left does not end with a character of it. -/
theorem exists_dropEndWhile (p : Char → Bool) (text : List Char)
    : ∃ more,
        text = dropEndWhile p text ++ more
          ∧ (∀ c ∈ more, p c = true)
          ∧ ∀ c ∈ (dropEndWhile p text).getLast?, p c = false := by
  refine ⟨(text.reverse.takeWhile p).reverse, ?_, ?_, ?_⟩
  · rw [dropEndWhile, ← List.reverse_append, List.takeWhile_append_dropWhile, List.reverse_reverse]
  · intro c member
    exact List.mem_takeWhile_imp (List.mem_reverse.mp member)
  · intro c last
    have first := List.head?_dropWhile_not p text.reverse
    rw [dropEndWhile, List.getLast?_reverse] at last
    rw [Option.mem_def.mp last] at first
    simpa using first

theorem length_dropEndWhile_le (p : Char → Bool) (text : List Char)
    : (dropEndWhile p text).length ≤ text.length := by
  rw [dropEndWhile_eq_rdropWhile]
  exact (List.rdropWhile_prefix p text).length_le

/-- The two ends of a text are cleared apart from each other. -/
theorem dropWhile_dropEndWhile (p q : Char → Bool) (text : List Char)
    : (dropEndWhile q text).dropWhile p = dropEndWhile q (text.dropWhile p) := by
  obtain ⟨more, whole, all, last⟩ := exists_dropEndWhile q text
  generalize dropEndWhile q text = kept at whole last ⊢
  subst whole
  rw [List.dropWhile_append]
  split
  · rename_i none
    have dropped : dropEndWhile q ([] ++ more.dropWhile p) = dropEndWhile q [] :=
      dropEndWhile_append fun c member => all c ((List.dropWhile_sublist p).subset member)
    rw [List.isEmpty_iff.mp none]
    exact dropped.symm
  · rename_i some
    have nonempty : kept.dropWhile p ≠ [] := by simpa using some
    rw [dropEndWhile_append all, dropEndWhile_eq_self_iff.mpr]
    intro c member
    obtain ⟨front, whole⟩ := List.dropWhile_suffix (l := kept) p
    rw [← whole, List.getLast?_append_of_ne_nil _ nonempty] at last
    exact last c member

/-- Of two kinds of characters at the end of a text, one may go further than the other. -/
theorem dropEndWhile_cases (p q : Char → Bool) (text : List Char)
    : dropEndWhile p text = dropEndWhile q text
      ∨ (∃ more,
          more ≠ []
            ∧ dropEndWhile p text = dropEndWhile q text ++ more
            ∧ (∀ c ∈ more, q c = true)
            ∧ ∀ c ∈ more.getLast?, p c = false)
      ∨ ∃ more,
          more ≠ []
            ∧ dropEndWhile q text = dropEndWhile p text ++ more
            ∧ (∀ c ∈ more, p c = true)
            ∧ ∀ c ∈ more.getLast?, q c = false := by
  obtain ⟨first, whole, all, last⟩ := exists_dropEndWhile p text
  obtain ⟨second, whole', all', last'⟩ := exists_dropEndWhile q text
  generalize dropEndWhile p text = shorter at whole last ⊢
  generalize dropEndWhile q text = other at whole' last' ⊢
  rcases List.append_eq_append_iff.mp (whole.symm.trans whole') with
    ⟨more, rfl, rest⟩ | ⟨more, rfl, rest⟩
  · cases more with
    | nil => exact .inl (List.append_nil shorter).symm
    | cons c more =>
        refine .inr (.inr ⟨c :: more, List.cons_ne_nil c more, rfl, fun d member => ?_, ?_⟩)
        · exact all d (rest ▸ List.mem_append_left second member)
        · rwa [List.getLast?_append_of_ne_nil _ (List.cons_ne_nil c more)] at last'
  · cases more with
    | nil => exact .inl (List.append_nil other)
    | cons c more =>
        refine .inr (.inl ⟨c :: more, List.cons_ne_nil c more, rfl, fun d member => ?_, ?_⟩)
        · exact all' d (rest ▸ List.mem_append_left first member)
        · rwa [List.getLast?_append_of_ne_nil _ (List.cons_ne_nil c more)] at last

end SatClient.Text
