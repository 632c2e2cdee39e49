import SatClient.Yaml.Cursor

/-! Characters and places of a YAML text. A character that is written as it is can be read, and
where it breaks a line it is read as itself.
-/

namespace SatClient.Yaml

-----------------------------------------------------------------------------------------
-- Characters
-----------------------------------------------------------------------------------------

/-- What is written as it is may stand in a text. -/
theorem isAllowed_of_isPrintable {c : Char} (printable : isPrintable c = true)
    : isAllowed c = true := by
  simp only [isPrintable, isAllowed, Bool.or_eq_true, Bool.and_eq_true, beq_iff_eq,
    decide_eq_true_eq] at printable ⊢
  omega

/-- Line breaks that are written as they are. -/
theorem cases_of_isBreak {c : Char} (breaks : isBreak c = true) (printable : isPrintable c = true)
    : c = '\n' ∨ c = '\u2028' ∨ c = '\u2029' := by
  simp only [isBreak, Bool.or_eq_true, beq_iff_eq] at breaks
  rcases breaks with (((rfl | rfl) | rfl) | rfl) | rfl
  · exact .inl rfl
  · exact absurd printable (by decide)
  · exact absurd printable (by decide)
  · exact .inr (.inl rfl)
  · exact .inr (.inr rfl)

/-- A line feed is such a break. -/
theorem isBreak_of_mem_feed : ∀ c ∈ ['\n'], isBreak c = true ∧ isPrintable c = true :=
  List.forall_mem_singleton.mpr (by decide)

/-- The only blank that is written as it is. -/
theorem eq_space_of_isBlank {c : Char} (blank : isBlank c = true) (printable : isPrintable c = true)
    : c = ' ' := by
  simp only [isBlank, Bool.or_eq_true, beq_iff_eq] at blank
  rcases blank with rfl | rfl
  · rfl
  · exact absurd printable (by decide)

/-- A character that is neither a blank nor a break. -/
theorem isSolid_some_iff {c : Char}
    : isSolid (some c) = true ↔ isBlank c = false ∧ isBreak c = false := by
  simp [isSolid]

-----------------------------------------------------------------------------------------
-- Cursors
-----------------------------------------------------------------------------------------

namespace Mark

@[simp] theorem column_advance (mark : Mark) (count : Nat)
    : (mark.advance count).column = mark.column + count := rfl

@[simp] theorem line_advance (mark : Mark) (count : Nat)
    : (mark.advance count).line = mark.line := rfl

@[simp] theorem index_advance (mark : Mark) (count : Nat)
    : (mark.advance count).index = mark.index + count := rfl

@[simp] theorem column_newline (mark : Mark) (count : Nat) : (mark.newline count).column = 0 := rfl

@[simp] theorem advance_zero (mark : Mark) : mark.advance 0 = mark := rfl

theorem advance_advance (mark : Mark) (first second : Nat)
    : (mark.advance first).advance second = mark.advance (first + second) := by
  simp only [advance, Nat.add_assoc]

end Mark

namespace Cursor

variable (mark : Mark)

@[simp] theorem head?_nil : head? ⟨[], mark⟩ = none := rfl

@[simp] theorem head?_cons (c : Char) (rest : List Char) : head? ⟨c :: rest, mark⟩ = some c := rfl

@[simp] theorem skip_zero (cursor : Cursor) : cursor.skip 0 = cursor := rfl

@[simp] theorem skip_succ (c : Char) (rest : List Char) (count : Nat)
    : skip ⟨c :: rest, mark⟩ (count + 1) = skip ⟨rest, mark.advance 1⟩ count := by
  simp only [skip, List.drop_succ_cons, Mark.advance_advance, Nat.add_comm 1 count]

theorem skip_append (front rest : List Char)
    : skip ⟨front ++ rest, mark⟩ front.length = ⟨rest, mark.advance front.length⟩ := by
  simp only [skip, List.drop_left]

theorem skip_spaces (count : Nat) (rest : List Char)
    : skip ⟨List.replicate count ' ' ++ rest, mark⟩ count = ⟨rest, mark.advance count⟩ := by
  simpa using skip_append mark (List.replicate count ' ') rest

theorem atBreak_eq_false {rest : List Char} (starts : ∀ c ∈ rest.head?, isBreak c = false)
    : atBreak ⟨rest, mark⟩ = false := by
  cases rest with
  | nil => rfl
  | cons c rest => exact starts c rfl

/-- The characters of a kind that nothing behind them goes on with. -/
theorem span_append {p : Char → Bool} {front rest : List Char} (all : ∀ c ∈ front, p c = true)
    (stops : ∀ c ∈ rest.head?, p c = false)
    : span p ⟨front ++ rest, mark⟩ = (front, ⟨rest, mark.advance front.length⟩) := by
  have taken : (front ++ rest).takeWhile p = front := by
    rw [List.takeWhile_append_of_pos all]
    cases rest with
    | nil => simp
    | cons c rest => simp [stops c rfl]
  simp only [span, taken, skip_append]

theorem skipWhile_append {p : Char → Bool} {front rest : List Char}
    (all : ∀ c ∈ front, p c = true) (stops : ∀ c ∈ rest.head?, p c = false)
    : skipWhile p ⟨front ++ rest, mark⟩ = ⟨rest, mark.advance front.length⟩ := by
  rw [skipWhile, span_append mark all stops]

theorem readBreak_cons {c : Char} (breaks : isBreak c = true) (printable : isPrintable c = true)
    (rest : List Char)
    : readBreak ⟨c :: rest, mark⟩ = ([c], ⟨rest, mark.newline 1⟩) := by
  rcases cases_of_isBreak breaks printable with rfl | rfl | rfl <;> rfl

/-- Only the start of a line can start or end a document. -/
theorem atDocumentIndicator_of_column_ne {cursor : Cursor} (inLine : cursor.mark.column ≠ 0)
    : cursor.atDocumentIndicator = false := by
  simp [atDocumentIndicator, inLine]

end Cursor

end SatClient.Yaml
