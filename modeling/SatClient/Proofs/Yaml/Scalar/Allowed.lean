import SatClient.Proofs.Yaml.Scalar.Block
import SatClient.Proofs.Yaml.Scalar.Quoted

/-! The style of a text. It is one that allows the text, and in it nothing is written that a text
may not hold.
-/

namespace SatClient.Yaml.Written

/-- A text is written in a style that allows it. -/
theorem cases_of_style (text : List Char)
    : style text = .plain ∧ allowsPlain text = true ∧ text ≠ []
      ∨ style text = .single ∧ allowsSingle text = true ∧ '\n' ∉ text
      ∨ style text = .literal ∧ allowsLiteral text = true
      ∨ style text = .double := by
  unfold style
  split
  · split
    · exact .inr (.inr (.inl ⟨rfl, ‹_›⟩))
    · exact .inr (.inr (.inr rfl))
  · have noFeed : '\n' ∉ text := by simpa using ‹¬ text.contains '\n' = true›
    split
    · obtain ⟨allows, certain⟩ := Bool.and_eq_true_iff.mp ‹_›
      refine .inl ⟨rfl, allows, ?_⟩
      rintro rfl
      cases certain
    · split
      · exact .inr (.inl ⟨rfl, ‹_›, noFeed⟩)
      · exact .inr (.inr (.inr rfl))

-----------------------------------------------------------------------------------------
-- Characters
-----------------------------------------------------------------------------------------

theorem isAllowed_of_mem_indentation (isLineStart : Bool)
    : ∀ c ∈ if isLineStart then indentation else [], isAllowed c = true := by
  cases isLineStart <;> exact List.all_eq_true.mp (by decide)

theorem isAllowed_of_mem_quote {isLineStart : Bool} {text : List Char}
    (all : ∀ c ∈ text, isAllowed c = true)
    : ∀ c ∈ quote isLineStart text, isAllowed c = true := by
  induction text generalizing isLineStart with
  | nil => exact isAllowed_of_mem_indentation isLineStart
  | cons c text ih =>
      obtain ⟨first, others⟩ := List.forall_mem_cons.mp all
      have doubled : ∀ d ∈ if c = '\'' then ['\'', '\''] else [c], isAllowed d = true := by
        split
        · exact List.all_eq_true.mp (by decide)
        · simpa using first
      rw [quote]
      split
      · exact List.forall_mem_cons.mpr ⟨first, ih others⟩
      · simp only [List.forall_mem_append]
        exact ⟨⟨isAllowed_of_mem_indentation isLineStart, doubled⟩, ih others⟩

theorem isAllowed_of_mem_indent {isLineStart : Bool} {text : List Char}
    (all : ∀ c ∈ text, isAllowed c = true)
    : ∀ c ∈ indent isLineStart text, isAllowed c = true := by
  induction text generalizing isLineStart with
  | nil => simp [indent_nil]
  | cons c text ih =>
      obtain ⟨first, others⟩ := List.forall_mem_cons.mp all
      rw [indent]
      split
      · exact List.forall_mem_cons.mpr ⟨first, ih others⟩
      · rw [List.forall_mem_append, List.forall_mem_cons]
        exact ⟨isAllowed_of_mem_indentation isLineStart, first, ih others⟩

theorem isAllowed_of_escapeLetter? {c letter : Char} (found : escapeLetter? c = some letter)
    : isAllowed letter = true := by
  unfold escapeLetter? at found
  split at found
  all_goals first | cases found; rfl | cases found

theorem isAllowed_of_mem_hexDigits {count n : Nat}
    : ∀ c ∈ hexDigits count n, isAllowed c = true := by
  intro c member
  obtain ⟨digit, small, rfl⟩ := exists_of_mem_hexDigits member
  have all : ∀ digit < 16, isAllowed (Text.hexDigitUpper digit) = true := by decide
  exact all digit small

/-- Every character is allowed once it is escaped. -/
theorem isAllowed_of_mem_escape (c : Char) : ∀ d ∈ escape c, isAllowed d = true := by
  unfold escape
  repeat' split
  next letter found => simpa using ⟨by decide, isAllowed_of_escapeLetter? found⟩
  next printable => simpa using isAllowed_of_isPrintable printable
  all_goals
    simp only [List.forall_mem_cons]
    exact ⟨by decide, by decide, isAllowed_of_mem_hexDigits⟩

theorem isAllowed_of_mem_literal {text : List Char} (all : ∀ c ∈ text, isAllowed c = true)
    : ∀ c ∈ literal text, isAllowed c = true := by
  have hint : ∀ c ∈ indentHint text, isAllowed c = true := by
    rw [indentHint_eq]
    split <;> exact List.all_eq_true.mp (by decide)
  have endHint : ∀ c ∈ endHint text, isAllowed c = true := by
    rw [endHint_eq]
    split <;> exact List.all_eq_true.mp (by decide)
  simp only [literal, List.cons_append, List.forall_mem_cons, List.forall_mem_append]
  exact ⟨rfl, ⟨hint, endHint⟩, rfl, isAllowed_of_mem_indent all⟩

/-- Whatever the text, it is written with characters that are allowed. -/
theorem isAllowed_of_mem_scalar (text : List Char) : ∀ c ∈ scalar text, isAllowed c = true := by
  have feed : ∀ c ∈ ['\n'], isAllowed c = true := List.forall_mem_singleton.mpr rfl
  unfold scalar
  have quoted {mark : Char} {inner : List Char} (allowed : isAllowed mark = true)
      (all : ∀ c ∈ inner, isAllowed c = true)
      : ∀ c ∈ mark :: inner ++ [mark], isAllowed c = true := by
    simpa [or_imp, forall_and, allowed] using all
  obtain ⟨style, allows, -⟩ | ⟨style, allows, noFeed⟩ | ⟨style, allows⟩ | style :=
    cases_of_style text
  all_goals
    rw [style]
    dsimp only
    rw [List.forall_mem_append]
  · have plain := (isPlain_of_allowsPlain allows).1
    exact ⟨fun c member => isAllowed_of_isPrintable (plain.printable c member), feed⟩
  · have single := isSingle_of_allowsSingle allows noFeed
    refine ⟨quoted rfl (isAllowed_of_mem_quote fun c member => ?_), feed⟩
    exact isAllowed_of_isPrintable (single.printable c member)
  · obtain ⟨printable, -⟩ := of_allowsLiteral allows
    refine
      ⟨isAllowed_of_mem_literal fun c member => isAllowed_of_isPrintable (printable c member), ?_⟩
    split
    · exact nofun
    · exact feed
  · refine ⟨quoted rfl fun c member => ?_, feed⟩
    obtain ⟨d, -, escaped⟩ := List.mem_flatMap.mp member
    exact isAllowed_of_mem_escape d c escaped

end SatClient.Yaml.Written
