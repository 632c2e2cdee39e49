import SatClient.Proofs.Text.Trimming
import SatClient.Proofs.Text.Utf8
import SatClient.Proofs.Url.Leading

/-! What the reading of URLs takes away around a text, and what trimming a text takes away. Both
leave the same where the text goes on to a URL, up to characters at the end that only one of them
takes for something to take away.
-/

namespace SatClient.Url

open Text (dropEndWhile exists_dropEndWhile dropEndWhile_eq_self_iff dropWhile_dropEndWhile isBlank
  trim)

/-- A control character, or the blank of ASCII. -/
def isSmall (c : Char) : Bool := c.toNat ≤ 0x20

/-- Whether a character breaks no line and is no tab. -/
def isInline (c : Char) : Bool := !(c == '\t' || c == '\n' || c == '\r')

theorem isSmall_eq_false_iff {c : Char} : isSmall c = false ↔ 0x20 < c.toNat := by
  simp [isSmall]

/-- A text as it is read but for what stands at its end. -/
def opened (text : List Char) : List Char := (text.dropWhile isSmall).filter isInline

variable {text more : List Char}

theorem cleaned_eq (text : List Char) : cleaned text = opened (dropEndWhile isSmall text) := by
  rw [opened, dropWhile_dropEndWhile]
  rfl

theorem isInline_of_not_isSmall {c : Char} (visible : isSmall c = false) : isInline c = true := by
  have other (d : Char) (small : d.toNat ≤ 0x20) : c ≠ d := by
    rintro rfl
    exact absurd (isSmall_eq_false_iff.mp visible) (Nat.not_lt.mpr small)
  simp [isInline, other '\t' (by decide), other '\n' (by decide), other '\r' (by decide)]

/-- Visible characters behind a text are read as they are. -/
theorem opened_append (visible : ∀ c ∈ more, isSmall c = false)
    : opened (text ++ more) = opened text ++ more := by
  have inline : more.filter isInline = more :=
    List.filter_eq_self.mpr fun c member => isInline_of_not_isSmall (visible c member)
  have start : more.dropWhile isSmall = more := by
    cases more with
    | nil => rfl
    | cons c others => simp [visible c List.mem_cons_self]
  rw [opened, opened, List.dropWhile_append]
  split
  · rename_i none
    rw [start, inline, List.isEmpty_iff.mp none]
    rfl
  · rw [List.filter_append, inline]

theorem cleaned_of_visible (visible : ∀ c ∈ text.getLast?, isSmall c = false)
    : cleaned text = opened text := by
  rw [cleaned_eq, dropEndWhile_eq_self_iff.mpr visible]

theorem cleaned_append (some : more ≠ []) (visible : ∀ c ∈ more, isSmall c = false)
    : cleaned (text ++ more) = opened text ++ more := by
  rw [cleaned_of_visible, opened_append visible]
  intro c last
  rw [List.getLast?_append_of_ne_nil _ some] at last
  exact visible c (List.mem_of_getLast? last)

-----------------------------------------------------------------------------------------
-- Trimmed texts
-----------------------------------------------------------------------------------------

theorem isFaint_of_isBlank {c : Char} (blank : isBlank c = true) : IsFaint c := by
  simp only [isBlank, Bool.or_eq_true, Bool.and_eq_true, decide_eq_true_eq, beq_iff_eq] at blank
  rw [IsFaint]
  omega

theorem isBlank_of_not_isInline {c : Char} (breaks : isInline c = false) : isBlank c = true := by
  simp only [isInline, Bool.not_eq_false', Bool.or_eq_true, beq_iff_eq] at breaks
  rcases breaks with (rfl | rfl) | rfl <;> decide

/-- Faint characters without tabs and line breaks keep their last one. -/
theorem faintTail_filter (some : more ≠ []) (faint : ∀ c ∈ more, IsFaint c)
    (last : ∀ c ∈ more.getLast?, isInline c = true ∧ c ≠ ' ')
    : FaintTail (more.filter isInline) where
  faint := fun c member => faint c (List.mem_of_mem_filter member)
  last := by
    obtain ⟨front, c, rfl⟩ := (List.eq_nil_or_concat' more).resolve_left some
    obtain ⟨inline, noSpace⟩ := last c List.getLast?_concat
    exact ⟨front.filter isInline, c, by simp [inline], noSpace⟩

/-- Blanks in front of a text that leads to a URL are small. -/
theorem dropWhile_isSmall_dropWhile_isBlank
    (first : ∀ c ∈ (text.dropWhile isSmall).head?, isBlank c = false)
    : (text.dropWhile isBlank).dropWhile isSmall = text.dropWhile isSmall := by
  induction text with
  | nil => rfl
  | cons c rest ih =>
      rw [List.dropWhile_cons] at first ⊢
      cases small : isSmall c with
      | true =>
          rw [small] at first
          split
          · rw [ih first]
            simp [small]
          · simp [small]
      | false =>
          simp only [small, Bool.false_eq_true, if_false, List.head?_cons, Option.mem_some_iff,
            forall_eq'] at first
          simp [first, small]

theorem head?_dropWhile_isSmall {c d : Char} (first : c ∈ (cleaned text).head?)
    (start : d ∈ (text.dropWhile isSmall).head?)
    : c = d := by
  have notSmall : isSmall d = false := by
    have head := List.head?_dropWhile_not isSmall text
    rw [Option.mem_def.mp start] at head
    simpa using head
  have whole : cleaned text = (dropEndWhile isSmall (text.dropWhile isSmall)).filter isInline := rfl
  obtain ⟨more, split, all, -⟩ := exists_dropEndWhile isSmall (text.dropWhile isSmall)
  rw [whole] at first
  generalize dropEndWhile isSmall (text.dropWhile isSmall) = kept at first split
  rw [split] at start
  cases kept with
  | nil => simp [all d (List.mem_of_mem_head? start)] at notSmall
  | cons e others =>
      obtain rfl : e = d := by simpa using start
      simpa [isInline_of_not_isSmall notSmall] using first.symm

theorem not_isBlank_of_isAlpha {c : Char} (letter : c.isAlpha = true) : isBlank c = false := by
  have bounds := Utf8.toNat_of_isAlpha letter
  rw [Bool.eq_false_iff]
  intro blank
  simp only [isBlank, Bool.or_eq_true, Bool.and_eq_true, decide_eq_true_eq, beq_iff_eq] at blank
  omega

/-- A URL of a server starts with a letter. -/
theorem Reaches.exists_first {scheme : Network} {place : Place}
    (reaches : Reaches text scheme place)
    : ∃ c ∈ text.head?, isBlank c = false := by
  obtain ⟨rest, ⟨word, after, rfl, ⟨-, c, first, letter⟩, -⟩, -⟩ := reaches
  exact ⟨c, List.mem_head?_append_of_mem_head? first, not_isBlank_of_isAlpha letter⟩

/-- Trimming leaves what is read as a URL, but may leave control characters at its end, or take away
blanks beyond ASCII that are read.
-/
theorem opened_trim_cases {c : Char} (first : c ∈ (cleaned text).head?)
    (notBlank : isBlank c = false)
    : (cleaned text = opened (trim text) ∧ ∀ d ∈ (trim text).getLast?, isSmall d = false)
      ∨ (∃ tail,
          FaintTail tail
            ∧ (∀ d ∈ tail.getLast?, isSmall d = true)
            ∧ opened (trim text) = cleaned text ++ tail)
      ∨ ∃ tail, FaintTail tail ∧ cleaned text = opened (trim text) ++ tail := by
  have starts : ∀ d ∈ (text.dropWhile isSmall).head?, isBlank d = false :=
    fun d start => head?_dropWhile_isSmall first start ▸ notBlank
  have trimmed : (trim text).dropWhile isSmall
      = dropEndWhile isBlank (text.dropWhile isSmall) := by
    rw [trim, dropWhile_dropEndWhile, Text.trimStart, dropWhile_isSmall_dropWhile_isBlank starts]
  have read : cleaned text = (dropEndWhile isSmall (text.dropWhile isSmall)).filter isInline := rfl
  rw [opened, trimmed]
  rcases Text.dropEndWhile_cases isBlank isSmall (text.dropWhile isSmall) with
    same | ⟨more, some, longer, small, last⟩ | ⟨more, some, longer, blank, last⟩
  · refine .inl ⟨by rw [read, same], fun d ends => ?_⟩
    obtain ⟨-, -, -, visible⟩ := exists_dropEndWhile isSmall (text.dropWhile isSmall)
    obtain ⟨front, whole⟩ := List.dropWhile_suffix (l := trim text) isSmall
    rw [trimmed, same] at whole
    have some : dropEndWhile isSmall (text.dropWhile isSmall) ≠ [] := by
      intro none
      simp [read, none] at first
    rw [← whole, List.getLast?_append_of_ne_nil _ some] at ends
    exact visible d ends
  · refine .inr (.inl ⟨more.filter isInline, ?_, fun d ends => ?_, ?_⟩)
    · refine faintTail_filter some (fun d member => .inl ?_) fun d ends => ⟨?_, ?_⟩
      · simpa [isSmall] using small d member
      · by_contra breaks
        have blank := isBlank_of_not_isInline (by simpa using breaks)
        simp [last d ends] at blank
      · rintro rfl
        exact absurd (last ' ' ends) (by decide)
    · exact small d (List.mem_of_mem_filter (List.mem_of_getLast? ends))
    · rw [read, longer, List.filter_append]
  · refine .inr (.inr ⟨more.filter isInline, ?_, ?_⟩)
    · refine faintTail_filter some (fun d member => isFaint_of_isBlank (blank d member))
        fun d ends => ⟨isInline_of_not_isSmall (last d ends), ?_⟩
      rintro rfl
      exact absurd (last ' ' ends) (by decide)
    · rw [read, longer, List.filter_append]

/-- Reading keeps the last character of a trimmed text. -/
theorem getLast?_opened_trim (some : opened (trim text) ≠ [])
    : (opened (trim text)).getLast? = (trim text).getLast? := by
  obtain ⟨-, -, -, notBlank⟩ := exists_dropEndWhile isBlank (Text.trimStart text)
  obtain ⟨before, whole⟩ := List.dropWhile_suffix (l := trim text) isSmall
  have kept : (trim text).dropWhile isSmall ≠ [] := by
    intro none
    simp [opened, none] at some
  obtain ⟨others, c, last⟩ := (List.eq_nil_or_concat' _).resolve_left kept
  have ends : (trim text).getLast? = .some c := by
    rw [← whole, last, ← List.append_assoc, List.getLast?_concat]
  have inline : isInline c = true := by
    by_contra breaks
    have blank := isBlank_of_not_isInline (by simpa using breaks)
    simp [notBlank c ends] at blank
  rw [ends, opened, last, List.filter_append, List.filter_singleton, inline]
  exact List.getLast?_concat

end SatClient.Url
