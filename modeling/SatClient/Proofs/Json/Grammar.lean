import SatClient.Json.Value

/-! JSON texts as a grammar. A text spells a value whose objects keep all their members, in the
order of the text and as often as they are written; what a reader makes of such a value is a
step of its own. The grammar leaves open which texts are numbers and which are string literals,
since a reader that looks at them closely takes fewer than one that passes over them.
-/

namespace SatClient.Json

open Utf8 (Bytes)

/-- Which texts are numbers, and which are string literals after their first quote: what they stand
for, the text that they start and what follows them.
-/
structure Lexis where
  number : Number → Bytes → Bytes → Prop
  literal : String → Bytes → Bytes → Prop

/-- Space, or nothing. -/
inductive Gap : Bytes → Bytes → Prop
  | none {rest} : Gap rest rest
  | space {b text rest} (isSpace : isSpace b = true) (more : Gap text rest) : Gap (b :: text) rest

/-- What stands before an item or a member: space, and a comma if it is not the first. -/
inductive Separation : Bool → Bytes → Bytes → Prop
  | first {text rest} (gap : Gap text rest) : Separation true text rest
  | comma {text middle rest} (before : Gap text (byte ',' :: middle)) (after : Gap middle rest)
    : Separation false text rest

mutual
/-- A value, the text that it starts and what follows it. -/
inductive Spells (lexis : Lexis) : Value → Bytes → Bytes → Prop
  | null {rest}
    : Spells lexis .null (byte 'n' :: byte 'u' :: byte 'l' :: byte 'l' :: rest) rest
  | true {rest}
    : Spells lexis (.bool true) (byte 't' :: byte 'r' :: byte 'u' :: byte 'e' :: rest) rest
  | false {rest}
    : Spells lexis (.bool false)
        (byte 'f' :: byte 'a' :: byte 'l' :: byte 's' :: byte 'e' :: rest) rest
  | number {n text rest} (numeral : lexis.number n text rest) : Spells lexis (.number n) text rest
  | string {s text rest} (literal : lexis.literal s text rest)
    : Spells lexis (.string s) (byte '"' :: text) rest
  | array {items text rest} (spelled : Items lexis true items text rest)
    : Spells lexis (.array items) (byte '[' :: text) rest
  | object {members text rest} (spelled : Members lexis true members text rest)
    : Spells lexis (.object members) (byte '\x7b' :: text) rest

/-- The items of a list and its end; whether the first of them is the first of the list. -/
inductive Items (lexis : Lexis) : Bool → List Value → Bytes → Bytes → Prop
  | done {first text rest} (gap : Gap text (byte ']' :: rest)) : Items lexis first [] text rest
  | item {first item items text start middle rest} (separation : Separation first text start)
    (spelled : Spells lexis item start middle) (others : Items lexis false items middle rest)
    : Items lexis first (item :: items) text rest

/-- The members of an object and its end; whether the first of them is the first of the object. -/
inductive Members (lexis : Lexis) : Bool → List (String × Value) → Bytes → Bytes → Prop
  | done {first text rest} (gap : Gap text (byte '\x7d' :: rest))
    : Members lexis first [] text rest
  | member {first name member members text start afterName afterColon value middle rest}
    (separation : Separation first text (byte '"' :: start))
    (literal : lexis.literal name start afterName)
    (colon : Gap afterName (byte ':' :: afterColon)) (gap : Gap afterColon value)
    (spelled : Spells lexis member value middle)
    (others : Members lexis false members middle rest)
    : Members lexis first ((name, member) :: members) text rest
end

/-- A whole text holds a value and nothing else but space. -/
inductive Holds (lexis : Lexis) : Value → Bytes → Prop
  | whole {v body start rest} (before : Gap body start) (spelled : Spells lexis v start rest)
    (after : Gap rest [])
    : Holds lexis v body

-----------------------------------------------------------------------------------------
-- Gaps
-----------------------------------------------------------------------------------------

theorem Gap.trans {text middle rest : Bytes} (first : Gap text middle) (second : Gap middle rest)
    : Gap text rest := by
  induction first with
  | none => exact second
  | space isSpace more ih => exact .space isSpace (ih second)

theorem gap_skipSpace (text : Bytes) : Gap text (skipSpace text) := by
  induction text with
  | nil => exact .none
  | cons b tail ih =>
      rw [skipSpace, List.dropWhile_cons]
      split
      next isSpace => exact .space isSpace ih
      next => exact .none

theorem skipSpace_cons {b : UInt8} {rest : Bytes} (noSpace : isSpace b = false)
    : skipSpace (b :: rest) = b :: rest := by
  rw [skipSpace, List.dropWhile_cons_of_neg (ne_true_of_eq_false noSpace)]

theorem Gap.skipSpace_eq {text rest : Bytes} (gap : Gap text rest)
    : skipSpace text = skipSpace rest := by
  induction gap with
  | none => rfl
  | space isSpace more ih =>
      rw [← ih, skipSpace, List.dropWhile_cons_of_pos isSpace, skipSpace]

/-- A gap ends where the space ends. -/
theorem gap_cons_iff {b : UInt8} {text rest : Bytes} (noSpace : isSpace b = false)
    : Gap text (b :: rest) ↔ skipSpace text = b :: rest := by
  constructor
  · intro gap
    rw [gap.skipSpace_eq, skipSpace_cons noSpace]
  · intro skipped
    rw [← skipped]
    exact gap_skipSpace text

theorem gap_nil_iff {text : Bytes} : Gap text [] ↔ skipSpace text = [] := by
  constructor
  · intro gap
    rw [gap.skipSpace_eq]
    rfl
  · intro skipped
    rw [← skipped]
    exact gap_skipSpace text

theorem isSpace_skipSpace {b : UInt8} {text rest : Bytes} (skipped : skipSpace text = b :: rest)
    : isSpace b = false := by
  have head := List.head?_dropWhile_not isSpace text
  rw [skipSpace] at skipped
  rw [skipped] at head
  simpa using head

theorem Gap.length_le {text rest : Bytes} (gap : Gap text rest) : rest.length ≤ text.length := by
  induction gap with
  | none => exact Nat.le_refl _
  | space isSpace more ih =>
      rw [List.length_cons]
      omega

theorem Separation.gap {first : Bool} {text middle rest : Bytes}
    (separation : Separation first text middle) (gap : Gap middle rest)
    : Separation first text rest := by
  cases separation with
  | first before => exact .first (before.trans gap)
  | comma before after => exact .comma before (after.trans gap)

theorem Separation.length_le {first : Bool} {text rest : Bytes}
    (separation : Separation first text rest)
    : rest.length ≤ text.length := by
  cases separation with
  | first gap => exact gap.length_le
  | comma before after =>
      have left := before.length_le
      have right := after.length_le
      rw [List.length_cons] at left
      omega

-----------------------------------------------------------------------------------------
-- Progress
-----------------------------------------------------------------------------------------

/-- Numbers and literals take bytes, and the first byte tells that a number follows. -/
structure Lexis.IsProper (lexis : Lexis) : Prop where
  numberStart : ∀ {n text rest}, lexis.number n text rest →
    ∃ b tail, text = b :: tail ∧ (isDigit b = true ∨ b = byte '-')
  numberShorter : ∀ {n text rest}, lexis.number n text rest → rest.length < text.length
  literalShorter : ∀ {s text rest}, lexis.literal s text rest → rest.length < text.length

/-- No space and no bracket at the end of a list. -/
structure StartsValue (b : UInt8) : Prop where
  noSpace : isSpace b = false
  noEnd : b ≠ byte ']'

theorem ne_of_isDigit {b c : UInt8} (digit : isDigit b = true) (noDigit : isDigit c = false)
    : b ≠ c := by
  rintro rfl
  rw [digit] at noDigit
  cases noDigit

theorem isSpace_of_isDigit {b : UInt8} (digit : isDigit b = true) : isSpace b = false := by
  have other : ∀ c, isDigit c = false → b ≠ c := fun _ noDigit => ne_of_isDigit digit noDigit
  simp only [isSpace, Bool.or_eq_false_iff, beq_eq_false_iff_ne]
  exact ⟨⟨⟨other _ (by decide), other _ (by decide)⟩, other _ (by decide)⟩, other _ (by decide)⟩

theorem Spells.start {lexis : Lexis} (proper : lexis.IsProper) {v : Value} {text rest : Bytes}
    (spelled : Spells lexis v text rest)
    : ∃ b tail, text = b :: tail ∧ StartsValue b := by
  cases spelled with
  | number numeral =>
      obtain ⟨b, tail, rfl, starts⟩ := proper.numberStart numeral
      refine ⟨b, tail, rfl, ?_⟩
      rcases starts with digit | rfl
      · exact ⟨isSpace_of_isDigit digit, ne_of_isDigit digit (by decide)⟩
      · exact ⟨by decide, by decide⟩
  | _ => exact ⟨_, _, rfl, by decide, by decide⟩

mutual
theorem Spells.length_lt {lexis : Lexis} (proper : lexis.IsProper) {v : Value}
    {text rest : Bytes}
    : Spells lexis v text rest → rest.length < text.length
  | .null => by simp only [List.length_cons]; omega
  | .true => by simp only [List.length_cons]; omega
  | .false => by simp only [List.length_cons]; omega
  | .number numeral => proper.numberShorter numeral
  | .string literal => Nat.lt_succ_of_lt (proper.literalShorter literal)
  | .array spelled => Nat.lt_succ_of_lt (spelled.length_lt proper)
  | .object spelled => Nat.lt_succ_of_lt (spelled.length_lt proper)

theorem Items.length_lt {lexis : Lexis} (proper : lexis.IsProper) {first : Bool}
    {items : List Value} {text rest : Bytes}
    : Items lexis first items text rest → rest.length < text.length
  | .done gap => gap.length_le
  | .item separation spelled others => by
      have := separation.length_le
      have := spelled.length_lt proper
      have := others.length_lt proper
      omega

theorem Members.length_lt {lexis : Lexis} (proper : lexis.IsProper) {first : Bool}
    {members : List (String × Value)} {text rest : Bytes}
    : Members lexis first members text rest → rest.length < text.length
  | .done gap => gap.length_le
  | .member separation literal colon gap spelled others => by
      have := separation.length_le
      have := proper.literalShorter literal
      have := colon.length_le
      have := gap.length_le
      have := spelled.length_lt proper
      have := others.length_lt proper
      simp only [List.length_cons] at *
      omega
end

end SatClient.Json
