import SatClient.Proofs.Json.Reading

/-! Passing over a JSON text. What can be passed over are the texts of the same grammar, with every
numeral of JSON however large, and with literals whose bytes need not be a text.
-/

namespace SatClient.Json

open Utf8 (Bytes)

/-- Digits, at least one and as many as there are. -/
inductive DigitRun : Bytes → Bytes → Prop
  | last {b rest} (isDigit : isDigit b = true) (ends : startsWithDigit rest = false)
    : DigitRun (b :: rest) rest
  | more {b text rest} (isDigit : isDigit b = true) (run : DigitRun text rest)
    : DigitRun (b :: text) rest

/-- The digits of a numeral up to its point: no zero before another digit. -/
inductive WholePart : Bytes → Bytes → Prop
  | zero {rest} (ends : startsWithDigit rest = false) : WholePart (byte '0' :: rest) rest
  | digits {b text rest} (notZero : b ≠ byte '0') (run : DigitRun (b :: text) rest)
    : WholePart (b :: text) rest

/-- The point of a numeral and the digits after it, or nothing. -/
inductive FractionPart : Bytes → Bytes → Prop
  | none {rest} (ends : ∀ tail, rest ≠ byte '.' :: tail) : FractionPart rest rest
  | digits {text rest} (run : DigitRun text rest) : FractionPart (byte '.' :: text) rest

/-- The sign of an exponent, or nothing. -/
inductive SignPart : Bytes → Bytes → Prop
  | none {rest} : SignPart rest rest
  | plus {rest} : SignPart (byte '+' :: rest) rest
  | minus {rest} : SignPart (byte '-' :: rest) rest

/-- The exponent of a numeral, or nothing. -/
inductive ExponentPart : Bytes → Bytes → Prop
  | none {rest} (ends : startsWithExponent rest = false) : ExponentPart rest rest
  | digits {b text middle rest} (letter : b = byte 'e' ∨ b = byte 'E')
    (sign : SignPart text middle) (run : DigitRun middle rest) : ExponentPart (b :: text) rest

/-- A numeral after its sign. -/
inductive UnsignedNumeral : Bytes → Bytes → Prop
  | parts {text afterWhole afterFraction rest} (whole : WholePart text afterWhole)
    (fraction : FractionPart afterWhole afterFraction) (exponent : ExponentPart afterFraction rest)
    : UnsignedNumeral text rest

/-- A numeral of whatever size. -/
inductive AnyNumeral : Bytes → Bytes → Prop
  | positive {text rest} (numeral : UnsignedNumeral text rest) : AnyNumeral text rest
  | negative {text rest} (numeral : UnsignedNumeral text rest)
    : AnyNumeral (byte '-' :: text) rest

/-- An escape after its backslash, of whatever number. -/
inductive AnyEscape : Bytes → Bytes → Prop
  | short {b c rest} (letter : shortEscape? b = some c) : AnyEscape (b :: rest) rest
  | numbered {digits n rest} (hex : HexFour digits n)
    : AnyEscape (byte 'u' :: (digits ++ rest)) rest

/-- A literal after its first quote, of whatever bytes. -/
inductive AnyLiteral : Bytes → Bytes → Prop
  | close {rest} : AnyLiteral (byte '"' :: rest) rest
  | plain {b text rest} (isPlain : IsPlain b) (more : AnyLiteral text rest)
    : AnyLiteral (b :: text) rest
  | escaped {text middle rest} (escape : AnyEscape text middle) (more : AnyLiteral middle rest)
    : AnyLiteral (byte '\\' :: text) rest

/-- Numbers and string literals that are passed over: what they stand for does not matter. -/
def lax : Lexis where
  number := fun _ text rest => AnyNumeral text rest
  literal := fun _ text rest => AnyLiteral text rest

-----------------------------------------------------------------------------------------
-- Numerals
-----------------------------------------------------------------------------------------

theorem dropWhile_isDigit {rest : Bytes} (ends : startsWithDigit rest = false)
    : rest.dropWhile isDigit = rest := by
  cases rest with
  | nil => rfl
  | cons b tail => exact List.dropWhile_cons_of_neg (ne_true_of_eq_false ends)

theorem digitRun_iff {text rest : Bytes}
    : DigitRun text rest ↔ startsWithDigit text = true ∧ text.dropWhile isDigit = rest := by
  constructor
  · intro run
    induction run with
    | last digit ends =>
        refine ⟨digit, ?_⟩
        rw [List.dropWhile_cons_of_pos digit, dropWhile_isDigit ends]
    | more digit run ih =>
        refine ⟨digit, ?_⟩
        rw [List.dropWhile_cons_of_pos digit]
        exact ih.2
  · rintro ⟨starts, rfl⟩
    induction text with
    | nil => cases starts
    | cons b tail ih =>
        have digit : isDigit b = true := starts
        rw [List.dropWhile_cons_of_pos digit]
        cases next : startsWithDigit tail with
        | true => exact .more digit (ih next)
        | false =>
            rw [dropWhile_isDigit next]
            exact .last digit next

theorem exponentSign_part (text : Bytes) : SignPart text (exponentSign text).2 := by
  cases text with
  | nil => exact .none
  | cons b tail =>
      rw [exponentSign]
      split
      next isPlus =>
        cases eq_of_beq isPlus
        exact .plus
      next =>
        split
        next isMinus =>
          cases eq_of_beq isMinus
          exact .minus
        next => exact .none

theorem SignPart.exponentSign_eq {text rest : Bytes} (sign : SignPart text rest)
    (digit : startsWithDigit rest = true)
    : (exponentSign text).2 = rest := by
  cases sign with
  | none =>
      cases text with
      | nil => rfl
      | cons b tail =>
          have noPlus : b ≠ byte '+' := by
            rintro rfl
            cases digit
          have noMinus : b ≠ byte '-' := by
            rintro rfl
            cases digit
          rw [exponentSign, if_neg (mt eq_of_beq noPlus), if_neg (mt eq_of_beq noMinus)]
  | plus => rfl
  | minus => rfl

theorem skipExponent_eq_ok_iff {text rest : Bytes} {found : Unit}
    : skipExponent text = .ok (found, rest)
      ↔ startsWithDigit (exponentSign text).2 = true
        ∧ (exponentSign text).2.dropWhile isDigit = rest := by
  rw [skipExponent]
  split
  next b tail isRest =>
    rw [isRest, startsWithDigit]
    split
    next digit =>
      rw [List.dropWhile_cons_of_pos digit]
      simp [digit]
    next noDigit => simp [noDigit]
  next isRest => simp [isRest, startsWithDigit]

theorem startsWithExponent_eq_true_iff {text : Bytes}
    : startsWithExponent text = true
      ↔ ∃ b tail, text = b :: tail ∧ (b = byte 'e' ∨ b = byte 'E') := by
  cases text with
  | nil => simp [startsWithExponent]
  | cons b tail => simp [startsWithExponent]

theorem skipAfterDigits_eq_ok_iff {text rest : Bytes} {found : Unit}
    : skipAfterDigits text = .ok (found, rest) ↔ ExponentPart text rest := by
  rw [skipAfterDigits]
  split
  next starts =>
    obtain ⟨b, tail, rfl, letter⟩ := startsWithExponent_eq_true_iff.mp starts
    rw [List.drop_one, List.tail_cons, skipExponent_eq_ok_iff, ← digitRun_iff]
    constructor
    · exact fun run => .digits letter (exponentSign_part tail) run
    · intro part
      cases part with
      | none ends =>
          rw [starts] at ends
          cases ends
      | digits _ sign run =>
          rw [sign.exponentSign_eq (digitRun_iff.mp run).1]
          exact run
  next noStart =>
    constructor
    · intro done
      cases done
      exact .none (eq_false_of_ne_true noStart)
    · intro part
      cases part with
      | none ends => rfl
      | digits letter sign run =>
          exact absurd (startsWithExponent_eq_true_iff.mpr ⟨_, _, rfl, letter⟩) noStart

theorem skipAfterWhole_eq_ok_iff {text rest : Bytes} {found : Unit}
    : skipAfterWhole text = .ok (found, rest)
      ↔ ∃ middle, FractionPart text middle ∧ ExponentPart middle rest := by
  have plain : (∀ tail, text ≠ byte '.' :: tail) →
      (skipAfterDigits text = .ok (found, rest)
        ↔ ∃ middle, FractionPart text middle ∧ ExponentPart middle rest) := by
    intro noPoint
    rw [skipAfterDigits_eq_ok_iff]
    constructor
    · exact fun exponent => ⟨text, .none noPoint, exponent⟩
    · rintro ⟨middle, fraction, exponent⟩
      cases fraction with
      | none => exact exponent
      | digits run => exact absurd rfl (noPoint _)
  cases text with
  | nil =>
      rw [← plain nofun]
      rfl
  | cons b tail =>
      rw [skipAfterWhole]
      split
      next isPoint =>
        cases eq_of_beq isPoint
        split
        next digit =>
          rw [skipAfterDigits_eq_ok_iff]
          constructor
          · exact fun exponent => ⟨_, .digits (digitRun_iff.mpr ⟨digit, rfl⟩), exponent⟩
          · rintro ⟨middle, fraction, exponent⟩
            cases fraction with
            | none ends => exact absurd rfl (ends tail)
            | digits run =>
                rw [(digitRun_iff.mp run).2]
                exact exponent
        next noDigit =>
          constructor
          · intro done
            cases done
          · rintro ⟨middle, fraction, exponent⟩
            cases fraction with
            | none ends => exact absurd rfl (ends tail)
            | digits run => exact absurd (digitRun_iff.mp run).1 noDigit
      next noPoint =>
        refine plain fun tail same => noPoint ?_
        cases same
        decide

theorem skipNumber_eq_ok_iff {text rest : Bytes} {found : Unit}
    : skipNumber text = .ok (found, rest) ↔ UnsignedNumeral text rest := by
  constructor
  · intro done
    cases text with
    | nil => cases done
    | cons b tail =>
        rw [skipNumber] at done
        split at done
        next isZero =>
          cases eq_of_beq isZero
          split at done
          next => cases done
          next noDigit =>
            obtain ⟨middle, fraction, exponent⟩ := skipAfterWhole_eq_ok_iff.mp done
            exact .parts (.zero (eq_false_of_ne_true noDigit)) fraction exponent
        next notZero =>
          split at done
          next digit =>
            obtain ⟨middle, fraction, exponent⟩ := skipAfterWhole_eq_ok_iff.mp done
            have starts : startsWithDigit (b :: tail) = true := digit
            have run := digitRun_iff.mpr ⟨starts, List.dropWhile_cons_of_pos digit⟩
            exact .parts (.digits (mt beq_iff_eq.mpr notZero) run) fraction exponent
          next => cases done
  · rintro ⟨whole, fraction, exponent⟩
    have others : skipAfterWhole _ = .ok (found, rest) :=
      skipAfterWhole_eq_ok_iff.mpr ⟨_, fraction, exponent⟩
    cases whole with
    | zero ends =>
        rw [skipNumber, if_pos (by decide), ends, if_neg Bool.false_ne_true]
        exact others
    | @digits b text _ notZero run =>
        obtain ⟨digit, isRest⟩ := digitRun_iff.mp run
        have digit : isDigit b = true := digit
        rw [List.dropWhile_cons_of_pos digit] at isRest
        rw [skipNumber, if_neg (mt eq_of_beq notZero), if_pos digit, isRest]
        exact others

-----------------------------------------------------------------------------------------
-- Literals
-----------------------------------------------------------------------------------------

theorem AnyEscape.length_lt {text rest : Bytes} (escape : AnyEscape text rest)
    : rest.length < text.length := by
  cases escape <;> simp only [List.length_cons, List.length_append] <;> omega

theorem AnyLiteral.length_lt {text rest : Bytes} (literal : AnyLiteral text rest)
    : rest.length < text.length := by
  induction literal with
  | close => simp
  | plain isPlain more ih =>
      rw [List.length_cons]
      omega
  | escaped escape more ih =>
      have shorter := escape.length_lt
      rw [List.length_cons]
      omega

theorem skipEscape_eq_ok_iff {text rest : Bytes} {found : Unit}
    : skipEscape text = .ok (found, rest) ↔ AnyEscape text rest := by
  constructor
  · intro done
    cases text with
    | nil => cases done
    | cons b tail =>
        rw [skipEscape] at done
        split at done
        next isShort =>
          cases done
          obtain ⟨c, letter⟩ := Option.isSome_iff_exists.mp isShort
          exact .short letter
        next =>
          split at done
          next isU =>
            cases eq_of_beq isU
            obtain ⟨⟨n, middle⟩, read, done⟩ := exists_of_bind_eq_ok done
            cases done
            obtain ⟨digits, hex, rfl⟩ := hexFour_eq_ok_iff.mp read
            exact .numbered hex
          next => cases done
  · intro escape
    cases escape with
    | short letter =>
        rw [skipEscape, letter]
        rfl
    | numbered hex =>
        have notShort : (shortEscape? (byte 'u')).isSome = false := by decide
        rw [skipEscape, notShort, if_neg Bool.false_ne_true, if_pos (by decide),
          hexFour_eq_ok_iff.mpr ⟨_, hex, rfl⟩]
        rfl

/-- By induction on the fuel, which lasts as long as there are bytes. -/
theorem skipLiteralLoop_eq_ok_iff {fuel : Nat} {text rest : Bytes} {found : Unit}
    (enough : text.length ≤ fuel)
    : skipLiteralLoop fuel text = .ok (found, rest) ↔ AnyLiteral text rest := by
  induction fuel generalizing text with
  | zero =>
      cases List.length_eq_zero_iff.mp (Nat.le_zero.mp enough)
      exact ⟨nofun, nofun⟩
  | succ fuel ih =>
      cases text with
      | nil => exact ⟨nofun, nofun⟩
      | cons b tail =>
          have less : tail.length ≤ fuel := Nat.le_of_succ_le_succ enough
          rw [skipLiteralLoop]
          split
          next isQuote =>
            cases eq_of_beq isQuote
            constructor
            · intro done
              cases done
              exact .close
            · intro literal
              cases literal with
              | close => rfl
              | plain isPlain => exact absurd rfl isPlain.noQuote
          next notQuote =>
            split
            next isBackslash =>
              cases eq_of_beq isBackslash
              simp only [bind_eq_ok_iff, Prod.exists, skipEscape_eq_ok_iff]
              constructor
              · rintro ⟨_, middle, escape, done⟩
                have shorter := escape.length_lt
                exact .escaped escape ((ih (by omega)).mp done)
              · intro literal
                cases literal with
                | plain isPlain => exact absurd rfl isPlain.noBackslash
                | @escaped _ middle _ escape more =>
                    have shorter := escape.length_lt
                    exact ⟨(), middle, escape, (ih (by omega)).mpr more⟩
            next notBackslash =>
              split
              next control =>
                refine ⟨nofun, fun literal => ?_⟩
                cases literal with
                | close => exact absurd rfl notQuote
                | plain isPlain => exact absurd control isPlain.noControl
                | escaped => exact absurd rfl notBackslash
              next noControl =>
                rw [ih less]
                constructor
                · exact .plain
                    ⟨mt beq_iff_eq.mpr notQuote, mt beq_iff_eq.mpr notBackslash, noControl⟩
                · intro literal
                  cases literal with
                  | close => exact absurd rfl notQuote
                  | plain _ more => exact more
                  | escaped => exact absurd rfl notBackslash

theorem skipLiteral_eq_ok_iff {text rest : Bytes} {found : Unit}
    : skipLiteral text = .ok (found, rest) ↔ AnyLiteral text rest :=
  skipLiteralLoop_eq_ok_iff (Nat.le_refl _)

-----------------------------------------------------------------------------------------
-- What is passed over is spelled there
-----------------------------------------------------------------------------------------

/-- Space before a value is passed over. -/
theorem skipValue_gap {fuel : Nat} {text start : Bytes} (gap : Gap text start)
    : skipValue (fuel + 1) text = skipValue (fuel + 1) start := by
  rw [skipValue, skipValue, gap.skipSpace_eq]

/-- A value of a byte that opens nothing: a word, a number or a literal. -/
theorem spells_of_skipped_scalar {fuel : Nat} {b : UInt8} {tail rest : Bytes} {found : Unit}
    (skipped : skipValue (fuel + 1) (b :: tail) = .ok (found, rest)) (noSpace : isSpace b = false)
    (noBracket : b ≠ byte '[') (noBrace : b ≠ byte '\x7b')
    : ∃ v, Spells lax v (b :: tail) rest := by
  rw [skipValue, skipSpace_cons noSpace] at skipped
  simp only [beq_iff_eq] at skipped
  split_ifs at skipped with isN isT isF isSign digit isQuote
  · subst isN
    rw [word_eq_ok_iff.mp skipped]
    exact ⟨_, .null⟩
  · subst isT
    rw [word_eq_ok_iff.mp skipped]
    exact ⟨_, .true⟩
  · subst isF
    rw [word_eq_ok_iff.mp skipped]
    exact ⟨_, .false⟩
  · subst isSign
    exact ⟨.number (.natural 0), .number (.negative (skipNumber_eq_ok_iff.mp skipped))⟩
  · exact ⟨.number (.natural 0), .number (.positive (skipNumber_eq_ok_iff.mp skipped))⟩
  · subst isQuote
    exact ⟨.string "", .string (skipLiteral_eq_ok_iff.mp skipped)⟩

/-- A name and its colon. -/
theorem skipName_eq_ok_iff {text rest : Bytes} {found : Unit}
    : skipName text = .ok (found, rest)
      ↔ ∃ start afterName,
          Gap text (byte '"' :: start)
          ∧ AnyLiteral start afterName
          ∧ Gap afterName (byte ':' :: rest) := by
  simp only [gap_cons_iff (by decide : isSpace (byte '"') = false)]
  rw [skipName]
  cases skipSpace text with
  | nil => simp
  | cons b tail =>
      dsimp only
      by_cases isQuote : b = byte '"'
      · rw [if_pos (beq_iff_eq.mpr isQuote)]
        simp only [bind_eq_ok_iff, Prod.exists, skipLiteral_eq_ok_iff, colon_eq_ok_iff]
        constructor
        · rintro ⟨_, afterName, literal, gap⟩
          exact ⟨tail, afterName, by rw [isQuote], literal, gap⟩
        · rintro ⟨start, afterName, same, literal, gap⟩
          cases same
          exact ⟨(), afterName, literal, gap⟩
      · rw [if_neg (mt eq_of_beq isQuote)]
        refine ⟨nofun, ?_⟩
        rintro ⟨start, afterName, same, -⟩
        cases same
        exact absurd rfl isQuote

theorem skipName_gap {text start : Bytes} (gap : Gap text start)
    : skipName text = skipName start := by
  rw [skipName, skipName, gap.skipSpace_eq]

/-- A list ends, or goes on with an item. -/
theorem skipItems_cases {fuel : Nat} {first : Bool} {text rest : Bytes} {found : Unit}
    (skipped : skipItems (fuel + 1) first text = .ok (found, rest))
    : Gap text (byte ']' :: rest)
      ∨ ∃ start middle,
          Separation first text start
          ∧ skipValue fuel start = .ok ((), middle)
          ∧ skipItems fuel false middle = .ok (found, rest) := by
  rw [skipItems] at skipped
  split at skipped
  next => cases skipped
  next b tail start =>
    have gap := (gap_cons_iff (isSpace_skipSpace start)).mpr start
    split at skipped
    next isEnd =>
      cases skipped
      cases eq_of_beq isEnd
      exact .inl gap
    next =>
      split at skipped
      next isFirst =>
        cases isFirst
        obtain ⟨⟨_, middle⟩, isItem, others⟩ := exists_of_bind_eq_ok skipped
        exact .inr ⟨_, middle, .first gap, isItem, others⟩
      next notFirst =>
        cases eq_false_of_ne_true notFirst
        split at skipped
        next isComma =>
          cases eq_of_beq isComma
          obtain ⟨⟨_, middle⟩, isItem, others⟩ := exists_of_bind_eq_ok skipped
          exact .inr ⟨_, middle, .comma gap .none, isItem, others⟩
        next => cases skipped

/-- An object ends, or goes on with a member. -/
theorem skipMembers_cases {fuel : Nat} {first : Bool} {text rest : Bytes} {found : Unit}
    (skipped : skipMembers (fuel + 1) first text = .ok (found, rest))
    : Gap text (byte '\x7d' :: rest)
      ∨ ∃ start afterColon middle,
          Separation first text start
          ∧ skipName start = .ok ((), afterColon)
          ∧ skipValue fuel afterColon = .ok ((), middle)
          ∧ skipMembers fuel false middle = .ok (found, rest) := by
  rw [skipMembers] at skipped
  split at skipped
  next => cases skipped
  next b tail start =>
    have gap := (gap_cons_iff (isSpace_skipSpace start)).mpr start
    split at skipped
    next isEnd =>
      cases skipped
      cases eq_of_beq isEnd
      exact .inl gap
    next =>
      split at skipped
      next isFirst =>
        cases isFirst
        obtain ⟨⟨_, afterColon⟩, isName, skipped⟩ := exists_of_bind_eq_ok skipped
        obtain ⟨⟨_, middle⟩, isMember, others⟩ := exists_of_bind_eq_ok skipped
        exact .inr ⟨_, afterColon, middle, .first gap, isName, isMember, others⟩
      next notFirst =>
        cases eq_false_of_ne_true notFirst
        split at skipped
        next isComma =>
          cases eq_of_beq isComma
          obtain ⟨⟨_, afterColon⟩, isName, skipped⟩ := exists_of_bind_eq_ok skipped
          obtain ⟨⟨_, middle⟩, isMember, others⟩ := exists_of_bind_eq_ok skipped
          exact .inr ⟨_, afterColon, middle, .comma gap .none, isName, isMember, others⟩
        next => cases skipped

mutual
/-- By induction on the fuel, together with items and members. -/
theorem spells_of_skipValue : ∀ (fuel : Nat) {text rest : Bytes} {found : Unit},
    skipValue fuel text = .ok (found, rest) →
      ∃ v start, Gap text start ∧ Spells lax v start rest
  | fuel + 1, text, rest, found, skipped => by
      have gap := gap_skipSpace text
      rw [skipValue_gap gap] at skipped
      cases start : skipSpace text with
      | nil =>
          rw [start] at skipped
          cases skipped
      | cons b tail =>
          rw [start] at skipped gap
          by_cases isBracket : b = byte '['
          · subst isBracket
            have isList : ∃ items, Items lax true items tail rest := items_of_skipItems fuel skipped
            obtain ⟨items, spelled⟩ := isList
            exact ⟨.array items, _, gap, .array spelled⟩
          · by_cases isBrace : b = byte '\x7b'
            · subst isBrace
              have isObject : ∃ members, Members lax true members tail rest :=
                members_of_skipMembers fuel skipped
              obtain ⟨members, spelled⟩ := isObject
              exact ⟨.object members, _, gap, .object spelled⟩
            · obtain ⟨v, spelled⟩ :=
                spells_of_skipped_scalar skipped (isSpace_skipSpace start) isBracket isBrace
              exact ⟨v, _, gap, spelled⟩

theorem items_of_skipItems : ∀ (fuel : Nat) {first : Bool} {text rest : Bytes} {found : Unit},
    skipItems fuel first text = .ok (found, rest) → ∃ items, Items lax first items text rest
  | fuel + 1, first, text, rest, found, skipped => by
      rcases skipItems_cases skipped with gap | ⟨start, middle, separation, isItem, areOthers⟩
      · exact ⟨[], .done gap⟩
      · obtain ⟨item, value, gap, spelled⟩ := spells_of_skipValue fuel isItem
        obtain ⟨items, others⟩ := items_of_skipItems fuel areOthers
        exact ⟨item :: items, .item (separation.gap gap) spelled others⟩

theorem members_of_skipMembers : ∀ (fuel : Nat) {first : Bool} {text rest : Bytes} {found : Unit},
    skipMembers fuel first text = .ok (found, rest) → ∃ members, Members lax first members text rest
  | fuel + 1, first, text, rest, found, skipped => by
      rcases skipMembers_cases skipped with
        gap | ⟨start, afterColon, middle, separation, isName, isMember, areOthers⟩
      · exact ⟨[], .done gap⟩
      · obtain ⟨name, afterName, before, literal, colon⟩ := skipName_eq_ok_iff.mp isName
        obtain ⟨member, value, gap, spelled⟩ := spells_of_skipValue fuel isMember
        obtain ⟨members, others⟩ := members_of_skipMembers fuel areOthers
        exact ⟨("", member) :: members,
          .member (separation.gap before) literal colon gap spelled others⟩
end

-----------------------------------------------------------------------------------------
-- What is spelled is passed over
-----------------------------------------------------------------------------------------

theorem DigitRun.start {text rest : Bytes} (run : DigitRun text rest)
    : ∃ b tail, text = b :: tail ∧ isDigit b = true := by
  cases run with
  | last digit _ => exact ⟨_, _, rfl, digit⟩
  | more digit _ => exact ⟨_, _, rfl, digit⟩

theorem DigitRun.length_lt {text rest : Bytes} (run : DigitRun text rest)
    : rest.length < text.length := by
  induction run with
  | last => exact Nat.lt_succ_self _
  | more _ _ ih => exact Nat.lt_succ_of_lt ih

theorem SignPart.length_le {text rest : Bytes} (sign : SignPart text rest)
    : rest.length ≤ text.length := by
  cases sign with
  | none => exact Nat.le_refl _
  | plus => exact Nat.le_succ _
  | minus => exact Nat.le_succ _

theorem ExponentPart.length_le {text rest : Bytes} (exponent : ExponentPart text rest)
    : rest.length ≤ text.length := by
  cases exponent with
  | none => exact Nat.le_refl _
  | digits _ sign run =>
      have := sign.length_le
      have := run.length_lt
      rw [List.length_cons]
      omega

theorem FractionPart.length_le {text rest : Bytes} (fraction : FractionPart text rest)
    : rest.length ≤ text.length := by
  cases fraction with
  | none => exact Nat.le_refl _
  | digits run => exact Nat.le_of_lt (Nat.lt_succ_of_lt run.length_lt)

theorem UnsignedNumeral.start {text rest : Bytes} (numeral : UnsignedNumeral text rest)
    : ∃ b tail, text = b :: tail ∧ isDigit b = true := by
  obtain ⟨whole, -, -⟩ := numeral
  cases whole with
  | zero => exact ⟨_, _, rfl, by decide⟩
  | digits _ run => exact run.start

theorem UnsignedNumeral.length_lt {text rest : Bytes} (numeral : UnsignedNumeral text rest)
    : rest.length < text.length := by
  obtain ⟨whole, fraction, exponent⟩ := numeral
  have := fraction.length_le
  have := exponent.length_le
  cases whole with
  | zero =>
      rw [List.length_cons]
      omega
  | digits _ run =>
      have := run.length_lt
      omega

theorem isProper_lax : lax.IsProper where
  numberStart := by
    intro n text rest numeral
    cases numeral with
    | positive numeral =>
        obtain ⟨b, tail, rfl, digit⟩ := numeral.start
        exact ⟨b, tail, rfl, .inl digit⟩
    | negative numeral => exact ⟨_, _, rfl, .inr rfl⟩
  numberShorter := by
    intro n text rest numeral
    cases numeral with
    | positive numeral => exact numeral.length_lt
    | negative numeral => exact Nat.lt_succ_of_lt numeral.length_lt
  literalShorter := AnyLiteral.length_lt

theorem skipValue_digit {fuel : Nat} {b : UInt8} {tail : Bytes} (digit : isDigit b = true)
    : skipValue (fuel + 1) (b :: tail) = skipNumber (b :: tail) := by
  have other : ∀ c, isDigit c = false → b ≠ c := fun _ noDigit => ne_of_isDigit digit noDigit
  rw [skipValue, skipSpace_cons (isSpace_of_isDigit digit)]
  simp only [beq_iff_eq, other (byte 'n') (by decide), other (byte 't') (by decide),
    other (byte 'f') (by decide), other (byte '-') (by decide), digit, if_false, if_true]

theorem skipValue_number {fuel : Nat} {text rest : Bytes} (numeral : AnyNumeral text rest)
    : skipValue (fuel + 1) text = .ok ((), rest) := by
  cases numeral with
  | positive numeral =>
      obtain ⟨b, tail, rfl, digit⟩ := numeral.start
      rw [skipValue_digit digit, skipNumber_eq_ok_iff.mpr numeral]
  | negative numeral => exact skipNumber_eq_ok_iff.mpr numeral

/-- Before an item there is space, or a comma between spaces. -/
theorem skipItems_more {fuel : Nat} {first : Bool} {text tail : Bytes} {b : UInt8}
    (separation : Separation first text (b :: tail)) (starts : StartsValue b)
    : skipItems (fuel + 2) first text
      = skipValue (fuel + 1) (b :: tail) >>= fun item => skipItems (fuel + 1) false item.2 := by
  rw [skipItems]
  cases separation with
  | first gap =>
      rw [(gap_cons_iff starts.noSpace).mp gap]
      simp only [beq_iff_eq, starts.noEnd, if_false, if_true]
  | comma before after =>
      -- The space behind a comma is left to the value.
      rw [(gap_cons_iff (by decide)).mp before, ← skipValue_gap after]
      rfl

/-- Before a member there is space, or a comma between spaces. -/
theorem skipMembers_more {fuel : Nat} {first : Bool} {text tail : Bytes}
    (separation : Separation first text (byte '"' :: tail))
    : skipMembers (fuel + 1) first text
      = skipName (byte '"' :: tail) >>= fun name =>
          skipValue fuel name.2 >>= fun member => skipMembers fuel false member.2 := by
  rw [skipMembers]
  cases separation with
  | first gap =>
      rw [(gap_cons_iff (by decide)).mp gap]
      rfl
  | comma before after =>
      rw [(gap_cons_iff (by decide)).mp before, ← skipName_gap after]
      rfl

mutual
/-- By induction on the derivation, together with items and members; the fuel is that of the reader
of values.
-/
theorem Spells.skipValue_eq {v : Value} {text rest : Bytes} {fuel : Nat}
    : Spells lax v text rest → 2 * text.length ≤ fuel + 1 + 2 * rest.length →
        skipValue (fuel + 1) text = .ok ((), rest)
  | .null, _ => rfl
  | .true, _ => rfl
  | .false, _ => rfl
  | .number numeral, _ => skipValue_number numeral
  | .string literal, _ => skipLiteral_eq_ok_iff.mpr literal
  | .array spelled, enough => by
      rw [List.length_cons] at enough
      exact spelled.skipItems_eq (by omega)
  | .object spelled, enough => by
      rw [List.length_cons] at enough
      exact spelled.skipMembers_eq (by omega)

theorem Items.skipItems_eq {first : Bool} {items : List Value} {text rest : Bytes} {fuel : Nat}
    : Items lax first items text rest → 2 * text.length + 1 ≤ fuel + 2 * rest.length →
        skipItems fuel first text = .ok ((), rest)
  | .done gap, enough => by
      have less := gap.length_le
      rw [List.length_cons] at less
      obtain ⟨fuel, rfl⟩ : ∃ less, fuel = less + 1 := ⟨fuel - 1, by omega⟩
      rw [skipItems, (gap_cons_iff (by decide)).mp gap]
      rfl
  | .item separation spelled others, enough => by
      obtain ⟨b, tail, rfl, starts⟩ := spelled.start isProper_lax
      have less := separation.length_le
      have lessItem := spelled.length_lt isProper_lax
      have lessOthers := others.length_lt isProper_lax
      obtain ⟨fuel, rfl⟩ : ∃ less, fuel = less + 2 := ⟨fuel - 2, by omega⟩
      rw [skipItems_more separation starts, spelled.skipValue_eq (by omega)]
      exact others.skipItems_eq (by omega)

theorem Members.skipMembers_eq {first : Bool} {members : List (String × Value)}
    {text rest : Bytes} {fuel : Nat}
    : Members lax first members text rest → 2 * text.length + 1 ≤ fuel + 2 * rest.length →
        skipMembers fuel first text = .ok ((), rest)
  | .done gap, enough => by
      have less := gap.length_le
      rw [List.length_cons] at less
      obtain ⟨fuel, rfl⟩ : ∃ less, fuel = less + 1 := ⟨fuel - 1, by omega⟩
      rw [skipMembers, (gap_cons_iff (by decide)).mp gap]
      rfl
  | .member separation literal colon gap spelled others, enough => by
      have isName : skipName _ = .ok ((), _) :=
        skipName_eq_ok_iff.mpr ⟨_, _, .none, literal, colon⟩
      have less := separation.length_le
      have lessName := literal.length_lt
      have lessColon := colon.length_le
      have lessGap := gap.length_le
      have lessMember := spelled.length_lt isProper_lax
      have lessOthers := others.length_lt isProper_lax
      simp only [List.length_cons] at less lessColon
      obtain ⟨fuel, rfl⟩ : ∃ less, fuel = less + 2 := ⟨fuel - 2, by omega⟩
      rw [skipMembers_more separation, isName]
      change (skipValue (fuel + 1) _ >>= fun member => skipMembers (fuel + 1) false member.2) = _
      rw [skipValue_gap gap, spelled.skipValue_eq (by omega)]
      exact others.skipMembers_eq (by omega)
end

/-- What can be passed over as a whole text is what the grammar makes, however deep it nests. -/
theorem checkText_eq_ok_iff {body : Bytes} {found : Unit}
    : checkText body = .ok found ↔ ∃ v, Holds lax v body := by
  constructor
  · intro checked
    obtain ⟨⟨_, rest⟩, skipped, isEnd⟩ := exists_of_bind_eq_ok checked
    obtain ⟨v, start, gap, spelled⟩ := spells_of_skipValue _ skipped
    exact ⟨v, .whole gap spelled (endOfText_eq_ok_iff.mp isEnd)⟩
  · rintro ⟨v, ⟨before, spelled, after⟩⟩
    have less := before.length_le
    have skipped : skipValue (2 * body.length + 1 + 1) _ = _ := spelled.skipValue_eq (by omega)
    rw [checkText, fuelFor, skipValue_gap before, skipped]
    exact endOfText_eq_ok_iff.mpr after

end SatClient.Json
