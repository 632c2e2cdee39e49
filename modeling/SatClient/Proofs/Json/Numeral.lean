import SatClient.Json.Number
import SatClient.Proofs.Text.Utf8

/-! The numbers of JSON as they are read. A whole number of 64 bits is read from its own decimal
digits and from nothing else; every other numeral becomes a floating-point number.
-/

namespace SatClient.Json

open Utf8 (Bytes)

def digits (n : Nat) : Bytes := (Nat.toDigits 10 n).map byte

/-- No digit, point or exponent follows. -/
def EndsNumber : Bytes → Prop
  | [] => True
  | b :: _ => isDigit b = false ∧ b ≠ byte '.' ∧ b ≠ byte 'e' ∧ b ≠ byte 'E'

/-- A number, the text that it starts and what follows it. The value of a floating-point number is
what the reader makes of the text.
-/
inductive Numeral : Number → Bytes → Bytes → Prop
  | natural {n rest} (fits : n < Nat.pow 2 64) (ends : EndsNumber rest)
    : Numeral (.natural n) (digits n ++ rest) rest
  | negative {n rest} (positive : 0 < n) (fits : n ≤ Nat.pow 2 63) (ends : EndsNumber rest)
    : Numeral (.negative n) (byte '-' :: (digits n ++ rest)) rest
  | float {x text rest} (read : readNumber false text = .ok (.float x, rest))
    : Numeral (.float x) text rest
  | negativeFloat {x text rest} (read : readNumber true text = .ok (.float x, rest))
    : Numeral (.float x) (byte '-' :: text) rest

/-- The number is a whole one that fits into 64 bits. -/
inductive Number.IsWhole : Number → Prop
  | natural {n} (fits : n < Nat.pow 2 64) : IsWhole (.natural n)
  | negative {n} (positive : 0 < n) (fits : n ≤ Nat.pow 2 63) : IsWhole (.negative n)

-----------------------------------------------------------------------------------------
-- Floating-point numbers
-----------------------------------------------------------------------------------------

/-- A floating-point number, and what is left of a text from which it was read. -/
structure IsFloat (found : Number) (text rest : Bytes) : Prop where
  float : ∃ x, found = .float x
  isLeft : rest <:+ text

/-- The reader gives only floating-point numbers. -/
def ReadsFloats (reader : Reader Number) : Prop :=
  ∀ {text found rest}, reader text = .ok (found, rest) → IsFloat found text rest

theorem IsFloat.of_suffix {found : Number} {text tail rest : Bytes}
    (isFloat : IsFloat found tail rest) (isLeft : tail <:+ text)
    : IsFloat found text rest :=
  ⟨isFloat.float, isFloat.isLeft.trans isLeft⟩

theorem readsFloats_assemble (isNegative : Bool) (significand : Nat) (exponent : Int)
    : ReadsFloats (assemble isNegative significand exponent) := by
  intro text found rest read
  unfold assemble at read
  split at read
  next x _ =>
    cases read
    exact ⟨⟨_, rfl⟩, List.suffix_refl _⟩
  next => cases read

theorem readsFloats_hugeExponent (isNegative isZero raises : Bool)
    : ReadsFloats (hugeExponent isNegative isZero raises) := by
  intro text found rest read
  unfold hugeExponent at read
  split at read
  next => cases read
  next =>
    cases read
    exact ⟨⟨_, rfl⟩, List.dropWhile_suffix _⟩

theorem readsFloats_exponentDigits (isNegative : Bool) (significand : Nat) (start : Int)
    (raises : Bool) (value : Nat)
    : ReadsFloats (exponentDigits isNegative significand start raises value) := by
  intro text
  induction text generalizing value with
  | nil => exact readsFloats_assemble isNegative significand _
  | cons b tail ih =>
      intro found rest read
      rw [exponentDigits] at read
      split at read
      next =>
        dsimp only at read
        split at read
        next => exact readsFloats_hugeExponent isNegative _ raises read
        next => exact (ih _ read).of_suffix (List.suffix_cons ..)
      next => exact readsFloats_assemble isNegative significand _ read

theorem exponentSign_suffix (text : Bytes) : (exponentSign text).2 <:+ text := by
  cases text with
  | nil => exact List.suffix_refl _
  | cons b tail =>
      rw [exponentSign]
      split
      next => exact List.suffix_cons ..
      next =>
        split
        next => exact List.suffix_cons ..
        next => exact List.suffix_refl _

theorem readsFloats_exponent (isNegative : Bool) (significand : Nat) (start : Int)
    : ReadsFloats (exponent isNegative significand start) := by
  intro text found rest read
  have signed := exponentSign_suffix text
  unfold exponent at read
  dsimp only at read
  split at read
  next => cases read
  next b tail after =>
    rw [after] at signed
    split at read
    next =>
      exact (readsFloats_exponentDigits isNegative significand start _ _ read).of_suffix
        ((List.suffix_cons ..).trans signed)
    next => cases read

theorem readsFloats_afterDigits (isNegative : Bool) (significand : Nat) (start : Int)
    : ReadsFloats (afterDigits isNegative significand start) := by
  intro text found rest read
  unfold afterDigits at read
  split at read
  next =>
    exact (readsFloats_exponent isNegative significand start read).of_suffix
      (List.drop_suffix ..)
  next => exact readsFloats_assemble isNegative significand start read

theorem readsFloats_fraction (isNegative any : Bool) (significand : Nat) (start : Int)
    : ReadsFloats (fraction isNegative any significand start) := by
  intro text
  induction text generalizing any significand start with
  | nil =>
      intro found rest read
      rw [fraction] at read
      split at read
      next => exact readsFloats_assemble isNegative significand start read
      next => cases read
  | cons b tail ih =>
      intro found rest read
      rw [fraction] at read
      split at read
      next =>
        dsimp only at read
        split at read
        next =>
          exact (readsFloats_afterDigits isNegative significand start read).of_suffix
            ((List.dropWhile_suffix _).trans (List.suffix_cons ..))
        next => exact (ih _ _ _ read).of_suffix (List.suffix_cons ..)
      next =>
        split at read
        next => exact readsFloats_afterDigits isNegative significand start read
        next => cases read

theorem readsFloats_afterWhole (isNegative : Bool) (significand : Nat) (start : Int)
    : ReadsFloats (afterWhole isNegative significand start) := by
  intro text found rest read
  unfold afterWhole at read
  split at read
  next =>
    split at read
    next =>
      exact (readsFloats_fraction isNegative false significand start read).of_suffix
        (List.suffix_cons ..)
    next => exact readsFloats_afterDigits isNegative significand start read
  next => exact readsFloats_afterDigits isNegative significand start read

-----------------------------------------------------------------------------------------
-- Digits
-----------------------------------------------------------------------------------------

theorem isDigit_iff {b : UInt8} : isDigit b = true ↔ ∃ d < 10, b = byte (Nat.digitChar d) := by
  constructor
  · intro digit
    simp only [isDigit, Bool.and_eq_true, decide_eq_true_eq, UInt8.le_iff_toNat_le] at digit
    obtain ⟨low, high⟩ := digit
    change 48 ≤ b.toNat at low
    change b.toNat ≤ 57 at high
    have all : ∀ d < 10, byte (Nat.digitChar d) = UInt8.ofNat (48 + d) := by decide
    refine ⟨b.toNat - 48, by omega, ?_⟩
    rw [all _ (by omega), Nat.add_sub_cancel' low, UInt8.ofNat_toNat]
  · rintro ⟨d, small, rfl⟩
    revert d
    decide

theorem digitValue_byte : ∀ d < 10, digitValue (byte (Nat.digitChar d)) = d := by
  decide

theorem digits_of_lt {d : Nat} (small : d < 10) : digits d = [byte (Nat.digitChar d)] := by
  rw [digits, Nat.toDigits_of_lt_base small]
  rfl

/-- One more digit makes ten times the number and the digit. -/
theorem digits_append {n d : Nat} (positive : 0 < n) (small : d < 10)
    : digits (n * 10 + d) = digits n ++ [byte (Nat.digitChar d)] := by
  rw [← digits_of_lt small, digits, digits, digits, ← List.map_append,
    Nat.toDigits_append_toDigits (by decide) positive small, Nat.mul_comm]

theorem startsWithDigit_eq_false {rest : Bytes} (ends : EndsNumber rest)
    : startsWithDigit rest = false := by
  cases rest with
  | nil => rfl
  | cons b tail => exact ends.1

/-- A number ends where no digit follows and no fraction and no exponent. -/
theorem whole_of_ends {isNegative : Bool} {significand : Nat} {rest : Bytes}
    (ends : EndsNumber rest)
    : whole isNegative significand rest = whole.finish isNegative significand rest := by
  cases rest with
  | nil => rfl
  | cons b tail =>
      obtain ⟨-, noPoint, noLetter, noCapital⟩ := ends
      simp [whole, startsWithExponent, noPoint, noLetter, noCapital]

-----------------------------------------------------------------------------------------
-- Whole numbers
-----------------------------------------------------------------------------------------

/-- One more digit is read. -/
theorem wholeDigits_digit {isNegative : Bool} {n d : Nat} {rest : Bytes} (small : d < 10)
    (fits : n * 10 + d ≤ maxSignificand)
    : wholeDigits isNegative n (byte (Nat.digitChar d) :: rest)
      = wholeDigits isNegative (n * 10 + d) rest := by
  rw [wholeDigits, if_pos (isDigit_iff.mpr ⟨d, small, rfl⟩)]
  dsimp only
  rw [digitValue_byte d small, if_neg (Nat.not_lt.mpr fits)]

/-- All digits of a number are read, by induction on how many there are. -/
theorem readNumber_digits {isNegative : Bool} {n : Nat} {rest : Bytes} (positive : 0 < n)
    (fits : n ≤ maxSignificand)
    : readNumber isNegative (digits n ++ rest) = wholeDigits isNegative n rest := by
  induction n using Nat.strongRecOn generalizing rest with
  | ind n ih =>
      by_cases small : n < 10
      · have notZero : ∀ d < 10, 0 < d → byte (Nat.digitChar d) ≠ byte '0' := by decide
        rw [digits_of_lt small, List.singleton_append, readNumber,
          if_neg (mt eq_of_beq (notZero n small positive)),
          if_pos (isDigit_iff.mpr ⟨n, small, rfl⟩), digitValue_byte n small]
      · -- The last digit is read after the number that the others make, which is smaller.
        have less : n / 10 < n := Nat.div_lt_self positive (by decide)
        have last : n % 10 < 10 := Nat.mod_lt n (by decide)
        have split : n / 10 * 10 + n % 10 = n := Nat.div_add_mod' n 10
        have spelled := digits_append (by omega : 0 < n / 10) last
        rw [split] at spelled
        rw [spelled, List.append_assoc, ih (n / 10) less (by omega) (by omega),
          List.singleton_append, wholeDigits_digit last (by omega), split]

/-- What was read as a number stands there in digits, unless it is a floating-point number. -/
structure Spelled (isNegative : Bool) (text : Bytes) (found : Number) (rest : Bytes) (n : Nat)
    : Prop where
  spelling : text = digits n ++ rest
  ends : EndsNumber rest
  fits : n ≤ maxSignificand
  found : whole.finish isNegative n rest = .ok (found, rest)

theorem rest_eq_of_finish {isNegative : Bool} {n : Nat} {text rest : Bytes} {found : Number}
    (read : whole.finish isNegative n text = .ok (found, rest))
    : rest = text := by
  unfold whole.finish at read
  split at read
  next =>
    cases read
    rfl
  next =>
    split at read
    next =>
      cases read
      rfl
    next =>
      unfold assemble at read
      split at read
      next =>
        cases read
        rfl
      next => cases read

theorem spelled_of_ends {isNegative : Bool} {n : Nat} {text rest : Bytes} {found : Number}
    (read : whole isNegative n text = .ok (found, rest)) (fits : n ≤ maxSignificand)
    (ends : EndsNumber text)
    : Spelled isNegative (digits n ++ text) found rest n := by
  rw [whole_of_ends ends] at read
  cases rest_eq_of_finish read
  exact ⟨rfl, ends, fits, read⟩

theorem spelled_of_whole {isNegative : Bool} {n : Nat} {text rest : Bytes} {found : Number}
    (read : whole isNegative n text = .ok (found, rest)) (fits : n ≤ maxSignificand)
    (noDigit : startsWithDigit text = false)
    : IsFloat found text rest ∨ Spelled isNegative (digits n ++ text) found rest n := by
  cases text with
  | nil => exact .inr (spelled_of_ends read fits trivial)
  | cons b tail =>
      by_cases plain : (b == byte '.' || startsWithExponent (b :: tail)) = true
      · rw [whole, if_pos plain] at read
        exact .inl (readsFloats_afterWhole isNegative n 0 read)
      · simp only [startsWithExponent, Bool.or_eq_true, beq_iff_eq, not_or] at plain
        exact .inr (spelled_of_ends read fits ⟨noDigit, plain.1, plain.2.1, plain.2.2⟩)

/-- The digits read so far and those ahead are the digits of one number, by induction on the text
ahead.
-/
theorem spelled_of_wholeDigits {isNegative : Bool} {n : Nat} {text rest : Bytes} {found : Number}
    (read : wholeDigits isNegative n text = .ok (found, rest)) (positive : 0 < n)
    (fits : n ≤ maxSignificand)
    : IsFloat found text rest ∨ ∃ m, Spelled isNegative (digits n ++ text) found rest m := by
  induction text generalizing n with
  | nil =>
      rcases spelled_of_whole read fits rfl with isFloat | spelled
      · exact .inl isFloat
      · exact .inr ⟨n, spelled⟩
  | cons b tail ih =>
      by_cases digit : isDigit b = true
      · obtain ⟨d, small, rfl⟩ := isDigit_iff.mp digit
        by_cases fits' : n * 10 + d ≤ maxSignificand
        · rw [wholeDigits_digit small fits'] at read
          rcases ih read (by omega) fits' with isFloat | ⟨m, spelled⟩
          · exact .inl (isFloat.of_suffix (List.suffix_cons ..))
          · refine .inr ⟨m, ?_⟩
            rw [digits_append positive small, List.append_assoc] at spelled
            exact spelled
        · rw [wholeDigits, if_pos digit] at read
          dsimp only at read
          rw [digitValue_byte d small, if_pos (Nat.lt_of_not_le fits')] at read
          exact .inl ((readsFloats_afterWhole isNegative n _ read).of_suffix
            (List.dropWhile_suffix _))
      · rw [wholeDigits, if_neg digit] at read
        rcases spelled_of_whole read fits (eq_false_of_ne_true digit) with isFloat | spelled
        · exact .inl isFloat
        · exact .inr ⟨n, spelled⟩

theorem spelled_of_readNumber {isNegative : Bool} {text rest : Bytes} {found : Number}
    (read : readNumber isNegative text = .ok (found, rest))
    : IsFloat found text.tail rest ∨ ∃ n, Spelled isNegative text found rest n := by
  cases text with
  | nil => cases read
  | cons b tail =>
      rw [readNumber] at read
      split at read
      next isZero =>
        cases eq_of_beq isZero
        split at read
        next => cases read
        next noDigit =>
          rcases spelled_of_whole read (Nat.zero_le _) (eq_false_of_ne_true noDigit)
            with isFloat | spelled
          · exact .inl isFloat
          · exact .inr ⟨0, spelled⟩
      next notZero =>
        split at read
        next digit =>
          obtain ⟨d, small, rfl⟩ := isDigit_iff.mp digit
          rw [digitValue_byte d small] at read
          have positive : 0 < d := by
            rcases Nat.eq_zero_or_pos d with rfl | positive
            · exact absurd rfl notZero
            · exact positive
          have bound : d ≤ maxSignificand := Nat.le_trans (Nat.le_of_lt small) (by decide)
          have spelled := spelled_of_wholeDigits read positive bound
          rw [digits_of_lt small, List.singleton_append] at spelled
          exact spelled
        next => cases read

-----------------------------------------------------------------------------------------
-- Numerals
-----------------------------------------------------------------------------------------

theorem lt_of_le_maxSignificand {n : Nat} (fits : n ≤ maxSignificand) : n < Nat.pow 2 64 :=
  Nat.lt_of_le_of_lt fits (by decide)

theorem le_maxSignificand {n : Nat} (fits : n < Nat.pow 2 64) : n ≤ maxSignificand :=
  Nat.le_of_lt_succ fits

theorem numeral_of_readNumber {text rest : Bytes} {found : Number}
    (read : readNumber false text = .ok (found, rest))
    : Numeral found text rest := by
  rcases spelled_of_readNumber read with ⟨⟨x, rfl⟩, -⟩ | ⟨n, spelling, ends, fits, finished⟩
  · exact .float read
  · cases finished
    rw [spelling]
    exact .natural (lt_of_le_maxSignificand fits) ends

theorem numeral_of_readNumber_negative {text rest : Bytes} {found : Number}
    (read : readNumber true text = .ok (found, rest))
    : Numeral found (byte '-' :: text) rest := by
  rcases spelled_of_readNumber read with ⟨⟨x, rfl⟩, -⟩ | ⟨n, spelling, ends, fits, finished⟩
  · exact .negativeFloat read
  · rw [whole.finish, if_neg (by decide)] at finished
    split at finished
    next range =>
      simp only [Bool.and_eq_true, decide_eq_true_eq] at range
      cases finished
      rw [spelling]
      exact .negative range.1 range.2 ends
    next =>
      obtain ⟨⟨x, rfl⟩, -⟩ := readsFloats_assemble true n 0 finished
      exact .negativeFloat read

/-- The text of a number without a sign starts with a digit. -/
theorem isDigit_of_readNumber {isNegative : Bool} {text rest : Bytes} {found : Number}
    (read : readNumber isNegative text = .ok (found, rest))
    : ∃ b tail, text = b :: tail ∧ isDigit b = true := by
  cases text with
  | nil => cases read
  | cons b tail =>
      refine ⟨b, tail, rfl, ?_⟩
      rw [readNumber] at read
      split at read
      next isZero =>
        cases eq_of_beq isZero
        decide
      next =>
        split at read
        next digit => exact digit
        next => cases read

theorem readNumber_of_ends {isNegative : Bool} {n : Nat} {rest : Bytes} (positive : 0 < n)
    (fits : n ≤ maxSignificand) (ends : EndsNumber rest)
    : readNumber isNegative (digits n ++ rest) = whole.finish isNegative n rest := by
  rw [readNumber_digits positive fits, ← whole_of_ends ends]
  cases rest with
  | nil => rfl
  | cons b tail => rw [wholeDigits, if_neg (ne_true_of_eq_false ends.1)]

theorem readNumber_zero {rest : Bytes} (ends : EndsNumber rest)
    : readNumber false (digits 0 ++ rest) = .ok (.natural 0, rest) := by
  rw [digits_of_lt (by decide), List.singleton_append, readNumber, if_pos (by decide),
    startsWithDigit_eq_false ends, if_neg Bool.false_ne_true, whole_of_ends ends]
  rfl

theorem readNumber_natural {n : Nat} {rest : Bytes} (fits : n < Nat.pow 2 64)
    (ends : EndsNumber rest)
    : readNumber false (digits n ++ rest) = .ok (.natural n, rest) := by
  rcases Nat.eq_zero_or_pos n with rfl | positive
  · exact readNumber_zero ends
  · rw [readNumber_of_ends positive (le_maxSignificand fits) ends]
    rfl

theorem readNumber_negative {n : Nat} {rest : Bytes} (positive : 0 < n) (fits : n ≤ Nat.pow 2 63)
    (ends : EndsNumber rest)
    : readNumber true (digits n ++ rest) = .ok (.negative n, rest) := by
  have bound : n ≤ maxSignificand := Nat.le_trans fits (by decide)
  have range : (decide (0 < n) && decide (n ≤ Nat.pow 2 63)) = true := by
    simp only [Bool.and_eq_true, decide_eq_true_eq]
    exact ⟨positive, fits⟩
  rw [readNumber_of_ends positive bound ends, whole.finish, if_neg (by decide), if_pos range]

/-- The reader reads a numeral; which sign it has shows in the first byte. -/
theorem Numeral.read {found : Number} {text rest : Bytes} (numeral : Numeral found text rest)
    : (∃ b tail,
        text = b :: tail ∧ isDigit b = true ∧ readNumber false text = .ok (found, rest))
      ∨ ∃ tail, text = byte '-' :: tail ∧ readNumber true tail = .ok (found, rest) := by
  have unsigned : ∀ {text}, readNumber false text = .ok (found, rest) →
      ∃ b tail,
        text = b :: tail ∧ isDigit b = true ∧ readNumber false text = .ok (found, rest) := by
    intro text read
    obtain ⟨b, tail, start, digit⟩ := isDigit_of_readNumber read
    exact ⟨b, tail, start, digit, read⟩
  cases numeral with
  | natural fits ends => exact .inl (unsigned (readNumber_natural fits ends))
  | negative positive fits ends => exact .inr ⟨_, rfl, readNumber_negative positive fits ends⟩
  | float read => exact .inl (unsigned read)
  | negativeFloat read => exact .inr ⟨_, rfl, read⟩

theorem length_digits_pos (n : Nat) : 0 < (digits n).length := by
  rw [digits, List.length_map]
  exact Nat.length_toDigits_pos

theorem length_lt_of_readNumber {isNegative : Bool} {text rest : Bytes} {found : Number}
    (read : readNumber isNegative text = .ok (found, rest))
    : rest.length < text.length := by
  obtain ⟨b, tail, rfl, -⟩ := isDigit_of_readNumber read
  rcases spelled_of_readNumber read with isFloat | ⟨n, spelled⟩
  · have shorter := isFloat.isLeft.length_le
    rw [List.tail_cons] at shorter
    rw [List.length_cons]
    omega
  · have positive := length_digits_pos n
    rw [spelled.spelling, List.length_append]
    omega

theorem Numeral.length_lt {found : Number} {text rest : Bytes} (numeral : Numeral found text rest)
    : rest.length < text.length := by
  rcases numeral.read with ⟨b, tail, rfl, -, read⟩ | ⟨tail, rfl, read⟩
  · exact length_lt_of_readNumber read
  · exact Nat.lt_succ_of_lt (length_lt_of_readNumber read)

theorem Numeral.cases {found : Number} {text rest : Bytes} (numeral : Numeral found text rest)
    : found.IsWhole ∨ ∃ x, found = .float x := by
  cases numeral with
  | natural fits ends => exact .inl (.natural fits)
  | negative positive fits ends => exact .inl (.negative positive fits)
  | float read => exact .inr ⟨_, rfl⟩
  | negativeFloat read => exact .inr ⟨_, rfl⟩

/-- A whole number is read from its own text. -/
theorem Number.IsWhole.numeral {n : Number} (isWhole : n.IsWhole) {rest : Bytes}
    (ends : EndsNumber rest)
    : Numeral n (Utf8.encode n.text ++ rest) rest := by
  have form : ∀ m : Nat, Utf8.encode (toString m).toList = digits m := by
    intro m
    rw [Nat.toString_eq_repr, Nat.toList_repr]
    refine Utf8.encode_of_ascii fun c member => ?_
    have digit := Nat.isDigit_of_mem_toDigits (by decide) (by decide) member
    simp only [Char.isDigit, Bool.and_eq_true, decide_eq_true_eq, UInt32.le_iff_toNat_le] at digit
    exact Nat.lt_of_le_of_lt digit.2 (by decide)
  cases isWhole with
  | natural fits =>
      rw [Number.text, form]
      exact .natural fits ends
  | negative positive fits =>
      rw [Number.text, Utf8.encode_cons, form]
      exact .negative positive fits ends

end SatClient.Json
