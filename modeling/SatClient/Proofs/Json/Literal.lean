import SatClient.Json.Text
import SatClient.Proofs.Bind
import SatClient.Proofs.Text.Utf8

/-! The string literals of JSON as a grammar: which bytes may stand between two quotes, and which
bytes they stand for. The reader takes exactly these literals, and a text that is written as a
literal stands for itself.
-/

namespace SatClient.Json

open Utf8 (Bytes)

/-- A byte that stands for itself in a literal: no quote, no backslash and no control character. -/
structure IsPlain (b : UInt8) : Prop where
  noQuote : b ≠ byte '"'
  noBackslash : b ≠ byte '\\'
  noControl : ¬ b < 0x20

/-- Four hexadecimal digits and their value. -/
inductive HexFour : Bytes → Nat → Prop
  | digits {a b c d w x y z} (first : hexValue? a = some w) (second : hexValue? b = some x)
    (third : hexValue? c = some y) (fourth : hexValue? d = some z)
    : HexFour [a, b, c, d] (((w * 16 + x) * 16 + y) * 16 + z)

/-- The code point of a surrogate pair. -/
def pairValue (high low : Nat) : Nat := (high - 0xD800) * 0x400 + (low - 0xDC00) + 0x10000

/-- An escape after its backslash: the bytes it stands for, the text it starts and what follows
it.
-/
inductive Escape : Bytes → Bytes → Bytes → Prop
  | short {b c rest} (letter : shortEscape? b = some c)
    : Escape (Utf8.encodeChar c) (b :: rest) rest
  | numbered {digits n rest} (hex : HexFour digits n) (notHigh : isHighSurrogate n = false)
    (notLow : isLowSurrogate n = false)
    : Escape (Utf8.encodeChar (Char.ofNat n)) (byte 'u' :: (digits ++ rest)) rest
  | pair {digits digits' high low rest} (hex : HexFour digits high)
    (isHigh : isHighSurrogate high = true) (hex' : HexFour digits' low)
    (isLow : isLowSurrogate low = true)
    : Escape (Utf8.encodeChar (Char.ofNat (pairValue high low)))
        (byte 'u' :: (digits ++ byte '\\' :: byte 'u' :: (digits' ++ rest))) rest

/-- A literal after its first quote: the bytes it stands for, the text it starts and what follows
its last quote.
-/
inductive Literal : Bytes → Bytes → Bytes → Prop
  | close {rest} : Literal [] (byte '"' :: rest) rest
  | plain {b decoded text rest} (isPlain : IsPlain b) (more : Literal decoded text rest)
    : Literal (b :: decoded) (b :: text) rest
  | escaped {bytes decoded text middle rest} (escape : Escape bytes text middle)
    (more : Literal decoded middle rest)
    : Literal (bytes ++ decoded) (byte '\\' :: text) rest

-----------------------------------------------------------------------------------------
-- Escapes
-----------------------------------------------------------------------------------------

theorem hexFour_eq_ok_iff {text rest : Bytes} {n : Nat}
    : hexFour text = .ok (n, rest) ↔ ∃ digits, HexFour digits n ∧ text = digits ++ rest := by
  constructor
  · intro read
    unfold hexFour at read
    split at read
    next a b c d rest' =>
      split at read
      next w x y z first second third fourth =>
        cases read
        exact ⟨_, .digits first second third fourth, rfl⟩
      next => cases read
    next => cases read
  · rintro ⟨digits, ⟨first, second, third, fourth⟩, rfl⟩
    simp only [List.cons_append, List.nil_append, hexFour, first, second, third, fourth]

theorem pairByte_eq_ok_iff {expected : UInt8} {text rest : Bytes} {found : Unit}
    : pairByte expected text = .ok (found, rest) ↔ text = expected :: rest := by
  cases text with
  | nil => simp [pairByte]
  | cons b tail =>
      rw [pairByte]
      by_cases same : b = expected
      · simp [same]
      · simp [same]

theorem lowSurrogate_eq_ok_iff {high : Nat} {text rest bytes : Bytes}
    : lowSurrogate high text = .ok (bytes, rest)
      ↔ ∃ digits low,
          HexFour digits low
          ∧ isLowSurrogate low = true
          ∧ text = byte '\\' :: byte 'u' :: (digits ++ rest)
          ∧ bytes = Utf8.encodeChar (Char.ofNat (pairValue high low)) := by
  simp only [lowSurrogate, pairValue, bind_eq_ok_iff, Prod.exists, pairByte_eq_ok_iff,
    hexFour_eq_ok_iff]
  constructor
  · rintro ⟨_, _, rfl, _, _, rfl, low, _, ⟨digits, hex, rfl⟩, done⟩
    split at done
    next isLow =>
      obtain ⟨rfl, rfl⟩ := Prod.mk.inj (Except.ok.inj done)
      exact ⟨digits, low, hex, isLow, rfl, rfl⟩
    next => cases done
  · rintro ⟨digits, low, hex, isLow, rfl, value⟩
    refine ⟨(), _, rfl, (), _, rfl, low, rest, ⟨digits, hex, rfl⟩, ?_⟩
    rw [if_pos isLow, value]

theorem numberedEscape_eq_ok_iff {text rest bytes : Bytes}
    : numberedEscape text = .ok (bytes, rest) ↔ Escape bytes (byte 'u' :: text) rest := by
  have notShort : shortEscape? (byte 'u') = none := by decide
  simp only [numberedEscape, bind_eq_ok_iff, Prod.exists, hexFour_eq_ok_iff]
  constructor
  · rintro ⟨n, middle, ⟨digits, hex, rfl⟩, done⟩
    split at done
    next => cases done
    next notLow =>
      split at done
      next isHigh =>
        obtain ⟨digits', low, hex', isLow, same, value⟩ := lowSurrogate_eq_ok_iff.mp done
        rw [same, value]
        exact .pair hex isHigh hex' isLow
      next notHigh =>
        obtain ⟨rfl, rfl⟩ := Prod.mk.inj (Except.ok.inj done)
        exact .numbered hex (eq_false_of_ne_true notHigh)
          (eq_false_of_ne_true notLow)
  · intro spelled
    -- The rules speak of the text with its letter, which has to be a variable to take them apart.
    generalize start : byte 'u' :: text = whole at spelled
    cases spelled with
    | short letter =>
        cases start
        rw [notShort] at letter
        cases letter
    | @numbered digits n _ hex notHigh notLow =>
        cases start
        refine ⟨n, rest, ⟨digits, hex, rfl⟩, ?_⟩
        simp [notHigh, notLow]
    | @pair digits digits' high low _ hex isHigh hex' isLow =>
        cases start
        refine ⟨high, _, ⟨digits, hex, rfl⟩, ?_⟩
        -- The reader asks for a low surrogate first.
        have notLow : isLowSurrogate high = false := by
          simp only [isHighSurrogate, isLowSurrogate, Bool.and_eq_true, decide_eq_true_eq,
            Bool.and_eq_false_iff, decide_eq_false_iff_not] at isHigh ⊢
          omega
        simp only [notLow, isHigh, if_true, Bool.false_eq_true, if_false]
        exact lowSurrogate_eq_ok_iff.mpr ⟨digits', low, hex', isLow, rfl, rfl⟩

/-- The reader of escapes takes exactly the escapes. -/
theorem escape_eq_ok_iff {text rest bytes : Bytes}
    : escape text = .ok (bytes, rest) ↔ Escape bytes text rest := by
  constructor
  · intro read
    cases text with
    | nil => cases read
    | cons b tail =>
        rw [escape] at read
        split at read
        next c letter =>
          cases read
          exact .short letter
        next =>
          split at read
          next isU =>
            cases eq_of_beq isU
            exact numberedEscape_eq_ok_iff.mp read
          next => cases read
  · intro spelled
    cases spelled with
    | short letter => rw [escape, letter]
    | numbered hex notHigh notLow =>
        exact numberedEscape_eq_ok_iff.mpr (.numbered hex notHigh notLow)
    | pair hex isHigh hex' isLow =>
        exact numberedEscape_eq_ok_iff.mpr (.pair hex isHigh hex' isLow)

theorem Escape.length_lt {bytes text rest : Bytes} (spelled : Escape bytes text rest)
    : rest.length < text.length := by
  cases spelled <;> simp only [List.length_cons, List.length_append] <;> omega

-----------------------------------------------------------------------------------------
-- Literals
-----------------------------------------------------------------------------------------

theorem Literal.length_lt {decoded text rest : Bytes} (spelled : Literal decoded text rest)
    : rest.length < text.length := by
  induction spelled with
  | close => simp
  | plain isPlain more ih =>
      rw [List.length_cons]
      omega
  | escaped escape more ih =>
      have shorter := escape.length_lt
      rw [List.length_cons]
      omega

theorem Literal.literalBytes_eq {decoded text rest taken : Bytes} {fuel : Nat}
    (spelled : Literal decoded text rest) (enough : text.length ≤ fuel)
    : literalBytes fuel taken text = .ok (decoded.reverse ++ taken, byte '"' :: rest) := by
  induction spelled generalizing fuel taken with
  | close =>
      cases fuel with
      | zero => cases enough
      | succ fuel => rfl
  | @plain b decoded text rest isPlain more ih =>
      cases fuel with
      | zero => cases enough
      | succ fuel =>
          simp only [literalBytes, beq_iff_eq, isPlain.noQuote, isPlain.noBackslash,
            isPlain.noControl, if_false]
          rw [ih (Nat.le_of_succ_le_succ enough), List.reverse_cons, List.append_assoc]
          rfl
  | @escaped bytes decoded text middle rest spelled more ih =>
      cases fuel with
      | zero => cases enough
      | succ fuel =>
          have shorter := spelled.length_lt
          have notQuote : byte '\\' ≠ byte '"' := by decide
          rw [List.length_cons] at enough
          simp only [literalBytes, beq_iff_eq, notQuote, if_false, if_true, bind, Except.bind,
            escape_eq_ok_iff.mpr spelled]
          rw [ih (by omega), List.reverse_append, List.append_assoc]

/-- By induction on the fuel, which falls with every part of the literal. -/
theorem literal_of_literalBytes {fuel : Nat} {taken text found after : Bytes}
    (read : literalBytes fuel taken text = .ok (found, after))
    : ∃ decoded rest,
        Literal decoded text rest
        ∧ found = decoded.reverse ++ taken
        ∧ after = byte '"' :: rest := by
  induction fuel generalizing taken text with
  | zero => cases text <;> cases read
  | succ fuel ih =>
      cases text with
      | nil => cases read
      | cons b tail =>
          rw [literalBytes] at read
          split at read
          next isQuote =>
            cases read
            cases eq_of_beq isQuote
            exact ⟨[], tail, .close, rfl, rfl⟩
          next notQuote =>
            split at read
            next isBackslash =>
              cases eq_of_beq isBackslash
              obtain ⟨⟨bytes, middle⟩, part, others⟩ := exists_of_bind_eq_ok read
              obtain ⟨decoded, rest, more, rfl, rfl⟩ := ih others
              exact ⟨bytes ++ decoded, rest, .escaped (escape_eq_ok_iff.mp part) more,
                by rw [List.reverse_append, List.append_assoc], rfl⟩
            next notBackslash =>
              split at read
              next => cases read
              next notControl =>
                obtain ⟨decoded, rest, more, rfl, rfl⟩ := ih read
                have isPlain : IsPlain b := {
                  noQuote := ne_of_beq_false (eq_false_of_ne_true notQuote)
                  noBackslash := ne_of_beq_false (eq_false_of_ne_true notBackslash)
                  noControl := notControl
                }
                exact ⟨b :: decoded, rest, .plain isPlain more,
                  by rw [List.reverse_cons, List.append_assoc]; rfl, rfl⟩

/-- The reader of literals takes exactly the literals that stand for the form of a text. -/
theorem readLiteral_eq_ok_iff {s : String} {text rest : Bytes}
    : readLiteral text = .ok (s, rest) ↔ Literal (Utf8.ofString s) text rest := by
  constructor
  · intro read
    simp only [readLiteral, bind_eq_ok_iff, Prod.exists] at read
    obtain ⟨taken, after, part, done⟩ := read
    obtain ⟨decoded, rest', spelled, rfl, rfl⟩ := literal_of_literalBytes part
    split at done
    next found isText =>
      cases done
      rw [List.append_nil, List.reverse_reverse] at isText
      rw [← Utf8.toString?_eq_some_iff.mp isText]
      exact spelled
    next => cases done
  · intro spelled
    have part : literalBytes text.length [] text = _ := spelled.literalBytes_eq (Nat.le_refl _)
    have isText := Utf8.toString?_eq_some_iff.mpr (rfl : Utf8.ofString s = Utf8.ofString s)
    simp only [readLiteral, part, bind, Except.bind, List.append_nil, List.reverse_reverse, isText,
      List.drop_succ_cons, List.drop_zero]

-----------------------------------------------------------------------------------------
-- Written literals
-----------------------------------------------------------------------------------------

theorem isPlain_of_large {b : UInt8} (large : 0x80 ≤ b.toNat) : IsPlain b where
  noQuote := by rintro rfl; revert large; decide
  noBackslash := by rintro rfl; revert large; decide
  noControl := by
    rw [UInt8.lt_iff_toNat_lt]
    change ¬ b.toNat < 32
    omega

theorem Literal.append_plain {bytes decoded text rest : Bytes}
    (plain : ∀ b ∈ bytes, IsPlain b) (more : Literal decoded text rest)
    : Literal (bytes ++ decoded) (bytes ++ text) rest := by
  induction bytes with
  | nil => exact more
  | cons b others ih =>
      exact .plain (plain b (List.mem_cons_self ..))
        (ih fun other member => plain other (List.mem_cons_of_mem _ member))

/-- The bytes of a character that needs no escape stand for themselves. -/
theorem isPlain_of_mem_encodeChar {c : Char} {b : UInt8} (member : b ∈ Utf8.encodeChar c)
    (noQuote : c ≠ '"') (noBackslash : c ≠ '\\') (noControl : ¬ c.toNat < 0x20)
    : IsPlain b := by
  by_cases ascii : c.toNat < 0x80
  · have self : (UInt8.ofNat c.toNat).toNat = c.toNat := Utf8.toNat_ofNat_of_lt (by omega)
    simp only [Utf8.encodeChar, if_pos ascii, List.mem_singleton] at member
    subst member
    constructor
    · intro same
      refine noQuote (Char.toNat_inj.mp ?_)
      rw [← self, same]
      rfl
    · intro same
      refine noBackslash (Char.toNat_inj.mp ?_)
      rw [← self, same]
      rfl
    · rw [UInt8.lt_iff_toNat_lt, self]
      exact noControl
  · exact isPlain_of_large (Utf8.le_toNat_of_mem_encodeChar ascii member)

theorem hexValue?_hexDigit
    : ∀ d < 16,
        Utf8.encodeChar (Text.hexDigit d) = [byte (Text.hexDigit d)]
        ∧ hexValue? (byte (Text.hexDigit d)) = some d := by
  decide

theorem hexFour_of_control {n : Nat} (control : n < 0x20)
    : HexFour
        (Utf8.encode ['0', '0', Text.hexDigit (n / 16), Text.hexDigit (n % 16)]) n := by
  obtain ⟨form, high⟩ := hexValue?_hexDigit (n / 16) (by omega)
  obtain ⟨form', low⟩ := hexValue?_hexDigit (n % 16) (by omega)
  have zero : hexValue? (byte '0') = some 0 := by decide
  have value : ((0 * 16 + 0) * 16 + n / 16) * 16 + n % 16 = n := by omega
  have spelled := HexFour.digits zero zero high low
  rw [value] at spelled
  simp only [Utf8.encode_cons, form, form']
  exact spelled

/-- One character as it is written stands for itself. -/
theorem Literal.escapedChar (c : Char) {decoded text rest : Bytes}
    (more : Literal decoded text rest)
    : Literal (Utf8.encodeChar c ++ decoded) (Utf8.encode (Json.escapedChar c) ++ text) rest := by
  unfold Json.escapedChar
  split
  case h_8 noQuote noBackslash _ _ _ _ _ =>
    split
    next control =>
      have notHigh : isHighSurrogate c.toNat = false := by
        simp only [isHighSurrogate, Bool.and_eq_false_iff, decide_eq_false_iff_not]
        omega
      have notLow : isLowSurrogate c.toNat = false := by
        simp only [isLowSurrogate, Bool.and_eq_false_iff, decide_eq_false_iff_not]
        omega
      have escape : Escape _ (_ :: (_ ++ text)) text :=
        .numbered (hexFour_of_control control) notHigh notLow
      rw [Char.ofNat_toNat] at escape
      exact .escaped escape more
    next notControl =>
      rw [Utf8.encode_cons]
      change Literal _ ((Utf8.encodeChar c ++ []) ++ text) rest
      rw [List.append_nil]
      exact more.append_plain fun b member =>
        isPlain_of_mem_encodeChar member noQuote noBackslash notControl
  all_goals exact .escaped (.short (by decide)) more

/-- A written literal stands for its text, by induction on the text. -/
theorem literal_written (text : List Char) (rest : Bytes)
    : Literal (Utf8.encode text) (Utf8.encode (text.flatMap escapedChar) ++ byte '"' :: rest)
        rest := by
  induction text with
  | nil => exact .close
  | cons c others ih =>
      rw [Utf8.encode_cons, List.flatMap_cons, Utf8.encode_append, List.append_assoc]
      exact ih.escapedChar c

end SatClient.Json
