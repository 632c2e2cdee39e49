import Mathlib.Tactic.SplitIfs
import SatClient.Json.Reader
import SatClient.Proofs.Bind
import SatClient.Proofs.Json.Grammar
import SatClient.Proofs.Json.Literal
import SatClient.Proofs.Json.Numeral
import SatClient.Proofs.Json.Settled

/-! Reading a JSON text as a value. The reader takes exactly the texts of the grammar whose values
do not nest too deep, and it settles what is written there.
-/

namespace SatClient.Json

open Utf8 (Bytes)

/-- Numbers and string literals as they are read: numbers of a size that can be kept, and literals
that stand for a text.
-/
def strict : Lexis where
  number := Numeral
  literal := fun s text rest => Literal (Utf8.ofString s) text rest

theorem isProper_strict : strict.IsProper where
  numberStart := by
    intro n text rest numeral
    rcases numeral.read with ⟨b, tail, rfl, digit, -⟩ | ⟨tail, rfl, -⟩
    · exact ⟨b, tail, rfl, .inl digit⟩
    · exact ⟨_, tail, rfl, .inr rfl⟩
  numberShorter := Numeral.length_lt
  literalShorter := Literal.length_lt

-----------------------------------------------------------------------------------------
-- Parts
-----------------------------------------------------------------------------------------

theorem word_eq_ok_iff {letters : List Char} {text rest : Bytes} {found : Unit}
    : word letters text = .ok (found, rest) ↔ text = letters.map byte ++ rest := by
  induction letters generalizing text with
  | nil => simp [word]
  | cons c letters ih =>
      cases text with
      | nil => simp [word]
      | cons b tail =>
          rw [word, List.map_cons, List.cons_append, List.cons.injEq]
          by_cases same : b = byte c
          · rw [if_pos (beq_iff_eq.mpr same), ih]
            exact ⟨fun others => ⟨same, others⟩, And.right⟩
          · rw [if_neg (mt eq_of_beq same)]
            exact ⟨nofun, fun both => absurd both.1 same⟩

theorem colon_eq_ok_iff {text rest : Bytes} {found : Unit}
    : colon text = .ok (found, rest) ↔ Gap text (byte ':' :: rest) := by
  rw [gap_cons_iff (by decide), colon]
  cases skipSpace text with
  | nil => simp
  | cons b tail =>
      dsimp only
      by_cases same : b = byte ':'
      · simp [same]
      · simp [same]

/-- No other item follows where the bracket does. -/
theorem nextItem_eq_done_iff {first : Bool} {text rest : Bytes}
    : nextItem first text = .ok (false, rest)
      ↔ ∃ tail, rest = byte ']' :: tail ∧ Gap text rest := by
  constructor
  · intro read
    unfold nextItem at read
    split at read
    next => cases read
    next b tail skipped =>
      split at read
      next isEnd =>
        cases read
        cases eq_of_beq isEnd
        exact ⟨tail, rfl, (gap_cons_iff (by decide)).mpr skipped⟩
      next =>
        split at read
        next => cases read
        next =>
          split at read
          next =>
            split at read
            next => cases read
            next => split at read <;> cases read
          next => cases read
  · rintro ⟨tail, rfl, gap⟩
    rw [nextItem, (gap_cons_iff (by decide)).mp gap]
    rfl

/-- Another item follows where something else than the bracket does. -/
theorem nextItem_eq_more_iff {first : Bool} {text rest : Bytes}
    : nextItem first text = .ok (true, rest)
      ↔ Separation first text rest
        ∧ ∃ b tail, rest = b :: tail ∧ isSpace b = false ∧ b ≠ byte ']' := by
  constructor
  · intro read
    unfold nextItem at read
    split at read
    next => cases read
    next b tail skipped =>
      have noSpace := isSpace_skipSpace skipped
      split at read
      next => cases read
      next noEnd =>
        split at read
        next isFirst =>
          cases read
          cases isFirst
          exact ⟨.first ((gap_cons_iff noSpace).mpr skipped), b, tail, rfl, noSpace,
            mt beq_iff_eq.mpr noEnd⟩
        next notFirst =>
          cases eq_false_of_ne_true notFirst
          split at read
          next isComma =>
            cases eq_of_beq isComma
            split at read
            next => cases read
            next c others skipped' =>
              have noSpace' := isSpace_skipSpace skipped'
              split at read
              next => cases read
              next noEnd' =>
                cases read
                exact ⟨.comma ((gap_cons_iff noSpace).mpr skipped)
                  ((gap_cons_iff noSpace').mpr skipped'), c, others, rfl, noSpace',
                  mt beq_iff_eq.mpr noEnd'⟩
          next => cases read
  · rintro ⟨separation, b, tail, rfl, noSpace, noEnd⟩
    cases separation with
    | first gap => simp [nextItem, (gap_cons_iff noSpace).mp gap, noEnd]
    | comma before after =>
        have comma : byte ',' ≠ byte ']' := by decide
        simp [nextItem, (gap_cons_iff (by decide)).mp before, (gap_cons_iff noSpace).mp after,
          noEnd, comma]

/-- No other member follows where the brace does. -/
theorem nextMember_eq_done_iff {first : Bool} {text rest : Bytes}
    : nextMember first text = .ok (false, rest)
      ↔ ∃ tail, rest = byte '\x7d' :: tail ∧ Gap text rest := by
  constructor
  · intro read
    unfold nextMember at read
    split at read
    next => cases read
    next b tail skipped =>
      split at read
      next isEnd =>
        cases read
        cases eq_of_beq isEnd
        exact ⟨tail, rfl, (gap_cons_iff (by decide)).mpr skipped⟩
      next =>
        split at read
        next => split at read <;> cases read
        next =>
          split at read
          next =>
            split at read
            next => cases read
            next =>
              split at read
              next => cases read
              next => split at read <;> cases read
          next => cases read
  · rintro ⟨tail, rfl, gap⟩
    rw [nextMember, (gap_cons_iff (by decide)).mp gap]
    rfl

/-- Another member follows where a quote does. -/
theorem nextMember_eq_more_iff {first : Bool} {text rest : Bytes}
    : nextMember first text = .ok (true, rest) ↔ Separation first text (byte '"' :: rest) := by
  constructor
  · intro read
    unfold nextMember at read
    split at read
    next => cases read
    next b tail skipped =>
      have noSpace := isSpace_skipSpace skipped
      split at read
      next => cases read
      next =>
        split at read
        next isFirst =>
          cases isFirst
          split at read
          next isQuote =>
            cases read
            cases eq_of_beq isQuote
            exact .first ((gap_cons_iff noSpace).mpr skipped)
          next => cases read
        next notFirst =>
          cases eq_false_of_ne_true notFirst
          split at read
          next isComma =>
            cases eq_of_beq isComma
            split at read
            next => cases read
            next c others skipped' =>
              split at read
              next isQuote =>
                cases read
                cases eq_of_beq isQuote
                exact .comma ((gap_cons_iff noSpace).mpr skipped)
                  ((gap_cons_iff (by decide)).mpr skipped')
              next => split at read <;> cases read
          next => cases read
  · intro separation
    have quote : byte '"' ≠ byte '\x7d' := by decide
    cases separation with
    | first gap => simp [nextMember, (gap_cons_iff (by decide)).mp gap, quote]
    | comma before after =>
        have comma : byte ',' ≠ byte '\x7d' := by decide
        simp [nextMember, (gap_cons_iff (by decide)).mp before, (gap_cons_iff (by decide)).mp after,
          comma]

-----------------------------------------------------------------------------------------
-- What is read is spelled there
-----------------------------------------------------------------------------------------

/-- A value of a byte that opens nothing: a word, a number or a literal. -/
theorem spells_of_scalar {fuel room : Nat} {b : UInt8} {tail rest : Bytes} {v : Value}
    (read : value (fuel + 1) room (b :: tail) = .ok (v, rest)) (noSpace : isSpace b = false)
    (noBracket : b ≠ byte '[') (noBrace : b ≠ byte '\x7b')
    : Spells strict v (b :: tail) rest ∧ v.nesting = 0 ∧ v.settled = v := by
  rw [value, skipSpace_cons noSpace] at read
  simp only [beq_iff_eq] at read
  split_ifs at read with isN isT isF isSign digit isQuote
  · subst isN
    obtain ⟨⟨_, rest'⟩, isWord, done⟩ := exists_of_bind_eq_ok read
    cases done
    rw [word_eq_ok_iff.mp isWord]
    exact ⟨.null, rfl, rfl⟩
  · subst isT
    obtain ⟨⟨_, rest'⟩, isWord, done⟩ := exists_of_bind_eq_ok read
    cases done
    rw [word_eq_ok_iff.mp isWord]
    exact ⟨.true, rfl, rfl⟩
  · subst isF
    obtain ⟨⟨_, rest'⟩, isWord, done⟩ := exists_of_bind_eq_ok read
    cases done
    rw [word_eq_ok_iff.mp isWord]
    exact ⟨.false, rfl, rfl⟩
  · subst isSign
    obtain ⟨⟨n, rest'⟩, isNumber, done⟩ := exists_of_bind_eq_ok read
    cases done
    exact ⟨.number (numeral_of_readNumber_negative isNumber), rfl, rfl⟩
  · obtain ⟨⟨n, rest'⟩, isNumber, done⟩ := exists_of_bind_eq_ok read
    cases done
    exact ⟨.number (numeral_of_readNumber isNumber), rfl, rfl⟩
  · subst isQuote
    obtain ⟨⟨s, rest'⟩, isLiteral, done⟩ := exists_of_bind_eq_ok read
    cases done
    exact ⟨.string (readLiteral_eq_ok_iff.mp isLiteral), rfl, rfl⟩

/-- Space before a value is passed over. -/
theorem value_gap {fuel room : Nat} {text start : Bytes} (gap : Gap text start)
    : value (fuel + 1) room text = value (fuel + 1) room start := by
  rw [value, value, gap.skipSpace_eq]

theorem value_bracket {fuel room : Nat} {tail : Bytes}
    : value (fuel + 1) (room + 1) (byte '[' :: tail)
      = (do let (found, rest) ← items fuel room true tail; .ok (.array found, rest)) :=
  rfl

theorem value_brace {fuel room : Nat} {tail : Bytes}
    : value (fuel + 1) (room + 1) (byte '\x7b' :: tail)
      = (do let (found, rest) ← members fuel room true [] tail; .ok (.object found, rest)) :=
  rfl

mutual
/-- By induction on the fuel, together with items and members. -/
theorem spells_of_value : ∀ (fuel : Nat) {room : Nat} {text rest : Bytes} {v : Value},
    value fuel room text = .ok (v, rest) →
      ∃ raw start,
        Gap text start ∧ Spells strict raw start rest ∧ raw.nesting ≤ room ∧ raw.settled = v
  | fuel + 1, room, text, rest, v, read => by
      have gap := gap_skipSpace text
      rw [value_gap gap] at read
      cases start : skipSpace text with
      | nil =>
          rw [start] at read
          cases read
      | cons b tail =>
          rw [start] at read gap
          by_cases isBracket : b = byte '['
          · subst isBracket
            cases room with
            | zero => cases read
            | succ room =>
                rw [value_bracket] at read
                obtain ⟨⟨found, rest'⟩, isItems, done⟩ := exists_of_bind_eq_ok read
                cases done
                obtain ⟨raw, spelled, fits, settled⟩ := items_of_items fuel isItems
                exact ⟨.array raw, _, gap, .array spelled, Nat.succ_le_succ fits,
                  congrArg Value.array settled⟩
          · by_cases isBrace : b = byte '\x7b'
            · subst isBrace
              cases room with
              | zero => cases read
              | succ room =>
                  rw [value_brace] at read
                  obtain ⟨⟨found, rest'⟩, isMembers, done⟩ := exists_of_bind_eq_ok read
                  cases done
                  obtain ⟨raw, spelled, fits, settled⟩ := members_of_members fuel isMembers
                  exact ⟨.object raw, _, gap, .object spelled, Nat.succ_le_succ fits,
                    congrArg Value.object settled⟩
            · obtain ⟨spelled, flat, settled⟩ :=
                spells_of_scalar read (isSpace_skipSpace start) isBracket isBrace
              exact ⟨v, _, gap, spelled, flat ▸ Nat.zero_le _, settled⟩

theorem items_of_items : ∀ (fuel : Nat) {room : Nat} {first : Bool} {text rest : Bytes}
    {found : List Value}, items fuel room first text = .ok (found, rest) →
      ∃ raw,
        Items strict first raw text rest
        ∧ Value.nestingOfItems raw ≤ room
        ∧ Value.settledItems raw = found
  | fuel + 1, room, first, text, rest, found, read => by
      obtain ⟨⟨more, middle⟩, next, read⟩ := exists_of_bind_eq_ok read
      cases more with
      | false =>
          cases read
          obtain ⟨tail, rfl, gap⟩ := nextItem_eq_done_iff.mp next
          exact ⟨[], .done gap, Nat.zero_le _, rfl⟩
      | true =>
          obtain ⟨⟨item, middle'⟩, isItem, read⟩ := exists_of_bind_eq_ok read
          obtain ⟨⟨others, rest'⟩, areOthers, read⟩ := exists_of_bind_eq_ok read
          cases read
          obtain ⟨separation, -⟩ := nextItem_eq_more_iff.mp next
          obtain ⟨raw, start, gap, spelled, fits, rfl⟩ := spells_of_value fuel isItem
          obtain ⟨raws, spelled', fits', rfl⟩ := items_of_items fuel areOthers
          exact ⟨raw :: raws, .item (separation.gap gap) spelled spelled',
            Nat.max_le.mpr ⟨fits, fits'⟩, rfl⟩

theorem members_of_members : ∀ (fuel : Nat) {room : Nat} {first : Bool} {text rest : Bytes}
    {before found : List (String × Value)},
    members fuel room first before text = .ok (found, rest) →
      ∃ raw,
        Members strict first raw text rest
        ∧ Value.nestingOfMembers raw ≤ room
        ∧ Value.settledMembers before raw = found
  | fuel + 1, room, first, text, rest, before, found, read => by
      obtain ⟨⟨more, middle⟩, next, read⟩ := exists_of_bind_eq_ok read
      cases more with
      | false =>
          cases read
          obtain ⟨tail, rfl, gap⟩ := nextMember_eq_done_iff.mp next
          exact ⟨[], .done gap, Nat.zero_le _, rfl⟩
      | true =>
          obtain ⟨⟨name, afterName⟩, isName, read⟩ := exists_of_bind_eq_ok read
          obtain ⟨⟨_, afterColon⟩, isColon, read⟩ := exists_of_bind_eq_ok read
          obtain ⟨⟨member, middle'⟩, isMember, read⟩ := exists_of_bind_eq_ok read
          obtain ⟨raw, start, gap, spelled, fits, rfl⟩ := spells_of_value fuel isMember
          obtain ⟨raws, spelled', fits', rfl⟩ := members_of_members fuel read
          exact ⟨(name, raw) :: raws,
            .member (nextMember_eq_more_iff.mp next) (readLiteral_eq_ok_iff.mp isName)
              (colon_eq_ok_iff.mp isColon) gap spelled spelled',
            Nat.max_le.mpr ⟨fits, fits'⟩, rfl⟩
end

-----------------------------------------------------------------------------------------
-- What is spelled is read
-----------------------------------------------------------------------------------------

theorem value_digit {fuel room : Nat} {b : UInt8} {tail : Bytes} (digit : isDigit b = true)
    : value (fuel + 1) room (b :: tail)
      = (do let (n, rest) ← readNumber false (b :: tail); .ok (.number n, rest)) := by
  have other : ∀ c, isDigit c = false → b ≠ c := fun _ noDigit => ne_of_isDigit digit noDigit
  rw [value, skipSpace_cons (isSpace_of_isDigit digit)]
  simp only [beq_iff_eq, other (byte 'n') (by decide), other (byte 't') (by decide),
    other (byte 'f') (by decide), other (byte '-') (by decide), digit, if_false, if_true]

theorem value_number {fuel room : Nat} {n : Number} {text rest : Bytes}
    (numeral : Numeral n text rest)
    : value (fuel + 1) room text = .ok (.number n, rest) := by
  rcases numeral.read with ⟨b, tail, rfl, digit, read⟩ | ⟨tail, rfl, read⟩
  · rw [value_digit digit, read]
    rfl
  · have dispatch
        : value (fuel + 1) room (byte '-' :: tail)
          = readNumber true tail >>= fun found => .ok (.number found.1, found.2) :=
      rfl
    rw [dispatch, read]
    rfl

theorem value_string {fuel room : Nat} {s : String} {text rest : Bytes}
    (literal : Literal (Utf8.ofString s) text rest)
    : value (fuel + 1) room (byte '"' :: text) = .ok (.string s, rest) := by
  have dispatch
      : value (fuel + 1) room (byte '"' :: text)
        = readLiteral text >>= fun found => .ok (.string found.1, found.2) :=
    rfl
  rw [dispatch, readLiteral_eq_ok_iff.mpr literal]
  rfl

mutual
/-- By induction on the derivation, together with items and members. Two units of fuel are enough
for each byte, one for the list or object and one for what is in it.
-/
theorem Spells.value_eq {raw : Value} {text rest : Bytes} {fuel room : Nat}
    : Spells strict raw text rest → raw.nesting ≤ room →
        2 * text.length ≤ fuel + 1 + 2 * rest.length →
          value (fuel + 1) room text = .ok (raw.settled, rest)
  | .null, _, _ => rfl
  | .true, _, _ => rfl
  | .false, _, _ => rfl
  | .number numeral, _, _ => value_number numeral
  | .string literal, _, _ => value_string literal
  | .array spelled, fits, enough => by
      obtain ⟨room, rfl⟩ := Nat.exists_eq_add_of_le' (Nat.le_trans (Nat.succ_pos _) fits)
      rw [List.length_cons] at enough
      rw [value_bracket, spelled.items_eq (Nat.le_of_succ_le_succ fits) (by omega)]
      rfl
  | .object spelled, fits, enough => by
      obtain ⟨room, rfl⟩ := Nat.exists_eq_add_of_le' (Nat.le_trans (Nat.succ_pos _) fits)
      rw [List.length_cons] at enough
      rw [value_brace, spelled.members_eq (Nat.le_of_succ_le_succ fits) (by omega)]
      rfl

theorem Items.items_eq {first : Bool} {raw : List Value} {text rest : Bytes} {fuel room : Nat}
    : Items strict first raw text rest → Value.nestingOfItems raw ≤ room →
        2 * text.length + 1 ≤ fuel + 2 * rest.length →
          items fuel room first text = .ok (Value.settledItems raw, rest)
  | .done gap, _, enough => by
      have less := gap.length_le
      rw [List.length_cons] at less
      obtain ⟨fuel, rfl⟩ : ∃ less, fuel = less + 1 := ⟨fuel - 1, by omega⟩
      rw [items, nextItem_eq_done_iff.mpr ⟨_, rfl, gap⟩]
      rfl
  | .item separation spelled others, fits, enough => by
      obtain ⟨b, tail, rfl, starts⟩ := spelled.start isProper_strict
      have next := nextItem_eq_more_iff.mpr
        ⟨separation, b, tail, rfl, starts.noSpace, starts.noEnd⟩
      -- A first item may start where its list does: only the fuel tells the two calls apart.
      have less := separation.length_le
      have lessItem := spelled.length_lt isProper_strict
      have lessOthers := others.length_lt isProper_strict
      obtain ⟨fuel, rfl⟩ : ∃ less, fuel = less + 2 := ⟨fuel - 2, by omega⟩
      have isItem : value (fuel + 1) room (b :: tail) = _ :=
        spelled.value_eq (Nat.le_trans (Nat.le_max_left ..) fits) (by omega)
      have areOthers : items (fuel + 1) room _ _ = _ :=
        others.items_eq (Nat.le_trans (Nat.le_max_right ..) fits) (by omega)
      rw [items, next]
      simp only [bind, Except.bind, if_true, isItem, areOthers]
      rfl

theorem Members.members_eq {first : Bool} {raw before : List (String × Value)}
    {text rest : Bytes} {fuel room : Nat}
    : Members strict first raw text rest → Value.nestingOfMembers raw ≤ room →
        2 * text.length + 1 ≤ fuel + 2 * rest.length →
          members fuel room first before text = .ok (Value.settledMembers before raw, rest)
  | .done gap, _, enough => by
      have less := gap.length_le
      rw [List.length_cons] at less
      obtain ⟨fuel, rfl⟩ : ∃ less, fuel = less + 1 := ⟨fuel - 1, by omega⟩
      rw [members, nextMember_eq_done_iff.mpr ⟨_, rfl, gap⟩]
      rfl
  | .member separation literal colon gap spelled others, fits, enough => by
      have next := nextMember_eq_more_iff.mpr separation
      have isName := readLiteral_eq_ok_iff.mpr literal
      have isColon : Json.colon _ = .ok ((), _) := colon_eq_ok_iff.mpr colon
      have less := separation.length_le
      have lessName := literal.length_lt
      have lessColon := colon.length_le
      have lessGap := gap.length_le
      have lessMember := spelled.length_lt isProper_strict
      have lessOthers := others.length_lt isProper_strict
      simp only [List.length_cons] at less lessColon
      obtain ⟨fuel, rfl⟩ : ∃ less, fuel = less + 2 := ⟨fuel - 2, by omega⟩
      have isMember : value (fuel + 1) room _ = _ :=
        spelled.value_eq (Nat.le_trans (Nat.le_max_left ..) fits) (by omega)
      rw [members, next]
      simp only [bind, Except.bind, if_true, isName, isColon, value_gap gap, isMember]
      exact others.members_eq (Nat.le_trans (Nat.le_max_right ..) fits) (by omega)
end

theorem endOfText_eq_ok_iff {rest : Bytes} {found : Unit}
    : endOfText rest = .ok found ↔ Gap rest [] := by
  rw [gap_nil_iff, endOfText]
  cases skipSpace rest with
  | nil => simp
  | cons b tail => simp

/-- What is read from a text is what is written there, settled; and everything that is written in
the grammar is read, as long as it does not nest too deep.
-/
theorem parse_eq_ok_iff {body : Bytes} {v : Value}
    : parse body = .ok v
      ↔ ∃ raw, Holds strict raw body ∧ raw.nesting ≤ maxNesting ∧ raw.settled = v := by
  constructor
  · intro read
    obtain ⟨⟨found, rest⟩, isValue, read⟩ := exists_of_bind_eq_ok read
    obtain ⟨_, isEnd, done⟩ := exists_of_bind_eq_ok read
    cases done
    obtain ⟨raw, start, gap, spelled, fits, settled⟩ := spells_of_value _ isValue
    exact ⟨raw, .whole gap spelled (endOfText_eq_ok_iff.mp isEnd), fits, settled⟩
  · rintro ⟨raw, ⟨before, spelled, after⟩, fits, rfl⟩
    have less := before.length_le
    have isValue : value (2 * body.length + 1 + 1) maxNesting _ = _ :=
      spelled.value_eq fits (by omega)
    have isEnd : endOfText _ = .ok () := endOfText_eq_ok_iff.mpr after
    rw [parse, fuelFor, value_gap before, isValue]
    simp only [bind, Except.bind, isEnd]
    rfl

end SatClient.Json
