import SatClient.Proofs.Json.Skipping
import SatClient.Solver.Message

/-! The bodies that hold an answer, told by the grammar of JSON. The members of an object may come
in any order and be spelled in any way; what stands behind other names does not matter. An array
gives the same by position.
-/

namespace SatClient.Response

open Json (Gap Separation Items Holds Literal AnyLiteral Value byte)
open Utf8 (Bytes)

/-- The names of members that say something. -/
inductive Known : String → Prop
  | assignment : Known "assignment"
  | error : Known "error"

/-- The members of an object and its end, in the order of the text and as often as they are written.
A name is a text, spelled in any way; `HasValue` tells which texts spell a value behind a name.
-/
inductive Fields (HasValue : String → Value → Bytes → Bytes → Prop)
    : Bool → List (String × Value) → Bytes → Bytes → Prop
  | done {first text rest} (gap : Gap text (byte '\x7d' :: rest))
    : Fields HasValue first [] text rest
  | field {first name v fields text start afterName afterColon value middle rest}
    (separation : Separation first text (byte '"' :: start))
    (literal : Literal (Utf8.ofString name) start afterName)
    (colon : Gap afterName (byte ':' :: afterColon)) (gap : Gap afterColon value)
    (spelled : HasValue name v value middle)
    (others : Fields HasValue false fields middle rest)
    : Fields HasValue first ((name, v) :: fields) text rest

/-- A body is an object with the given members. -/
inductive IsObject (HasValue : String → Value → Bytes → Bytes → Prop)
    (fields : List (String × Value)) (body : Bytes) : Prop
  | whole {start rest} (before : Gap body (byte '\x7b' :: start))
    (spelled : Fields HasValue true fields start rest) (after : Gap rest [])

def IsOption (v : Value) : Prop := ∃ s, v = optionJson s

/-- Behind a known name stands a text or null, and behind any other name any value at all: of any
depth, with numbers of any size and with literals of any bytes.
-/
inductive Telling : String → Value → Bytes → Bytes → Prop
  | known {name s text rest} (isKnown : Known name)
    (spelled : Json.Spells Json.strict (optionJson s) text rest)
    : Telling name (optionJson s) text rest
  | other {name v text rest} (isOther : ¬ Known name) (spelled : Json.Spells Json.lax v text rest)
    : Telling name v text rest

/-- The values of the members with a name, in order. -/
def valuesOf (name : String) (fields : List (String × Value)) : List Value :=
  (fields.filter fun field => field.1 = name).map Prod.snd

/-- What the values behind one name mean: a text or null if there is one of them, and null if there
is none.
-/
inductive Means : List Value → Option String → Prop
  | missing : Means [] none
  | told {s} : Means [optionJson s] s

/-- Members give the parts of an answer. -/
structure Gives (fields : List (String × Value)) (r : Response) : Prop where
  assignment : Means (valuesOf "assignment" fields) r.assignment
  error : Means (valuesOf "error" fields) r.error

/-- Items give the parts of an answer: at most two, the assignment first. -/
inductive Lists : List Value → Response → Prop
  | none : Lists [] ⟨.none, .none⟩
  | one {assignment} : Lists [optionJson assignment] ⟨assignment, .none⟩
  | two {assignment error}
    : Lists [optionJson assignment, optionJson error] ⟨assignment, error⟩

/-- A body holds an answer, as an object or as an array. -/
inductive Written (r : Response) (body : Bytes) : Prop
  | object {fields} (isObject : IsObject Telling fields body) (gives : Gives fields r)
  | array {items} (holds : Holds Json.strict (.array items) body) (lists : Lists items r)

-----------------------------------------------------------------------------------------
-- Values
-----------------------------------------------------------------------------------------

theorem spells_null_iff {lexis : Json.Lexis} {text rest : Bytes}
    : Json.Spells lexis .null text rest ↔ text = ['n', 'u', 'l', 'l'].map byte ++ rest := by
  constructor
  · rintro ⟨⟩
    rfl
  · rintro rfl
    exact .null

theorem spells_string_iff {lexis : Json.Lexis} {s : String} {text rest : Bytes}
    : Json.Spells lexis (.string s) text rest
      ↔ ∃ start, text = byte '"' :: start ∧ lexis.literal s start rest := by
  constructor
  · rintro ⟨⟩
    next start literal => exact ⟨start, rfl, literal⟩
  · rintro ⟨start, rfl, literal⟩
    exact .string literal

/-- The reader takes null and the texts, with space before them. -/
theorem readOption_eq_ok_iff {s : Option String} {text rest : Bytes}
    : readOption text = .ok (s, rest)
      ↔ ∃ start, Gap text start ∧ Json.Spells Json.strict (optionJson s) start rest := by
  constructor
  · intro read
    have gap := Json.gap_skipSpace text
    refine ⟨_, gap, ?_⟩
    rw [readOption] at read
    cases start : Json.skipSpace text with
    | nil =>
        rw [start] at read
        cases read
    | cons b tail =>
        rw [start] at read
        dsimp only at read
        split at read
        next isN =>
          cases eq_of_beq isN
          obtain ⟨⟨_, _⟩, isWord, done⟩ := exists_of_bind_eq_ok read
          cases done
          exact spells_null_iff.mpr (congrArg _ (Json.word_eq_ok_iff.mp isWord))
        next =>
          split at read
          next isQuote =>
            cases eq_of_beq isQuote
            obtain ⟨⟨_, _⟩, isLiteral, done⟩ := exists_of_bind_eq_ok read
            cases done
            exact .string (Json.readLiteral_eq_ok_iff.mp isLiteral)
          next => cases read
  · rintro ⟨start, gap, spelled⟩
    cases s with
    | none =>
        rw [spells_null_iff.mp spelled] at gap
        rw [readOption, (Json.gap_cons_iff (by decide)).mp gap]
        rfl
    | some s =>
        obtain ⟨tail, rfl, literal⟩ := spells_string_iff.mp spelled
        have quote : byte '"' ≠ byte 'n' := by decide
        have isLiteral : Json.readLiteral tail = .ok (s, rest) :=
          Json.readLiteral_eq_ok_iff.mpr literal
        rw [readOption, (Json.gap_cons_iff (by decide)).mp gap]
        simp only [beq_iff_eq, quote, if_false, if_true, isLiteral]
        rfl

/-- A literal that stands for a text is one whose bytes can be passed over. -/
theorem anyLiteral_of_literal {decoded text rest : Bytes} (literal : Literal decoded text rest)
    : AnyLiteral text rest := by
  induction literal with
  | close => exact .close
  | plain isPlain more ih => exact .plain isPlain ih
  | escaped escape more ih =>
      cases escape with
      | short letter => exact .escaped (.short letter) ih
      | numbered hex => exact .escaped (.numbered hex) ih
      | pair hex isHigh hex' isLow =>
          -- The second half of a pair is passed over as an escape of its own.
          exact .escaped (.numbered hex) (.escaped (.numbered hex') ih)

theorem spells_lax_optionJson {s : Option String} {text rest : Bytes}
    (spelled : Json.Spells Json.strict (optionJson s) text rest)
    : Json.Spells Json.lax (optionJson s) text rest := by
  cases s with
  | none => exact spells_null_iff.mpr (spells_null_iff.mp spelled)
  | some s =>
      obtain ⟨start, rfl, literal⟩ := spells_string_iff.mp spelled
      exact .string (anyLiteral_of_literal literal)

/-- What stands behind a name can be passed over. -/
theorem Telling.spells_lax {name : String} {v : Value} {text rest : Bytes}
    (telling : Telling name v text rest)
    : Json.Spells Json.lax v text rest := by
  cases telling with
  | known isKnown spelled => exact spells_lax_optionJson spelled
  | other isOther spelled => exact spelled

theorem Telling.spells_strict {name : String} {v : Value} {text rest : Bytes}
    (telling : Telling name v text rest) (isKnown : Known name)
    : Json.Spells Json.strict v text rest := by
  cases telling with
  | known isKnown spelled => exact spelled
  | other isOther spelled => exact absurd isKnown isOther

-----------------------------------------------------------------------------------------
-- Members
-----------------------------------------------------------------------------------------

/-- What a member adds to what was found: a known name may come only once. -/
inductive Notes : String → Value → Members → Members → Prop
  | assignment {s error} : Notes "assignment" (optionJson s) ⟨none, error⟩ ⟨some s, error⟩
  | error {s assignment} : Notes "error" (optionJson s) ⟨assignment, none⟩ ⟨assignment, some s⟩
  | other {name v found} (isOther : ¬ Known name) : Notes name v found found

/-- What members add to what was found, one after another. -/
inductive Collects : Members → List (String × Value) → Members → Prop
  | done {found} : Collects found [] found
  | field {found name v middle fields final} (notes : Notes name v found middle)
    (others : Collects middle fields final)
    : Collects found ((name, v) :: fields) final

/-- What was found behind one name before, the values that follow, and what is found in the end. -/
inductive Settles : Option (Option String) → List Value → Option (Option String) → Prop
  | kept {known} : Settles known [] known
  | told {s} : Settles none [optionJson s] (some s)

theorem not_known_iff {name : String} : ¬ Known name ↔ name ≠ "assignment" ∧ name ≠ "error" := by
  constructor
  · intro isOther
    exact ⟨by rintro rfl; exact isOther .assignment, by rintro rfl; exact isOther .error⟩
  · rintro ⟨notAssignment, notError⟩ (_ | _)
    · exact notAssignment rfl
    · exact notError rfl

/-- What is kept of null or a text behind a colon. -/
theorem readTold_eq_ok_iff (keep : Option String → Members) {after : Members} {text rest : Bytes}
    : (do
        let (_, rest) ← Json.colon text
        let (s, rest) ← readOption rest
        .ok (keep s, rest))
        = .ok (after, rest)
      ↔ ∃ afterColon start s,
          Gap text (byte ':' :: afterColon)
          ∧ Gap afterColon start
          ∧ Json.Spells Json.strict (optionJson s) start rest
          ∧ keep s = after := by
  constructor
  · intro read
    obtain ⟨⟨_, afterColon⟩, isColon, read⟩ := exists_of_bind_eq_ok read
    obtain ⟨⟨s, _⟩, isOption, done⟩ := exists_of_bind_eq_ok read
    cases done
    obtain ⟨start, gap, spelled⟩ := readOption_eq_ok_iff.mp isOption
    exact ⟨afterColon, start, s, Json.colon_eq_ok_iff.mp isColon, gap, spelled, rfl⟩
  · rintro ⟨afterColon, start, s, colon, gap, spelled, rfl⟩
    have isColon : Json.colon text = .ok ((), afterColon) := Json.colon_eq_ok_iff.mpr colon
    have isOption : readOption afterColon = .ok (s, rest) :=
      readOption_eq_ok_iff.mpr ⟨start, gap, spelled⟩
    simp only [isColon, isOption, bind, Except.bind]

theorem readMember_eq_ok_iff {name : String} {found after : Members} {text rest : Bytes}
    : readMember name found text = .ok (after, rest)
      ↔ ∃ afterColon start v,
          Gap text (byte ':' :: afterColon)
          ∧ Gap afterColon start
          ∧ Telling name v start rest
          ∧ Notes name v found after := by
  obtain ⟨assignment, error⟩ := found
  constructor
  · intro read
    rw [readMember] at read
    split_ifs at read with isAssignment again isError again
    · subst isAssignment
      obtain ⟨afterColon, start, s, colon, gap, spelled, rfl⟩ :=
        (readTold_eq_ok_iff fun s => ⟨some s, error⟩).mp read
      obtain rfl : assignment = none := Option.not_isSome_iff_eq_none.mp again
      exact ⟨afterColon, start, _, colon, gap, .known .assignment spelled, .assignment⟩
    · subst isError
      obtain ⟨afterColon, start, s, colon, gap, spelled, rfl⟩ :=
        (readTold_eq_ok_iff fun s => ⟨assignment, some s⟩).mp read
      obtain rfl : error = none := Option.not_isSome_iff_eq_none.mp again
      exact ⟨afterColon, start, _, colon, gap, .known .error spelled, .error⟩
    · obtain ⟨⟨_, afterColon⟩, isColon, read⟩ := exists_of_bind_eq_ok read
      obtain ⟨⟨_, _⟩, isSkipped, done⟩ := exists_of_bind_eq_ok read
      cases done
      obtain ⟨v, start, gap, spelled⟩ := Json.spells_of_skipValue _ isSkipped
      have isOther := not_known_iff.mpr ⟨isAssignment, isError⟩
      exact ⟨afterColon, start, v, Json.colon_eq_ok_iff.mp isColon, gap,
        .other isOther spelled, .other isOther⟩
  · rintro ⟨afterColon, start, v, colon, gap, telling, notes⟩
    rw [readMember]
    cases notes with
    | assignment =>
        rw [if_pos rfl, if_neg (by simp)]
        exact (readTold_eq_ok_iff fun s => ⟨some s, error⟩).mpr
          ⟨afterColon, start, _, colon, gap, telling.spells_strict .assignment, rfl⟩
    | error =>
        rw [if_neg (by decide), if_pos rfl, if_neg (by simp)]
        exact (readTold_eq_ok_iff fun s => ⟨assignment, some s⟩).mpr
          ⟨afterColon, start, _, colon, gap, telling.spells_strict .error, rfl⟩
    | other isOther =>
        obtain ⟨notAssignment, notError⟩ := not_known_iff.mp isOther
        have isColon : Json.colon text = .ok ((), afterColon) := Json.colon_eq_ok_iff.mpr colon
        have less := gap.length_le
        have isSkipped : Json.skipValue (Json.fuelFor afterColon) afterColon = .ok ((), rest) := by
          rw [Json.fuelFor, Json.skipValue_gap gap]
          exact telling.spells_lax.skipValue_eq (by omega)
        rw [if_neg notAssignment, if_neg notError]
        simp only [isColon, isSkipped, bind, Except.bind]

theorem Telling.length_lt {name : String} {v : Value} {text rest : Bytes}
    (telling : Telling name v text rest)
    : rest.length < text.length :=
  telling.spells_lax.length_lt Json.isProper_lax

/-- What is read of members is spelled there, by induction on the fuel. -/
theorem fields_of_readMembers : ∀ (fuel : Nat) {first : Bool} {found final : Members}
    {text rest : Bytes}, readMembers fuel first found text = .ok (final, rest) →
      ∃ fields, Fields Telling first fields text rest ∧ Collects found fields final
  | fuel + 1, first, found, final, text, rest, read => by
      obtain ⟨⟨more, start⟩, next, read⟩ := exists_of_bind_eq_ok read
      cases more with
      | false =>
          cases read
          obtain ⟨tail, rfl, gap⟩ := Json.nextMember_eq_done_iff.mp next
          exact ⟨[], .done gap, .done⟩
      | true =>
          obtain ⟨⟨name, afterName⟩, isName, read⟩ := exists_of_bind_eq_ok read
          obtain ⟨⟨noted, middle⟩, isMember, areOthers⟩ := exists_of_bind_eq_ok read
          obtain ⟨afterColon, value, v, colon, gap, telling, notes⟩ :=
            readMember_eq_ok_iff.mp isMember
          obtain ⟨fields, others, collects⟩ := fields_of_readMembers fuel areOthers
          exact ⟨(name, v) :: fields,
            .field (Json.nextMember_eq_more_iff.mp next) (Json.readLiteral_eq_ok_iff.mp isName)
              colon gap telling others,
            .field notes collects⟩

/-- Members that are spelled somewhere are read there, by induction on them. -/
theorem Fields.readMembers_eq {first : Bool} {fields : List (String × Value)}
    {text rest : Bytes} (spelled : Fields Telling first fields text rest)
    : ∀ {fuel : Nat} {found final : Members}, Collects found fields final →
        text.length ≤ fuel → readMembers fuel first found text = .ok (final, rest) := by
  induction spelled with
  | done gap =>
      intro fuel found final collects enough
      have less := gap.length_le
      rw [List.length_cons] at less
      obtain ⟨fuel, rfl⟩ : ∃ less, fuel = less + 1 := ⟨fuel - 1, by omega⟩
      cases collects
      rw [readMembers, Json.nextMember_eq_done_iff.mpr ⟨_, rfl, gap⟩]
      rfl
  | field separation literal colon gap telling others ih =>
      intro fuel found final collects enough
      have less := separation.length_le
      have lessName := literal.length_lt
      have lessColon := colon.length_le
      have lessGap := gap.length_le
      have lessValue := telling.length_lt
      simp only [List.length_cons] at less lessColon
      obtain ⟨fuel, rfl⟩ : ∃ less, fuel = less + 1 := ⟨fuel - 1, by omega⟩
      cases collects with
      | field notes collects =>
          rw [readMembers, Json.nextMember_eq_more_iff.mpr separation]
          simp only [bind, Except.bind, if_true, Json.readLiteral_eq_ok_iff.mpr literal,
            readMember_eq_ok_iff.mpr ⟨_, _, _, colon, gap, telling, notes⟩]
          exact ih collects (by omega)

-----------------------------------------------------------------------------------------
-- What members mean
-----------------------------------------------------------------------------------------

theorem valuesOf_cons_self (name : String) (v : Value) (fields : List (String × Value))
    : valuesOf name ((name, v) :: fields) = v :: valuesOf name fields := by
  simp [valuesOf]

theorem valuesOf_cons_of_ne {name other : String} (different : other ≠ name) (v : Value)
    (fields : List (String × Value))
    : valuesOf name ((other, v) :: fields) = valuesOf name fields := by
  simp [valuesOf, different]

theorem settles_some_iff {s : Option String} {values : List Value} {final : Option (Option String)}
    : Settles (some s) values final ↔ values = [] ∧ final = some s := by
  constructor
  · rintro ⟨⟩
    exact ⟨rfl, rfl⟩
  · rintro ⟨rfl, rfl⟩
    exact .kept

theorem settles_cons_iff {known final : Option (Option String)} {v : Value} {values : List Value}
    : Settles known (v :: values) final
      ↔ known = none ∧ values = [] ∧ ∃ s, v = optionJson s ∧ final = some s := by
  constructor
  · rintro ⟨⟩
    exact ⟨rfl, rfl, _, rfl, rfl⟩
  · rintro ⟨rfl, rfl, s, rfl, rfl⟩
    exact .told

theorem settles_none_iff {values : List Value} {s : Option String}
    : (∃ final, Settles none values final ∧ final.getD none = s) ↔ Means values s := by
  constructor
  · rintro ⟨final, ⟨⟩, rfl⟩
    · exact .missing
    · exact .told
  · rintro ⟨⟩
    · exact ⟨none, .kept, rfl⟩
    · exact ⟨some s, .told, rfl⟩

/-- Members add up to what stands behind each of the known names, by induction on them. -/
theorem collects_iff {found final : Members} {fields : List (String × Value)}
    : Collects found fields final
      ↔ Settles found.assignment (valuesOf "assignment" fields) final.assignment
        ∧ Settles found.error (valuesOf "error" fields) final.error := by
  have apart : "assignment" ≠ "error" := by decide
  induction fields generalizing found with
  | nil =>
      obtain ⟨assignment, error⟩ := found
      obtain ⟨assignment', error'⟩ := final
      constructor
      · rintro ⟨⟩
        exact ⟨.kept, .kept⟩
      · rintro ⟨⟨⟩, ⟨⟩⟩
        exact .done
  | cons field fields ih =>
      obtain ⟨name, v⟩ := field
      obtain ⟨assignment, error⟩ := found
      constructor
      · intro collects
        cases collects with
        | field notes others =>
            obtain ⟨settles, settles'⟩ := ih.mp others
            cases notes with
            | @assignment s =>
                rw [valuesOf_cons_self, valuesOf_cons_of_ne apart, settles_cons_iff]
                obtain ⟨noMore, isFinal⟩ := settles_some_iff.mp settles
                exact ⟨⟨rfl, noMore, s, rfl, isFinal⟩, settles'⟩
            | @error s =>
                rw [valuesOf_cons_self, valuesOf_cons_of_ne apart.symm, settles_cons_iff]
                obtain ⟨noMore, isFinal⟩ := settles_some_iff.mp settles'
                exact ⟨settles, ⟨rfl, noMore, s, rfl, isFinal⟩⟩
            | other isOther =>
                obtain ⟨notAssignment, notError⟩ := not_known_iff.mp isOther
                rw [valuesOf_cons_of_ne notAssignment, valuesOf_cons_of_ne notError]
                exact ⟨settles, settles'⟩
      · rintro ⟨settles, settles'⟩
        by_cases isAssignment : name = "assignment"
        · subst isAssignment
          rw [valuesOf_cons_self, settles_cons_iff] at settles
          rw [valuesOf_cons_of_ne apart] at settles'
          obtain ⟨rfl, noMore, s, rfl, isFinal⟩ := settles
          exact .field .assignment (ih.mpr ⟨settles_some_iff.mpr ⟨noMore, isFinal⟩, settles'⟩)
        · by_cases isError : name = "error"
          · subst isError
            rw [valuesOf_cons_of_ne apart.symm] at settles
            rw [valuesOf_cons_self, settles_cons_iff] at settles'
            obtain ⟨rfl, noMore, s, rfl, isFinal⟩ := settles'
            exact .field .error (ih.mpr ⟨settles, settles_some_iff.mpr ⟨noMore, isFinal⟩⟩)
          · rw [valuesOf_cons_of_ne isAssignment] at settles
            rw [valuesOf_cons_of_ne isError] at settles'
            have isOther := not_known_iff.mpr ⟨isAssignment, isError⟩
            exact .field (.other isOther) (ih.mpr ⟨settles, settles'⟩)

theorem gives_iff {fields : List (String × Value)} {r : Response}
    : Gives fields r ↔ ∃ final, Collects ⟨none, none⟩ fields final ∧ final.response = r := by
  obtain ⟨assignment, error⟩ := r
  constructor
  · rintro ⟨isAssignment, isError⟩
    obtain ⟨told, settles, rfl⟩ := settles_none_iff.mpr isAssignment
    obtain ⟨told', settles', rfl⟩ := settles_none_iff.mpr isError
    exact ⟨⟨told, told'⟩, collects_iff.mpr ⟨settles, settles'⟩, rfl⟩
  · rintro ⟨final, collects, same⟩
    cases same
    obtain ⟨settles, settles'⟩ := collects_iff.mp collects
    exact ⟨settles_none_iff.mp ⟨_, settles, rfl⟩, settles_none_iff.mp ⟨_, settles', rfl⟩⟩

-----------------------------------------------------------------------------------------
-- Arrays
-----------------------------------------------------------------------------------------

/-- Nothing may follow the second item of an array. -/
theorem endOfArray_eq_ok_iff {text rest : Bytes} {found : Unit}
    : endOfArray text = .ok (found, rest) ↔ Gap text (byte ']' :: rest) := by
  rw [Json.gap_cons_iff (by decide), endOfArray]
  cases Json.skipSpace text with
  | nil => simp
  | cons b tail =>
      dsimp only
      by_cases isEnd : b = byte ']'
      · simp [isEnd]
      · rw [if_neg (mt eq_of_beq isEnd)]
        refine ⟨?_, by rintro ⟨⟩; exact absurd rfl isEnd⟩
        intro read
        split at read
        next =>
          split at read
          next => cases read
          next => split at read <;> cases read
        next => cases read

/-- An item of an array that is there is one that the reader goes on to. -/
theorem nextItem_eq_more {lexis : Json.Lexis} (proper : lexis.IsProper) {first : Bool} {v : Value}
    {text start rest : Bytes} (separation : Separation first text start)
    (spelled : Json.Spells lexis v start rest)
    : Json.nextItem first text = .ok (true, start) := by
  obtain ⟨b, tail, rfl, starts⟩ := spelled.start proper
  exact Json.nextItem_eq_more_iff.mpr ⟨separation, b, tail, rfl, starts.noSpace, starts.noEnd⟩

/-- An array that is read has at most two items, by cases on how many of them there are. -/
theorem exists_items_of_readArray {r : Response} {text rest : Bytes}
    (read : readArray text = .ok (r, rest))
    : ∃ items, Items Json.strict true items text rest ∧ Lists items r := by
  obtain ⟨⟨more, start⟩, next, read⟩ := exists_of_bind_eq_ok read
  cases more with
  | false =>
      obtain ⟨_, _, gap⟩ := Json.nextItem_eq_done_iff.mp next
      obtain ⟨⟨_, _⟩, isEnd, done⟩ := exists_of_bind_eq_ok read
      cases done
      exact ⟨[], .done (gap.trans (endOfArray_eq_ok_iff.mp isEnd)), .none⟩
  | true =>
      have separation := (Json.nextItem_eq_more_iff.mp next).1
      obtain ⟨⟨assignment, middle⟩, isOption, read⟩ := exists_of_bind_eq_ok read
      obtain ⟨value, gap, spelled⟩ := readOption_eq_ok_iff.mp isOption
      obtain ⟨⟨more, start'⟩, next', read⟩ := exists_of_bind_eq_ok read
      cases more with
      | false =>
          obtain ⟨_, _, gap'⟩ := Json.nextItem_eq_done_iff.mp next'
          obtain ⟨⟨_, _⟩, isEnd, done⟩ := exists_of_bind_eq_ok read
          cases done
          exact ⟨[optionJson assignment],
            .item (separation.gap gap) spelled
              (.done (gap'.trans (endOfArray_eq_ok_iff.mp isEnd))), .one⟩
      | true =>
          have separation' := (Json.nextItem_eq_more_iff.mp next').1
          obtain ⟨⟨error, middle'⟩, isOption', read⟩ := exists_of_bind_eq_ok read
          obtain ⟨value', gap', spelled'⟩ := readOption_eq_ok_iff.mp isOption'
          obtain ⟨⟨_, _⟩, isEnd, done⟩ := exists_of_bind_eq_ok read
          cases done
          exact ⟨[optionJson assignment, optionJson error],
            .item (separation.gap gap) spelled
              (.item (separation'.gap gap') spelled' (.done (endOfArray_eq_ok_iff.mp isEnd))),
            .two⟩

section Arrays

variable {text start rest : Bytes} {assignment error : Option String}

theorem endOfArray_bracket (rest : Bytes) : endOfArray (byte ']' :: rest) = .ok ((), rest) :=
  endOfArray_eq_ok_iff.mpr .none

theorem readArray_of_none (gap : Gap text (byte ']' :: rest))
    : readArray text = .ok (⟨none, none⟩, rest) := by
  simp only [readArray, bind, Except.bind, Bool.not_false, if_true,
    Json.nextItem_eq_done_iff.mpr ⟨_, rfl, gap⟩, endOfArray_bracket]
  rfl

/-- What is read of an array with an item in it. -/
theorem readArray_of_item {middle : Bytes} (separation : Separation true text start)
    (item : Json.Spells Json.strict (optionJson assignment) start middle)
    : readArray text
      = Json.nextItem false middle >>= fun (more, rest) =>
          if !more then
            endOfArray rest >>= fun (_, rest) => .ok (⟨assignment, none⟩, rest)
          else
            readOption rest >>= fun (error, rest) =>
              endOfArray rest >>= fun (_, rest) => .ok (⟨assignment, error⟩, rest) := by
  simp only [readArray, bind, Except.bind, Bool.not_true, Bool.false_eq_true, if_false,
    nextItem_eq_more Json.isProper_strict separation item,
    readOption_eq_ok_iff.mpr ⟨_, .none, item⟩]
  rfl

theorem readArray_of_one {middle : Bytes} (separation : Separation true text start)
    (item : Json.Spells Json.strict (optionJson assignment) start middle)
    (gap : Gap middle (byte ']' :: rest))
    : readArray text = .ok (⟨assignment, none⟩, rest) := by
  rw [readArray_of_item separation item]
  simp only [bind, Except.bind, Bool.not_false, if_true,
    Json.nextItem_eq_done_iff.mpr ⟨_, rfl, gap⟩, endOfArray_bracket]

theorem readArray_of_two {middle start' middle' : Bytes} (separation : Separation true text start)
    (item : Json.Spells Json.strict (optionJson assignment) start middle)
    (separation' : Separation false middle start')
    (item' : Json.Spells Json.strict (optionJson error) start' middle')
    (gap : Gap middle' (byte ']' :: rest))
    : readArray text = .ok (⟨assignment, error⟩, rest) := by
  have isEnd : endOfArray middle' = .ok ((), rest) := endOfArray_eq_ok_iff.mpr gap
  rw [readArray_of_item separation item]
  simp only [bind, Except.bind, Bool.not_true, Bool.false_eq_true, if_false,
    nextItem_eq_more Json.isProper_strict separation' item',
    readOption_eq_ok_iff.mpr ⟨_, .none, item'⟩, isEnd]

end Arrays

theorem readArray_eq_ok_iff {r : Response} {text rest : Bytes}
    : readArray text = .ok (r, rest)
      ↔ ∃ items, Items Json.strict true items text rest ∧ Lists items r := by
  constructor
  · exact exists_items_of_readArray
  · rintro ⟨items, spelled, lists⟩
    cases lists with
    | none =>
        cases spelled with
        | done gap => exact readArray_of_none gap
    | one =>
        cases spelled with
        | item separation item others =>
            cases others with
            | done gap => exact readArray_of_one separation item gap
    | two =>
        cases spelled with
        | item separation item others =>
            cases others with
            | item separation' item' others =>
                cases others with
                | done gap => exact readArray_of_two separation item separation' item' gap

-----------------------------------------------------------------------------------------
-- Bodies
-----------------------------------------------------------------------------------------

theorem read_bracket {body start : Bytes} (gap : Gap body (byte '[' :: start))
    : read body = readArray start := by
  rw [read, (Json.gap_cons_iff (by decide)).mp gap]
  rfl

theorem read_brace {body start : Bytes} (gap : Gap body (byte '\x7b' :: start))
    : read body
      = readMembers (start.length + 1) true ⟨none, none⟩ start >>= fun found =>
          .ok (found.1.response, found.2) := by
  rw [read, (Json.gap_cons_iff (by decide)).mp gap]
  rfl

/-- The bodies that are read as an answer are those in which it is written. -/
theorem decode_eq_ok_iff {body : Bytes} {r : Response}
    : decode body = .ok r ↔ Written r body := by
  constructor
  · intro decoded
    obtain ⟨⟨_, rest⟩, isRead, decoded⟩ := exists_of_bind_eq_ok decoded
    obtain ⟨_, isEnd, done⟩ := exists_of_bind_eq_ok decoded
    cases done
    have after := Json.endOfText_eq_ok_iff.mp isEnd
    have gap := Json.gap_skipSpace body
    cases start : Json.skipSpace body with
    | nil =>
        rw [read, start] at isRead
        cases isRead
    | cons b tail =>
        rw [start] at gap
        by_cases isBracket : b = byte '['
        · subst isBracket
          rw [read_bracket gap] at isRead
          obtain ⟨items, spelled, lists⟩ := readArray_eq_ok_iff.mp isRead
          exact .array (.whole gap (.array spelled) after) lists
        · by_cases isBrace : b = byte '\x7b'
          · subst isBrace
            rw [read_brace gap] at isRead
            obtain ⟨⟨final, _⟩, areMembers, done⟩ := exists_of_bind_eq_ok isRead
            cases done
            obtain ⟨fields, spelled, collects⟩ := fields_of_readMembers _ areMembers
            exact .object (.whole gap spelled after) (gives_iff.mpr ⟨final, collects, rfl⟩)
          · rw [read, start] at isRead
            simp only [beq_iff_eq, isBracket, isBrace, if_false] at isRead
            cases isRead
  · rintro (@⟨fields, ⟨before, spelled, after⟩, gives⟩ | @⟨items, ⟨before, spelled, after⟩, lists⟩)
    · obtain ⟨final, collects, rfl⟩ := gives_iff.mp gives
      have isEnd : Json.endOfText _ = .ok () := Json.endOfText_eq_ok_iff.mpr after
      simp only [decode, read_brace before, bind, Except.bind,
        spelled.readMembers_eq collects (Nat.le_succ _), isEnd]
      rfl
    · cases spelled with
      | array spelled =>
          have isEnd : Json.endOfText _ = .ok () := Json.endOfText_eq_ok_iff.mpr after
          simp only [decode, read_bracket before, bind, Except.bind,
            readArray_eq_ok_iff.mpr ⟨items, spelled, lists⟩, isEnd]
          rfl

-----------------------------------------------------------------------------------------
-- Answers are JSON
-----------------------------------------------------------------------------------------

theorem Fields.members_lax {first : Bool} {fields : List (String × Value)} {text rest : Bytes}
    (spelled : Fields Telling first fields text rest)
    : Json.Members Json.lax first fields text rest := by
  induction spelled with
  | done gap => exact .done gap
  | field separation literal colon gap telling others ih =>
      exact .member separation (anyLiteral_of_literal literal) colon gap telling.spells_lax ih

theorem Lists.isOption {items : List Value} {r : Response} (lists : Lists items r)
    : ∀ v ∈ items, IsOption v := by
  cases lists with
  | none => exact nofun
  | one => exact List.forall_mem_singleton.mpr ⟨_, rfl⟩
  | two => exact List.forall_mem_cons.mpr ⟨⟨_, rfl⟩, List.forall_mem_singleton.mpr ⟨_, rfl⟩⟩

theorem items_lax : ∀ {first : Bool} {items : List Value} {text rest : Bytes},
    (∀ v ∈ items, IsOption v) → Items Json.strict first items text rest →
      Items Json.lax first items text rest
  | _, _, _, _, _, .done gap => .done gap
  | _, _, _, _, options, .item separation spelled others => by
      obtain ⟨⟨s, isOption⟩, options'⟩ := List.forall_mem_cons.mp options
      subst isOption
      exact .item separation (spells_lax_optionJson spelled) (items_lax options' others)

/-- A body that holds an answer can be passed over as JSON. -/
theorem Written.exists_holds {r : Response} {body : Bytes} (written : Written r body)
    : ∃ v, Holds Json.lax v body := by
  rcases written with ⟨⟨before, spelled, after⟩, gives⟩ | ⟨⟨before, spelled, after⟩, lists⟩
  · exact ⟨_, .whole before (.object spelled.members_lax) after⟩
  · cases spelled with
    | array spelled => exact ⟨_, .whole before (.array (items_lax lists.isOption spelled)) after⟩

end SatClient.Response
