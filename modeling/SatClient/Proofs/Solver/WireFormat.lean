import Mathlib.Data.List.Forall2
import SatClient.Proofs.Json.Writing
import SatClient.Proofs.Solver.ResponseText

/-! What goes over the wire as an answer. However an answer is spelled it is read back, an object
that says a part twice or says it in the wrong type is refused, and what is written of an answer
names both of its parts.
-/

namespace SatClient.Response

open Json (Gap Separation Holds Literal Value byte)
open Utf8 (Bytes)

/-- Members say a part of an answer in a way that makes no sense: twice, or in the wrong type. -/
inductive Misstates (fields : List (String × Value)) : Prop
  | twice {name} (isKnown : Known name) (many : 1 < (valuesOf name fields).length)
  | mistyped {name v} (isKnown : Known name) (isValue : v ∈ valuesOf name fields)
    (noOption : ¬ IsOption v)

-----------------------------------------------------------------------------------------
-- Two readings of the same text
-----------------------------------------------------------------------------------------

theorem isOption_iff {v : Value} : IsOption v ↔ v = .null ∨ ∃ s, v = .string s := by
  constructor
  · rintro ⟨_ | s, rfl⟩
    · exact .inl rfl
    · exact .inr ⟨s, rfl⟩
  · rintro (rfl | ⟨s, rfl⟩)
    · exact ⟨none, rfl⟩
    · exact ⟨some s, rfl⟩

/-- The first byte tells whether a value is a text or null. -/
theorem isOption_iff_first {v : Value} {b : UInt8} {tail rest : Bytes}
    (spelled : Json.Spells Json.lax v (b :: tail) rest)
    : IsOption v ↔ b = byte 'n' ∨ b = byte '"' := by
  rw [isOption_iff]
  cases spelled with
  | null => simp
  | string => simp
  | number numeral =>
      obtain ⟨_, _, same, starts⟩ := Json.isProper_lax.numberStart numeral
      cases same
      have noLetter : b ≠ byte 'n' ∧ b ≠ byte '"' := by
        rcases starts with digit | rfl
        · exact ⟨Json.ne_of_isDigit digit (by decide), Json.ne_of_isDigit digit (by decide)⟩
        · decide
      simp [noLetter]
  | true => simp; decide
  | false => simp; decide
  | array => simp; decide
  | object => simp; decide

/-- What a text spells behind some space ends in one place, and it is an option or not. -/
theorem spells_lax_alike {v v' : Value} {text start start' rest rest' : Bytes}
    (gap : Gap text start) (spelled : Json.Spells Json.lax v start rest) (gap' : Gap text start')
    (spelled' : Json.Spells Json.lax v' start' rest')
    : rest = rest' ∧ (IsOption v ↔ IsOption v') := by
  obtain ⟨b, tail, rfl, starts⟩ := spelled.start Json.isProper_lax
  obtain ⟨b', tail', rfl, starts'⟩ := spelled'.start Json.isProper_lax
  have same := ((Json.gap_cons_iff starts.noSpace).mp gap).symm.trans
    ((Json.gap_cons_iff starts'.noSpace).mp gap')
  cases same
  have enough : 2 * (b :: tail).length ≤ 2 * (b :: tail).length + 1 := by omega
  have skipped := spelled.skipValue_eq (Nat.le_trans enough (Nat.le_add_right _ _))
  have skipped' := spelled'.skipValue_eq (Nat.le_trans enough (Nat.le_add_right _ _))
  refine ⟨?_, by rw [isOption_iff_first spelled, isOption_iff_first spelled']⟩
  rw [skipped] at skipped'
  exact congrArg Prod.snd (Except.ok.inj skipped')

/-- Two members that are the same as far as a reader of answers sees. -/
def Alike (field field' : String × Value) : Prop :=
  field.1 = field'.1 ∧ (IsOption field.2 ↔ IsOption field'.2)

/-- Members that are spelled by the same text are alike, by induction on them. -/
theorem Fields.alike {first : Bool} {fields fields' : List (String × Value)}
    {text rest rest' : Bytes}
    (spelled : Fields (fun _ => Json.Spells Json.lax) first fields text rest)
    (spelled' : Fields Telling first fields' text rest')
    : List.Forall₂ Alike fields fields' := by
  induction spelled generalizing fields' rest' with
  | done gap =>
      cases spelled' with
      | done => exact .nil
      | field separation =>
          have next := Json.nextMember_eq_more_iff.mpr separation
          rw [Json.nextMember_eq_done_iff.mpr ⟨_, rfl, gap⟩] at next
          cases next
  | field separation literal colon gap value others ih =>
      cases spelled' with
      | done gap' =>
          have next := Json.nextMember_eq_more_iff.mpr separation
          rw [Json.nextMember_eq_done_iff.mpr ⟨_, rfl, gap'⟩] at next
          cases next
      | field separation' literal' colon' gap' telling others' =>
          have sameStart := (Json.nextMember_eq_more_iff.mpr separation).symm.trans
            (Json.nextMember_eq_more_iff.mpr separation')
          cases sameStart
          have sameName := (Json.readLiteral_eq_ok_iff.mpr literal).symm.trans
            (Json.readLiteral_eq_ok_iff.mpr literal')
          cases sameName
          have sameColon := ((Json.gap_cons_iff (by decide)).mp colon).symm.trans
            ((Json.gap_cons_iff (by decide)).mp colon')
          cases sameColon
          obtain ⟨rfl, isOption⟩ := spells_lax_alike gap value gap' telling.spells_lax
          exact .cons ⟨rfl, isOption⟩ (ih others')

theorem forall₂_valuesOf {fields fields' : List (String × Value)}
    (alike : List.Forall₂ Alike fields fields') (name : String)
    : List.Forall₂ (fun v v' => IsOption v ↔ IsOption v') (valuesOf name fields)
        (valuesOf name fields') := by
  induction alike with
  | nil => exact .nil
  | @cons field field' _ _ same others ih =>
      obtain ⟨other, v⟩ := field
      obtain ⟨_, v'⟩ := field'
      obtain ⟨rfl, isOption⟩ := same
      by_cases isName : other = name
      · subst isName
        rw [valuesOf_cons_self, valuesOf_cons_self]
        exact .cons isOption ih
      · rw [valuesOf_cons_of_ne isName, valuesOf_cons_of_ne isName]
        exact ih

/-- The values of known members that give an answer make sense. -/
theorem Means.sound {values : List Value} {s : Option String} (means : Means values s)
    : values.length ≤ 1 ∧ ∀ v ∈ values, IsOption v := by
  cases means with
  | missing => exact ⟨Nat.zero_le _, nofun⟩
  | told =>
      refine ⟨Nat.le_refl _, ?_⟩
      intro v isIn
      exact ⟨s, List.mem_singleton.mp isIn⟩

/-- The same of members that are alike. -/
theorem Gives.not_misstates {fields fields' : List (String × Value)} {r : Response}
    (gives : Gives fields' r) (alike : List.Forall₂ Alike fields fields')
    : ¬ Misstates fields := by
  have sound : ∀ {name}, Known name →
      (valuesOf name fields).length ≤ 1 ∧ ∀ v ∈ valuesOf name fields, IsOption v := by
    intro name isKnown
    have told : ∃ s, Means (valuesOf name fields') s := by
      cases isKnown with
      | assignment => exact ⟨_, gives.assignment⟩
      | error => exact ⟨_, gives.error⟩
    obtain ⟨s, means⟩ := told
    obtain ⟨few, options⟩ := means.sound
    have values := forall₂_valuesOf alike name
    refine ⟨values.length_eq ▸ few, ?_⟩
    intro v isIn
    obtain ⟨index, short, rfl⟩ := List.getElem_of_mem isIn
    exact (values.get short (values.length_eq ▸ short)).mpr (options _ (List.getElem_mem _))
  rintro (⟨isKnown, many⟩ | ⟨isKnown, isValue, noOption⟩)
  · exact absurd many (Nat.not_lt.mpr (sound isKnown).1)
  · exact noOption ((sound isKnown).2 _ isValue)

/-- An object whose members make no sense is not read as an answer. -/
theorem exists_fault_of_misstates {fields : List (String × Value)} {body : Bytes}
    (isObject : IsObject (fun _ => Json.Spells Json.lax) fields body) (misstates : Misstates fields)
    : ∃ fault, decode body = .error fault := by
  cases decoded : decode body with
  | error fault => exact ⟨fault, rfl⟩
  | ok r =>
      exfalso
      obtain ⟨before, spelled, after⟩ := isObject
      have brace := (Json.gap_cons_iff (by decide)).mp before
      rcases decode_eq_ok_iff.mp decoded with
        ⟨⟨before', spelled', after'⟩, gives⟩ | ⟨⟨before', spelled', after'⟩, lists⟩
      · have brace' := (Json.gap_cons_iff (by decide)).mp before'
        cases brace.symm.trans brace'
        exact gives.not_misstates (spelled.alike spelled') misstates
      · cases spelled' with
        | array spelled' =>
            have bracket := (Json.gap_cons_iff (by decide)).mp before'
            cases brace.symm.trans bracket

-----------------------------------------------------------------------------------------
-- What is written
-----------------------------------------------------------------------------------------

/-- Members of known names with options behind them are those of an answer. -/
theorem fields_of_members : ∀ {first : Bool} {fields : List (String × Value)} {text rest : Bytes},
    (∀ field ∈ fields, Known field.1 ∧ IsOption field.2) →
      Json.Members Json.strict first fields text rest → Fields Telling first fields text rest
  | _, _, _, _, _, .done gap => .done gap
  | _, _, _, _, known, .member separation literal colon gap spelled others => by
      obtain ⟨⟨isKnown, s, isOption⟩, knownOthers⟩ := List.forall_mem_cons.mp known
      dsimp only at isKnown isOption
      subst isOption
      exact .field separation literal colon gap (.known isKnown spelled)
        (fields_of_members knownOthers others)

/-- What is written of an answer is an object with both parts. -/
theorem holds_encode (r : Response)
    : Holds Json.strict
        (.object [("assignment", optionJson r.assignment), ("error", optionJson r.error)])
        r.encode := by
  refine Json.holds_compact ?_
  obtain ⟨_ | assignment, _ | error⟩ := r <;> exact nofun

theorem written_encode (r : Response) : Written r r.encode := by
  obtain ⟨before, spelled, after⟩ := holds_encode r
  have apart : "assignment" ≠ "error" := by decide
  cases spelled with
  | object members =>
      refine .object (.whole before (fields_of_members ?_ members) after) ⟨?_, ?_⟩
      · intro field isIn
        rcases List.mem_cons.mp isIn with rfl | isIn
        · exact ⟨.assignment, _, rfl⟩
        · cases List.mem_singleton.mp isIn
          exact ⟨.error, _, rfl⟩
      · rw [valuesOf_cons_self, valuesOf_cons_of_ne apart.symm]
        exact .told
      · rw [valuesOf_cons_of_ne apart, valuesOf_cons_self]
        exact .told

/-- How an answer goes over the wire. -/
structure KeepsWireFormat (r : Response) : Prop where
  /-- An object that gives the answer is read as it: whatever the order of its members, the space
  between them, the spelling of names and texts and the members of other names.
  -/
  object : ∀ {fields body}, IsObject Telling fields body → Gives fields r → decode body = .ok r
  /-- An array of at most two items that lists the answer is read as it. -/
  array
    : ∀ {items body}, Holds Json.strict (.array items) body → Lists items r → decode body = .ok r
  /-- Nothing else is read as the answer. -/
  only : ∀ {body}, decode body = .ok r → Written r body
  /-- An object that says a part twice, or in the wrong type, is read as no answer at all. -/
  refused
    : ∀ {fields body},
        IsObject (fun _ => Json.Spells Json.lax) fields body
        → Misstates fields
        → ∃ fault, decode body = .error fault
  /-- What is written of the answer has both members, null or not. -/
  complete
    : Holds Json.strict
        (.object [("assignment", optionJson r.assignment), ("error", optionJson r.error)])
        r.encode
  /-- What is written of the answer is read as it. -/
  roundTrip : decode r.encode = .ok r

/-- Every answer keeps the format: any spelling of it is read back, and so is its own. -/
theorem keepsWireFormat (r : Response) : KeepsWireFormat r where
  object isObject gives := decode_eq_ok_iff.mpr (.object isObject gives)
  array holds lists := decode_eq_ok_iff.mpr (.array holds lists)
  only := decode_eq_ok_iff.mp
  refused := exists_fault_of_misstates
  complete := holds_encode r
  roundTrip := decode_eq_ok_iff.mpr (written_encode r)

end SatClient.Response
