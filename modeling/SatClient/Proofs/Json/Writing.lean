import SatClient.Proofs.Json.Reading

/-! Writing a JSON value without any space. What is written spells the value, so that it is read
back as it was, unless there are floating-point numbers in it: their text may be that of a
neighbour.
-/

namespace SatClient.Json

open Utf8 (Bytes)

namespace Value

/-- Every number in the value is a whole one that fits into 64 bits. -/
def IsWhole (v : Value) : Prop := ∀ n ∈ v.numbers, n.IsWhole

end Value

-----------------------------------------------------------------------------------------
-- What is written
-----------------------------------------------------------------------------------------

/-- A written literal after its first quote. -/
theorem encode_literal_append (s : String) (text : List Char) (rest : Bytes)
    : Utf8.encode (literal s.toList ++ text) ++ rest
      = byte '"' :: (Utf8.encode (s.toList.flatMap escapedChar)
          ++ byte '"' :: (Utf8.encode text ++ rest)) := by
  have quote : Utf8.encodeChar '"' = [byte '"'] := by decide
  simp only [literal, List.cons_append, List.append_assoc, List.nil_append, Utf8.encode_cons,
    Utf8.encode_append, quote]

theorem endsNumber_compactItems (items : List Value) (rest : Bytes)
    : EndsNumber (Utf8.encode (Value.compactItems items) ++ rest) := by
  cases items with
  | nil => exact ⟨by decide, by decide, by decide, by decide⟩
  | cons item items => exact ⟨by decide, by decide, by decide, by decide⟩

theorem endsNumber_compactMembers (members : List (String × Value)) (rest : Bytes)
    : EndsNumber (Utf8.encode (Value.compactMembers members) ++ rest) := by
  cases members with
  | nil => exact ⟨by decide, by decide, by decide, by decide⟩
  | cons member members => exact ⟨by decide, by decide, by decide, by decide⟩

theorem encode_cons_append (c : Char) (ascii : Utf8.encodeChar c = [byte c])
    (first second : List Char) (rest : Bytes)
    : Utf8.encode (c :: (first ++ second)) ++ rest
      = byte c :: (Utf8.encode first ++ (Utf8.encode second ++ rest)) := by
  rw [Utf8.encode_cons, ascii, Utf8.encode_append, List.singleton_append, List.cons_append,
    List.append_assoc]

/-- A written member and what is written after it. -/
theorem encode_member_append (name : String) (first second : List Char) (rest : Bytes)
    : Utf8.encode (literal name.toList ++ ':' :: (first ++ second)) ++ rest
      = byte '"' :: (Utf8.encode (name.toList.flatMap escapedChar)
          ++ byte '"' :: byte ':' :: (Utf8.encode first ++ (Utf8.encode second ++ rest))) := by
  rw [encode_literal_append, encode_cons_append ':' (by decide)]

mutual
/-- A value without floating-point numbers is spelled by what is written of it. -/
theorem spells_compact : ∀ {v : Value} {rest : Bytes}, v.IsWhole → EndsNumber rest →
    Spells strict v (Utf8.encode v.compact ++ rest) rest
  | .null, _, _, _ => .null
  | .bool true, _, _, _ => .true
  | .bool false, _, _, _ => .false
  | .number n, _, isWhole, ends => .number ((isWhole n (List.mem_singleton.mpr rfl)).numeral ends)
  | .string s, rest, _, _ => by
      have written := encode_literal_append s [] rest
      rw [List.append_nil] at written
      rw [Value.compact, written]
      exact .string (literal_written s.toList rest)
  | .array [], _, _, _ => .array (.done .none)
  | .array (item :: items), rest, isWhole, _ => by
      obtain ⟨isWhole, areWhole⟩ := List.forall_mem_append.mp isWhole
      rw [Value.compact, encode_cons_append '[' (by decide)]
      exact .array (.item (.first .none)
        (spells_compact isWhole (endsNumber_compactItems items rest)) (items_compact areWhole))
  | .object [], _, _, _ => .object (.done .none)
  | .object ((name, member) :: members), rest, isWhole, _ => by
      obtain ⟨isWhole, areWhole⟩ := List.forall_mem_append.mp isWhole
      rw [Value.compact, Utf8.encode_cons, List.append_assoc, encode_member_append]
      exact .object (.member (.first .none) (literal_written name.toList _) .none .none
        (spells_compact isWhole (endsNumber_compactMembers members rest))
        (members_compact areWhole))

theorem items_compact : ∀ {items : List Value} {rest : Bytes},
    (∀ n ∈ Value.numbersOfItems items, n.IsWhole) →
      Items strict false items (Utf8.encode (Value.compactItems items) ++ rest) rest
  | [], _, _ => .done .none
  | item :: items, rest, areWhole => by
      obtain ⟨isWhole, areWhole⟩ := List.forall_mem_append.mp areWhole
      rw [Value.compactItems, encode_cons_append ',' (by decide)]
      exact .item (.comma .none .none)
        (spells_compact isWhole (endsNumber_compactItems items rest)) (items_compact areWhole)

theorem members_compact : ∀ {members : List (String × Value)} {rest : Bytes},
    (∀ n ∈ Value.numbersOfMembers members, n.IsWhole) →
      Members strict false members (Utf8.encode (Value.compactMembers members) ++ rest) rest
  | [], _, _ => .done .none
  | (name, member) :: members, rest, areWhole => by
      obtain ⟨isWhole, areWhole⟩ := List.forall_mem_append.mp areWhole
      rw [Value.compactMembers, Utf8.encode_cons, List.append_assoc, encode_member_append]
      exact .member (.comma .none .none) (literal_written name.toList _) .none .none
        (spells_compact isWhole (endsNumber_compactMembers members rest))
        (members_compact areWhole)
end

/-- What is written of a value is a text that holds it. -/
theorem holds_compact {v : Value} (isWhole : v.IsWhole)
    : Holds strict v (Utf8.encode v.compact) := by
  have spelled : Spells strict v (Utf8.encode v.compact ++ []) [] := spells_compact isWhole trivial
  rw [List.append_nil] at spelled
  exact .whole .none spelled .none

/-- A value that is settled is read back from what is written of it. -/
theorem parse_compact {v : Value} (isWhole : v.IsWhole) (fits : v.nesting ≤ maxNesting)
    (isSettled : v.settled = v)
    : parse (Utf8.encode v.compact) = .ok v :=
  parse_eq_ok_iff.mpr ⟨v, holds_compact isWhole, fits, isSettled⟩

-----------------------------------------------------------------------------------------
-- What was read
-----------------------------------------------------------------------------------------

/-- No number in the value is a floating-point number. -/
def Value.HasNoFloat (v : Value) : Prop := ∀ x, Number.float x ∉ v.numbers

mutual
/-- A number that was read is a whole one or a floating-point number. -/
theorem Spells.number_cases : ∀ {v : Value} {text rest : Bytes} {n : Number},
    Spells strict v text rest → n ∈ v.numbers → n.IsWhole ∨ ∃ x, n = .float x
  | _, _, _, _, .null, isIn => nomatch isIn
  | _, _, _, _, .true, isIn => nomatch isIn
  | _, _, _, _, .false, isIn => nomatch isIn
  | _, _, _, _, .string _, isIn => nomatch isIn
  | _, _, _, _, .number numeral, isIn => List.mem_singleton.mp isIn ▸ numeral.cases
  | _, _, _, _, .array spelled, isIn => spelled.number_cases isIn
  | _, _, _, _, .object spelled, isIn => spelled.number_cases isIn

theorem Items.number_cases : ∀ {first : Bool} {items : List Value} {text rest : Bytes}
    {n : Number}, Items strict first items text rest → n ∈ Value.numbersOfItems items →
      n.IsWhole ∨ ∃ x, n = .float x
  | _, _, _, _, _, .done _, isIn => nomatch isIn
  | _, _, _, _, _, .item _ spelled others, isIn =>
      (List.mem_append.mp isIn).elim spelled.number_cases others.number_cases

theorem Members.number_cases : ∀ {first : Bool} {members : List (String × Value)}
    {text rest : Bytes} {n : Number}, Members strict first members text rest →
      n ∈ Value.numbersOfMembers members → n.IsWhole ∨ ∃ x, n = .float x
  | _, _, _, _, _, .done _, isIn => nomatch isIn
  | _, _, _, _, _, .member _ _ _ _ spelled others, isIn =>
      (List.mem_append.mp isIn).elim spelled.number_cases others.number_cases
end

end SatClient.Json
