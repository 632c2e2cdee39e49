import SatClient.Proofs.Json.Writing

/-! Writing a JSON value over several lines. The lines and their margins are gaps between the parts
of the value, so that it is spelled as it is without any space, and read back just as well.
-/

namespace SatClient.Json

open Utf8 (Bytes)

-----------------------------------------------------------------------------------------
-- Lines and margins
-----------------------------------------------------------------------------------------

/-- The start of a line is nothing but space. -/
theorem gap_newline (level : Nat) (rest : Bytes)
    : Gap (Utf8.encode (Value.newline level) ++ rest) rest := by
  have margin (n : Nat) : Gap (Utf8.encode (List.replicate n ' ') ++ rest) rest := by
    induction n with
    | zero => exact .none
    | succ n ih => exact .space rfl ih
  exact .space rfl (margin (2 * level))

/-- The end of a list or an object on a line of its own. -/
theorem gap_ending (level : Nat) {c : Char} (ascii : Utf8.encodeChar c = [byte c]) (rest : Bytes)
    : Gap (Utf8.encode (Value.newline level ++ [c]) ++ rest) (byte c :: rest) := by
  rw [Utf8.encode_append, List.append_assoc, Utf8.encode_cons, ascii]
  exact gap_newline level (byte c :: rest)

theorem endsNumber_prettyItems (level : Nat) (items : List Value) (rest : Bytes)
    : EndsNumber (Utf8.encode (Value.prettyItems level items) ++ rest) := by
  cases items with
  | nil => exact ⟨by decide, by decide, by decide, by decide⟩
  | cons item items => exact ⟨by decide, by decide, by decide, by decide⟩

theorem endsNumber_prettyMembers (level : Nat) (members : List (String × Value)) (rest : Bytes)
    : EndsNumber (Utf8.encode (Value.prettyMembers level members) ++ rest) := by
  cases members with
  | nil => exact ⟨by decide, by decide, by decide, by decide⟩
  | cons member members => exact ⟨by decide, by decide, by decide, by decide⟩

/-- A written item on a line of its own, after a bracket or a comma. -/
theorem encode_item_line (c : Char) (ascii : Utf8.encodeChar c = [byte c])
    (line item others : List Char) (rest : Bytes)
    : Utf8.encode (c :: (line ++ item ++ others)) ++ rest
      = byte c :: (Utf8.encode line ++ (Utf8.encode item ++ (Utf8.encode others ++ rest))) := by
  rw [encode_cons_append c ascii, Utf8.encode_append, List.append_assoc]

/-- A written member on a line of its own, after a brace or a comma. -/
theorem encode_member_line (c : Char) (ascii : Utf8.encodeChar c = [byte c])
    (line : List Char) (name : String) (member others : List Char) (rest : Bytes)
    : Utf8.encode (c :: (line ++ literal name.toList ++ ':' :: ' ' :: (member ++ others))) ++ rest
      = byte c :: (Utf8.encode line
          ++ byte '"' :: (Utf8.encode (name.toList.flatMap escapedChar)
            ++ byte '"' :: byte ':' :: byte ' ' :: (Utf8.encode member
              ++ (Utf8.encode others ++ rest)))) := by
  have blank : Utf8.encode (' ' :: member) = byte ' ' :: Utf8.encode member := rfl
  rw [List.append_assoc, encode_cons_append c ascii, ← List.cons_append (a := ' '),
    encode_member_append, blank, List.cons_append]

-----------------------------------------------------------------------------------------
-- What is written
-----------------------------------------------------------------------------------------

mutual
/-- A value without floating-point numbers is spelled by its lines, at whatever level. -/
theorem spells_pretty : ∀ (level : Nat) {v : Value} {rest : Bytes}, v.IsWhole → EndsNumber rest →
    Spells strict v (Utf8.encode (v.pretty level) ++ rest) rest
  | _, .null, _, isWhole, ends => @spells_compact .null _ isWhole ends
  | _, .bool true, _, isWhole, ends => @spells_compact (.bool true) _ isWhole ends
  | _, .bool false, _, isWhole, ends => @spells_compact (.bool false) _ isWhole ends
  | _, .number n, _, isWhole, ends => @spells_compact (.number n) _ isWhole ends
  | _, .string s, _, isWhole, ends => @spells_compact (.string s) _ isWhole ends
  | _, .array [], _, isWhole, ends => @spells_compact (.array []) _ isWhole ends
  | level, .array (item :: items), rest, isWhole, _ => by
      obtain ⟨isWhole, areWhole⟩ := List.forall_mem_append.mp isWhole
      rw [Value.pretty, encode_item_line '[' (by decide)]
      exact .array (.item (.first (gap_newline ..))
        (spells_pretty (level + 1) isWhole (endsNumber_prettyItems level items rest))
        (items_pretty level areWhole))
  | _, .object [], _, isWhole, ends => @spells_compact (.object []) _ isWhole ends
  | level, .object ((name, member) :: members), rest, isWhole, _ => by
      obtain ⟨isWhole, areWhole⟩ := List.forall_mem_append.mp isWhole
      rw [Value.pretty, encode_member_line '\x7b' (by decide)]
      exact .object (.member (.first (gap_newline ..)) (literal_written name.toList _) .none
        (.space rfl .none)
        (spells_pretty (level + 1) isWhole (endsNumber_prettyMembers level members rest))
        (members_pretty level areWhole))

theorem items_pretty : ∀ (level : Nat) {items : List Value} {rest : Bytes},
    (∀ n ∈ Value.numbersOfItems items, n.IsWhole) →
      Items strict false items (Utf8.encode (Value.prettyItems level items) ++ rest) rest
  | level, [], rest, _ => .done (gap_ending level (by decide) rest)
  | level, item :: items, rest, areWhole => by
      obtain ⟨isWhole, areWhole⟩ := List.forall_mem_append.mp areWhole
      rw [Value.prettyItems, encode_item_line ',' (by decide)]
      exact .item (.comma .none (gap_newline ..))
        (spells_pretty (level + 1) isWhole (endsNumber_prettyItems level items rest))
        (items_pretty level areWhole)

theorem members_pretty : ∀ (level : Nat) {members : List (String × Value)} {rest : Bytes},
    (∀ n ∈ Value.numbersOfMembers members, n.IsWhole) →
      Members strict false members (Utf8.encode (Value.prettyMembers level members) ++ rest) rest
  | level, [], rest, _ => .done (gap_ending level (by decide) rest)
  | level, (name, member) :: members, rest, areWhole => by
      obtain ⟨isWhole, areWhole⟩ := List.forall_mem_append.mp areWhole
      rw [Value.prettyMembers, encode_member_line ',' (by decide)]
      exact .member (.comma .none (gap_newline ..)) (literal_written name.toList _) .none
        (.space rfl .none)
        (spells_pretty (level + 1) isWhole (endsNumber_prettyMembers level members rest))
        (members_pretty level areWhole)
end

/-- A value without floating-point numbers is read back from its lines, settled. -/
theorem parse_renderPretty {v : Value} (isWhole : v.IsWhole) (fits : v.nesting ≤ maxNesting)
    : parse (Utf8.ofString v.renderPretty) = .ok v.settled := by
  have spelled : Spells strict v (Utf8.encode (v.pretty 0) ++ []) [] :=
    spells_pretty 0 isWhole trivial
  rw [List.append_nil] at spelled
  rw [Value.renderPretty, Utf8.ofString, String.toList_ofList]
  exact parse_eq_ok_iff.mpr ⟨v, .whole .none spelled .none, fits, rfl⟩

end SatClient.Json
