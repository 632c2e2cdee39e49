import SatClient.Proofs.Yaml.Token.Value

/-! Reading groups of entries. Every line leads to the next one, and the blocks are closed and
opened as the lines are indented.
-/

namespace SatClient.Yaml

open TokenReader
open Gap (EndsGap)
open Relation (ReflTransGen)

/-- Groups of entries, each of them with a key. -/
abbrev Groups := List (String × List (String × String))

/-- A word that may be a key. -/
structure IsKey (key : String) : Prop where
  named : IsName key.toList
  short : key.toList.length ≤ maxKeyLength

instance (key : String) : Decidable (IsKey key) :=
  decidable_of_iff (IsName key.toList ∧ key.toList.length ≤ maxKeyLength)
    ⟨fun ⟨named, short⟩ => ⟨named, short⟩, fun ⟨named, short⟩ => ⟨named, short⟩⟩

def Groups.text (groups : Groups) : List Char :=
  groups.flatMap fun (key, pairs) => Written.group key pairs

/-- Groups with words as keys, none of which is without entries. -/
def Groups.AreKeyed (groups : Groups) : Prop :=
  ∀ group ∈ groups, IsKey group.1 ∧ group.2 ≠ [] ∧ ∀ entry ∈ group.2, IsKey entry.1

def entryTokens (entry : String × String) : List Token :=
  [.key, .scalar entry.1.toList .plain, .value,
    .scalar entry.2.toList (Written.style entry.2.toList)]

def groupTokens (group : String × List (String × String)) : List Token :=
  [.key, .scalar group.1.toList .plain, .value, .blockMappingStart]
    ++ group.2.flatMap entryTokens ++ [.blockEnd]

-----------------------------------------------------------------------------------------
-- Lines
-----------------------------------------------------------------------------------------

namespace TokenReader.Line

/-- A line that may follow an entry. -/
structure Follows (line : Line) : Prop where
  ends : EndsGap line.rest
  outside : line.column < 3

def entry (key value : String) (next : Line) : Line :=
  ⟨2, key.toList ++ ':' :: ' ' :: (Written.scalar value.toList ++ next.text)⟩

/-- The line of the first of some entries. -/
def entries (entries : List (String × String)) (next : Line) : Line :=
  entries.foldr (fun (key, value) next => entry key value next) next

def group (key : String) (pairs : List (String × String)) (next : Line) : Line :=
  ⟨0, key.toList ++ ':' :: '\n' :: (entries pairs next).text⟩

/-- The line of the first of some groups, or the end of the text. -/
def groups (groups : Groups) : Line :=
  groups.foldr (fun (key, pairs) next => group key pairs next) ⟨0, []⟩

theorem text_entry (key value : String) (next : Line)
    : (entry key value next).text = Written.entry key value ++ next.text := by
  simp [entry, Line.text, Written.entry, List.replicate_succ]

theorem text_entries (pairs : List (String × String)) (next : Line)
    : (entries pairs next).text
      = pairs.flatMap (fun (key, value) => Written.entry key value) ++ next.text := by
  induction pairs with
  | nil => rfl
  | cons pair pairs ih =>
      rw [List.flatMap_cons, List.append_assoc, ← ih, ← text_entry]
      rfl

theorem text_group (key : String) (pairs : List (String × String)) (next : Line)
    : (group key pairs next).text = Written.group key pairs ++ next.text := by
  simp only [group, Line.text, Written.group, List.append_assoc, List.cons_append]
  rw [← Line.text, text_entries]
  rfl

theorem text_groups (all : Groups)
    : (groups all).text = all.text := by
  induction all with
  | nil => rfl
  | cons first others ih =>
      rw [Groups.text, List.flatMap_cons, ← Groups.text, ← ih, ← text_group]
      rfl

theorem column_groups (all : Groups) : (groups all).column = 0 := by
  cases all <;> rfl

theorem rest_groups (all : Groups) : (groups all).rest = all.text := by
  have text := text_groups all
  rwa [Line.text, column_groups] at text

theorem follows_name {name : List Char} {column : Nat} (named : IsName name)
    (outside : column < 3) (tail : List Char)
    : Follows ⟨column, name ++ tail⟩ where
  ends c isHead := (startsToken_name named tail c isHead).1
  outside := outside

theorem follows_entries {pairs : List (String × String)} {next : Line}
    (keyed : ∀ pair ∈ pairs, IsKey pair.1) (follows : next.Follows)
    : (entries pairs next).Follows := by
  cases pairs with
  | nil => exact follows
  | cons pair pairs => exact follows_name (keyed pair List.mem_cons_self).named (by decide) _

theorem follows_groups {all : Groups} (keyed : all.AreKeyed) : (groups all).Follows := by
  cases all with
  | nil => exact ⟨EndsGap.nil, by decide⟩
  | cons first others =>
      exact follows_name (keyed first List.mem_cons_self).1.named (by decide) _

end TokenReader.Line

namespace TokenReader

/-- A reader leads to a line in some steps, and finds tokens on the way. -/
structure Leads (reader : TokenReader) (tokens : List Token) (line : Line) (blocks : List Nat)
    (last : TokenReader) : Prop where
  steps : ReflTransGen Step reader last
  atLine : last.AtLine line
  blocks : last.blocks = blocks
  found : last.found = reader.found ++ tokens

theorem Leads.refl {reader : TokenReader} {line : Line} (atLine : reader.AtLine line)
    : Leads reader [] line reader.blocks reader :=
  ⟨.refl, atLine, rfl, (List.append_nil _).symm⟩

theorem Leads.trans {reader middle last : TokenReader} {line next : Line}
    {tokens others : List Token} {blocks more : List Nat}
    (first : Leads reader tokens line blocks middle) (second : Leads middle others next more last)
    : Leads reader (tokens ++ others) next more last where
  steps := first.steps.trans second.steps
  atLine := second.atLine
  blocks := second.blocks
  found := by rw [second.found, first.found, List.append_assoc]

-----------------------------------------------------------------------------------------
-- Entries
-----------------------------------------------------------------------------------------

section Entries

variable {reader : TokenReader} {next : Line} {key value : String}

/-- An entry is read in three steps. -/
theorem AtLine.leads_entry (atLine : reader.AtLine (.entry key value next)) (isKey : IsKey key)
    (follows : next.Follows) {outer : List Nat}
    (isOpened : opened 2 (kept 2 reader.blocks) = 2 :: outer)
    : ∃ last,
        Leads reader
          (closing 2 reader.blocks ++ opening 2 (kept 2 reader.blocks) ++ entryTokens (key, value))
          next (2 :: outer) last := by
  obtain ⟨mark, tokens, inside, isTokens, steps⟩ := atLine.steps_key isKey.named isKey.short rfl
  obtain ⟨last, reads⟩ :=
    readsAs_scalar value.toList follows.ends follows.outside inside tokens outer
  rw [isOpened] at steps
  refine ⟨last, steps.tail reads.step, reads.atLine, reads.blocks, ?_⟩
  rw [reads.found]
  change tokens.reverse.map (·.token) ++ _ = _
  rw [isTokens]
  simp [entryTokens]

/-- The entries behind the first one of a group are read one by one. -/
theorem AtLine.leads_entries {pairs : List (String × String)}
    (atLine : reader.AtLine (.entries pairs next)) (keyed : ∀ pair ∈ pairs, IsKey pair.1)
    (follows : next.Follows) (inGroup : reader.blocks = [2, 0])
    : ∃ last, Leads reader (pairs.flatMap entryTokens) next [2, 0] last := by
  induction pairs generalizing reader with
  | nil => exact ⟨reader, inGroup ▸ Leads.refl atLine⟩
  | cons pair pairs ih =>
      rw [List.forall_mem_cons] at keyed
      have isOpened : opened 2 (kept 2 reader.blocks) = [2, 0] := by
        rw [inGroup]
        rfl
      obtain ⟨middle, first⟩ :=
        AtLine.leads_entry atLine keyed.1 (Line.follows_entries keyed.2 follows) isOpened
      obtain ⟨last, others⟩ := ih first.atLine keyed.2 first.blocks
      refine ⟨last, ?_⟩
      have both := first.trans others
      rw [inGroup] at both
      exact both

end Entries

-----------------------------------------------------------------------------------------
-- Groups
-----------------------------------------------------------------------------------------

section Groups

variable {reader : TokenReader} {next : Line}

/-- The key of a group leads to the first of its entries. -/
theorem AtLine.leads_groupKey {key : String} {pairs : List (String × String)}
    (atLine : reader.AtLine (.group key pairs next)) (isKey : IsKey key)
    (isOpened : opened 0 (kept 0 reader.blocks) = [0])
    : ∃ last,
        Leads reader
          (closing 0 reader.blocks ++ opening 0 (kept 0 reader.blocks)
            ++ [.key, .scalar key.toList .plain, .value])
          (.entries pairs next) [0] last := by
  obtain ⟨mark, tokens, inside, isTokens, steps⟩ := atLine.steps_key isKey.named isKey.short rfl
  refine ⟨_, steps, ⟨rfl, rfl, .inr rfl⟩, isOpened, ?_⟩
  change tokens.reverse.map (·.token) = _
  rw [isTokens]
  simp

/-- A group is read entry by entry. The block of its entries ends on the next line. -/
theorem AtLine.leads_group {group : String × List (String × String)}
    (atLine : reader.AtLine (.group group.1 group.2 next)) (isKey : IsKey group.1)
    (some : group.2 ≠ []) (keyed : ∀ pair ∈ group.2, IsKey pair.1) (follows : next.Follows)
    (isOpened : opened 0 (kept 0 reader.blocks) = [0])
    : ∃ last tokens,
        Leads reader tokens next [2, 0] last
        ∧ tokens ++ [.blockEnd]
          = closing 0 reader.blocks ++ opening 0 (kept 0 reader.blocks) ++ groupTokens group := by
  obtain ⟨key, pairs⟩ := group
  obtain ⟨pair, pairs, rfl⟩ := List.exists_cons_of_ne_nil some
  rw [List.forall_mem_cons] at keyed
  obtain ⟨first, leadsKey⟩ := atLine.leads_groupKey isKey isOpened
  have inGroup : opened 2 (kept 2 first.blocks) = [2, 0] := by
    rw [leadsKey.blocks]
    rfl
  obtain ⟨second, leadsPair⟩ :=
    AtLine.leads_entry leadsKey.atLine keyed.1 (Line.follows_entries keyed.2 follows) inGroup
  obtain ⟨last, leadsPairs⟩ := leadsPair.atLine.leads_entries keyed.2 follows leadsPair.blocks
  refine ⟨last, _, (leadsKey.trans leadsPair).trans leadsPairs, ?_⟩
  rw [leadsKey.blocks]
  simp [groupTokens, closing, opening, kept]

/-- All groups are read, up to the end of the text. -/
theorem AtLine.leads_groups {all : Groups} (atLine : reader.AtLine (.groups all))
    (keyed : all.AreKeyed) (behindGroup : reader.blocks = [2, 0])
    : ∃ last tokens,
        Leads reader tokens ⟨0, []⟩ [2, 0] last
        ∧ tokens ++ [.blockEnd] = .blockEnd :: all.flatMap groupTokens := by
  induction all generalizing reader with
  | nil => exact ⟨reader, [], behindGroup ▸ Leads.refl atLine, rfl⟩
  | cons group all ih =>
      obtain ⟨isGroup, keyedAll⟩ := List.forall_mem_cons.mp keyed
      have isOpened : opened 0 (kept 0 reader.blocks) = [0] := by
        rw [behindGroup]
        rfl
      obtain ⟨middle, tokens, first, isTokens⟩ :=
        AtLine.leads_group atLine isGroup.1 isGroup.2.1 isGroup.2.2 (Line.follows_groups keyedAll)
          isOpened
      obtain ⟨last, others, second, isOthers⟩ := ih first.atLine keyedAll first.blocks
      refine ⟨last, tokens ++ others, first.trans second, ?_⟩
      rw [List.append_assoc, isOthers, List.append_cons, isTokens, behindGroup]
      simp [closing, opening, kept]

end Groups

/-- The end of a text closes the blocks that are left open. -/
theorem AtLine.readNext_end {reader : TokenReader} (atLine : reader.AtLine ⟨0, []⟩)
    (inGroup : reader.blocks = [2, 0])
    : ∃ last,
        reader.readNext = .ok (last, true)
        ∧ last.expireAll = .ok last
        ∧ last.found = reader.found ++ [.blockEnd, .blockEnd, .streamEnd] := by
  obtain ⟨mark, tokens, isColumn, isTokens, reads⟩ := atLine.readNext_eq nofun
  have isColumn : mark.column = 0 := isColumn
  have ends
      : readEnd ⟨⟨[], mark⟩, tokens, [0], true, none, []⟩
        = .ok
            ⟨⟨[], mark⟩, ⟨.streamEnd, mark, mark⟩ :: ⟨.blockEnd, mark, mark⟩ :: tokens, [], false,
              none, []⟩ := by
    simp [readEnd, isColumn, closeBlocks, inFlow, dropKey, TokenReader.mark, bind, Except.bind,
      pure, Except.pure]
  have open_eq : kept 0 [2, 0] = [0] := rfl
  refine
    ⟨⟨⟨[], mark⟩, ⟨.streamEnd, mark, mark⟩ :: ⟨.blockEnd, mark, mark⟩ :: tokens, [], false, none,
        []⟩,
      ?_, rfl, ?_⟩
  · rw [reads, inGroup, open_eq]
    dsimp only [List.head?_nil]
    rw [ends]
    rfl
  · rw [inGroup] at isTokens
    simp only [found, List.reverse_cons, List.map_append, isTokens]
    simp [closing]

end TokenReader

-----------------------------------------------------------------------------------------
-- Texts
-----------------------------------------------------------------------------------------

def documentTokens (groups : Groups) : List Token :=
  .blockMappingStart :: groups.flatMap groupTokens ++ [.blockEnd, .streamEnd]

/-- Groups are read to the end without a fault. -/
theorem readFrom_groups {groups : Groups} (some : groups ≠ []) (keyed : groups.AreKeyed)
    : ∃ tokens,
        TokenStream.readFrom (groups.text.length + 1) 0 (.ofText groups.text) = ⟨tokens, none⟩
        ∧ tokens.map (·.token) = documentTokens groups := by
  have atLine : (TokenReader.ofText groups.text).AtLine (.groups groups) :=
    ⟨rfl, rfl, .inl ⟨(Line.rest_groups groups).symm, (Line.column_groups groups).symm, rfl⟩⟩
  obtain ⟨group, others, rfl⟩ := List.exists_cons_of_ne_nil some
  obtain ⟨isGroup, keyedOthers⟩ := List.forall_mem_cons.mp keyed
  obtain ⟨first, tokens, leadsFirst, isTokens⟩ :=
    AtLine.leads_group atLine isGroup.1 isGroup.2.1 isGroup.2.2 (Line.follows_groups keyedOthers)
      rfl
  obtain ⟨second, more, leadsOthers, isMore⟩ :=
    leadsFirst.atLine.leads_groups keyedOthers leadsFirst.blocks
  have leads := leadsFirst.trans leadsOthers
  obtain ⟨last, reads, fresh, isLast⟩ := leads.atLine.readNext_end leads.blocks
  refine ⟨last.tokens.reverse, ?_, ?_⟩
  · exact readFrom_of_steps leads.steps leads.atLine.expireAll_eq reads fresh (Nat.lt_succ_self _) 0
  · have atStart : (TokenReader.ofText (Groups.text (group :: others))).found = [] := rfl
    have isTokens : tokens ++ [.blockEnd] = .blockMappingStart :: groupTokens group := isTokens
    rw [← found, isLast, leads.found, atStart, List.nil_append]
    calc
      tokens ++ more ++ [.blockEnd, .blockEnd, .streamEnd]
        = tokens ++ (more ++ [.blockEnd]) ++ [.blockEnd, .streamEnd] := by simp
      _ = tokens ++ [.blockEnd] ++ others.flatMap groupTokens ++ [.blockEnd, .streamEnd] := by
          rw [isMore]
          simp
      _ = documentTokens (group :: others) := by
          rw [isTokens]
          simp [documentTokens]

theorem controlOffset?_eq_none {text : List Char} (all : ∀ c ∈ text, isAllowed c = true)
    (offset : Nat)
    : TokenStream.controlOffset? offset text = none := by
  induction text generalizing offset with
  | nil => rfl
  | cons c text ih =>
      rw [List.forall_mem_cons] at all
      rw [TokenStream.controlOffset?, if_pos all.1]
      exact ih all.2 _

theorem IsKey.isAllowed {key : String} (isKey : IsKey key)
    : ∀ c ∈ key.toList, isAllowed c = true :=
  fun c member => isAllowed_of_isNameChar (isKey.named.all c member)

theorem isAllowed_of_mem_entry {key : String} (isKey : IsKey key) (value : String)
    : ∀ c ∈ Written.entry key value, isAllowed c = true := by
  simp only [Written.entry, List.cons_append, List.forall_mem_cons, List.forall_mem_append]
  exact ⟨rfl, rfl, isKey.isAllowed, rfl, rfl, Written.isAllowed_of_mem_scalar value.toList⟩

/-- Everything in groups may stand in a text. -/
theorem isAllowed_of_mem_groups {groups : Groups} (keyed : groups.AreKeyed)
    : ∀ c ∈ groups.text, isAllowed c = true := by
  intro c member
  obtain ⟨group, isGroup, member⟩ := List.mem_flatMap.mp member
  obtain ⟨isKey, -, keyedPairs⟩ := keyed group isGroup
  rcases List.mem_append.mp member with inKey | member
  · exact isKey.isAllowed c inKey
  · simp only [List.mem_cons] at member
    rcases member with rfl | rfl | member
    · rfl
    · rfl
    · obtain ⟨pair, isPair, member⟩ := List.mem_flatMap.mp member
      exact isAllowed_of_mem_entry (keyedPairs pair isPair) pair.2 c member

/-- The tokens of groups as they are written. -/
theorem TokenStream.ofText_groups {groups : Groups} (some : groups ≠ []) (keyed : groups.AreKeyed)
    : ∃ tokens,
        TokenStream.ofText groups.text = ⟨tokens, none⟩
        ∧ tokens.map (·.token) = documentTokens groups := by
  rw [TokenStream.ofText, controlOffset?_eq_none (isAllowed_of_mem_groups keyed)]
  exact readFrom_groups some keyed

end SatClient.Yaml
