import Mathlib.Logic.ExistsUnique
import SatClient.Formula.Lexer

/-! Tokens laid out as text. A layout chooses the tokens and the blanks before, between and
after them; only two variables in a row need a gap between them. Reading tokens undoes every
layout, and each text that can be read has exactly one.
-/

namespace SatClient

open Text Lexer

-----------------------------------------------------------------------------------------
-- Layouts
-----------------------------------------------------------------------------------------

/-- A token with the blanks in front of it. -/
structure Piece where
  gap : List Char
  token : Token

def Piece.text (piece : Piece) : List Char := piece.gap ++ piece.token.text.toList

/-- Tokens with gaps in front, and the gap at the end. -/
structure Layout where
  pieces : List Piece
  ending : List Char

/-- Variables are named as variables can be. -/
def Token.WellNamed : Token → Prop
  | .atom name => IsAtomName name.toList
  | _ => True

/-- Variables, as opposed to all other tokens. -/
def Token.IsAtom (token : Token) : Prop := ∃ name, token = .atom name

theorem Token.wellNamed_of_not_isAtom {token : Token} (noAtom : ¬ token.IsAtom)
    : token.WellNamed := by
  cases token with
  | atom name => exact absurd ⟨name, rfl⟩ noAtom
  | _ => trivial

/-- Between two variables in a row there is a gap. -/
def Separated : List Piece → Prop
  | first :: second :: rest =>
      (first.token.IsAtom → second.token.IsAtom → second.gap ≠ []) ∧ Separated (second :: rest)
  | _ => True

/-- The pieces of a text that can be read: gaps are blank, variables well named and kept
apart.
-/
structure ValidPieces (pieces : List Piece) : Prop where
  blank : ∀ piece ∈ pieces, allBlank piece.gap = true
  named : ∀ piece ∈ pieces, piece.token.WellNamed
  separated : Separated pieces

def placedFrom (offset : Nat) : List Piece → List PlacedToken
  | [] => []
  | piece :: rest =>
      ⟨piece.token, offset + width piece.gap⟩ :: placedFrom (offset + width piece.text) rest

namespace Layout

def text (layout : Layout) : List Char := layout.pieces.flatMap Piece.text ++ layout.ending

/-- The tokens of a layout, each at the byte offset where its text starts. -/
def placed (layout : Layout) : List PlacedToken := placedFrom 0 layout.pieces

/-- A layout that can be read. -/
structure Valid (layout : Layout) : Prop where
  pieces : ValidPieces layout.pieces
  ending : allBlank layout.ending = true

end Layout

theorem ValidPieces.nil : ValidPieces [] := ⟨by simp, by simp, trivial⟩

theorem ValidPieces.tail {piece : Piece} {rest : List Piece} (valid : ValidPieces (piece :: rest))
    : ValidPieces rest where
  blank := fun other member => valid.blank other (List.mem_cons_of_mem piece member)
  named := fun other member => valid.named other (List.mem_cons_of_mem piece member)
  separated := by
    cases rest with
    | nil => trivial
    | cons second rest => exact valid.separated.2

/-- One more piece in front is valid when it is and when it stays apart from the next one. -/
theorem ValidPieces.cons {piece : Piece} {rest : List Piece} (valid : ValidPieces rest)
    (blank : allBlank piece.gap = true) (named : piece.token.WellNamed)
    (apart : ∀ second ∈ rest.head?,
      piece.token.IsAtom → second.token.IsAtom → second.gap ≠ [])
    : ValidPieces (piece :: rest) where
  blank := by
    intro other member
    rcases List.mem_cons.mp member with rfl | member
    · exact blank
    · exact valid.blank other member
  named := by
    intro other member
    rcases List.mem_cons.mp member with rfl | member
    · exact named
    · exact valid.named other member
  separated := by
    cases rest with
    | nil => trivial
    | cons second rest => exact ⟨apart second rfl, valid.separated⟩

-----------------------------------------------------------------------------------------
-- Deciding whether a layout can be read
-----------------------------------------------------------------------------------------

instance (token : Token) : Decidable token.WellNamed :=
  match token with
  | .atom name => inferInstanceAs (Decidable (Token.IsAtomName name.toList))
  | .truth | .falsity | .negation | .conjunction | .disjunction | .implication | .equivalence
  | .openParen | .closeParen => isTrue trivial

instance (token : Token) : Decidable token.IsAtom :=
  match token with
  | .atom name => isTrue ⟨name, rfl⟩
  | .truth | .falsity | .negation | .conjunction | .disjunction | .implication | .equivalence
  | .openParen | .closeParen => isFalse nofun

instance instDecidableSeparated : (pieces : List Piece) → Decidable (Separated pieces)
  | [] => isTrue trivial
  | [_] => isTrue trivial
  | _ :: second :: rest =>
      have := instDecidableSeparated (second :: rest)
      inferInstanceAs (Decidable (_ ∧ _))

instance (pieces : List Piece) : Decidable (ValidPieces pieces) :=
  decidable_of_iff
    ((∀ piece ∈ pieces, allBlank piece.gap = true) ∧ (∀ piece ∈ pieces, piece.token.WellNamed)
      ∧ Separated pieces)
    ⟨fun ⟨blank, named, separated⟩ => ⟨blank, named, separated⟩,
      fun ⟨blank, named, separated⟩ => ⟨blank, named, separated⟩⟩

instance (layout : Layout) : Decidable layout.Valid :=
  decidable_of_iff (ValidPieces layout.pieces ∧ allBlank layout.ending = true)
    ⟨fun ⟨pieces, ending⟩ => ⟨pieces, ending⟩, fun ⟨pieces, ending⟩ => ⟨pieces, ending⟩⟩

-----------------------------------------------------------------------------------------
-- One token
-----------------------------------------------------------------------------------------

theorem Token.bounds_of_isAtomStart {c : Char} (start : isAtomStart c = true)
    : 97 ≤ c.toNat ∧ c.toNat ≤ 122 := by
  have bounds : (decide ('a'.val ≤ c.val) && decide (c.val ≤ 'z'.val)) = true := start
  simp only [Bool.and_eq_true, decide_eq_true_eq, UInt32.le_iff_toNat_le, Char.toNat_val] at bounds
  exact bounds

theorem Token.bounds_of_isAtomChar {c : Char} (continues : isAtomChar c = true)
    : (97 ≤ c.toNat ∧ c.toNat ≤ 122) ∨ (48 ≤ c.toNat ∧ c.toNat ≤ 57) ∨ c.toNat = 95 := by
  simp only [isAtomChar, Bool.or_eq_true, beq_iff_eq] at continues
  rcases continues with (lower | digit) | rfl
  · exact .inl (bounds_of_isAtomStart lower)
  · simp only [Char.isDigit, ge_iff_le, Bool.and_eq_true, decide_eq_true_eq,
      UInt32.le_iff_toNat_le, Char.toNat_val] at digit
    exact .inr (.inl digit)
  · exact .inr (.inr rfl)

theorem isAtomChar_of_isBlank {c : Char} (blank : isBlank c = true)
    : Token.isAtomChar c = false := by
  rw [Bool.eq_false_iff]
  intro continues
  have bounds := Token.bounds_of_isAtomChar continues
  simp only [isBlank, Bool.or_eq_true, Bool.and_eq_true, decide_eq_true_eq, beq_iff_eq] at blank
  omega

theorem isBlank_of_isAtomStart {c : Char} (start : Token.isAtomStart c = true)
    : isBlank c = false := by
  rw [Bool.eq_false_iff]
  intro blank
  have other := isAtomChar_of_isBlank blank
  rw [Token.isAtomChar_of_isAtomStart start] at other
  cases other

/-- Text in front of which a variable ends. -/
def EndsAtom (rest : List Char) : Prop := ∀ c ∈ rest.head?, Token.isAtomChar c = false

/-- A variable takes all characters that continue it. -/
theorem lexeme_of_isAtomStart {c : Char} (offset : Nat) (rest : List Char)
    (start : Token.isAtomStart c = true)
    : lexeme offset c rest
      = .token offset (.atom (String.ofList (c :: rest.takeWhile Token.isAtomChar)))
          (c :: rest.takeWhile Token.isAtomChar) (rest.dropWhile Token.isAtomChar) := by
  unfold lexeme
  split
  case h_10 => simp [start, atomTail]
  all_goals exact absurd start (by decide)

theorem endsAtom_dropWhile (rest : List Char) : EndsAtom (rest.dropWhile Token.isAtomChar) := by
  intro c first
  have stop := List.head?_dropWhile_not Token.isAtomChar rest
  rw [Option.mem_def.mp first] at stop
  exact stop

/-- A run of characters that continue a variable is taken whole where it ends. -/
theorem takeWhile_append_of_endsAtom {tail rest : List Char}
    (continues : tail.all Token.isAtomChar = true) (ends : EndsAtom rest)
    : (tail ++ rest).takeWhile Token.isAtomChar = tail
      ∧ (tail ++ rest).dropWhile Token.isAtomChar = rest := by
  rw [List.all_eq_true] at continues
  rw [List.takeWhile_append_of_pos continues, List.dropWhile_append_of_pos continues]
  cases rest with
  | nil => simp
  | cons c rest =>
      have stop := ends c rfl
      simp [stop]

/-- The text of a token starts with a character that is not blank, and is read back as that
token, unless a variable would go on behind it.
-/
theorem Token.WellNamed.lexeme_text {token : Token} (named : token.WellNamed)
    : ∃ c tail, token.text.toList = c :: tail
        ∧ isBlank c = false
        ∧ (¬ token.IsAtom → Token.isAtomChar c = false)
        ∧ ∀ offset rest,
            (token.IsAtom → EndsAtom rest)
            → lexeme offset c (tail ++ rest) = .token offset token (c :: tail) rest := by
  cases token with
  | atom name =>
      obtain ⟨c, tail, same, start, continues⟩ := named
      refine ⟨c, tail, same, isBlank_of_isAtomStart start, fun other => ?_, ?_⟩
      · exact absurd ⟨name, rfl⟩ other
      · intro offset rest ends
        obtain ⟨taken, left⟩ := takeWhile_append_of_endsAtom continues (ends ⟨name, rfl⟩)
        rw [lexeme_of_isAtomStart offset (tail ++ rest) start, taken, left, ← same,
          String.ofList_toList]
  | _ => exact ⟨_, _, rfl, by decide, fun _ => by decide, fun _ _ _ => rfl⟩

/-- A lexeme that holds a token took the text of that token. A variable is well named, and ends
in front of what is left.
-/
def Lexer.Lexeme.Faithful (offset : Nat) (found : Lexeme) : Prop :=
  ∀ {next}, found.item = .ok next
    → next.offset = offset
      ∧ next.token.WellNamed
      ∧ next.token.text.toList = found.text
      ∧ (next.token.IsAtom → EndsAtom found.rest)

theorem Lexer.Lexeme.faithful_token {offset : Nat} {token : Token} {text rest : List Char}
    (noAtom : ¬ token.IsAtom) (written : token.text.toList = text)
    : (Lexeme.token offset token text rest).Faithful offset := by
  intro next found
  cases found
  exact ⟨rfl, Token.wellNamed_of_not_isAtom noAtom, written, fun isAtom => absurd isAtom noAtom⟩

theorem Lexer.Lexeme.faithful_error {offset : Nat} {fault : SyntaxError} {text rest : List Char}
    : Faithful offset ⟨.error fault, text, rest⟩ := by
  intro next found
  cases found

/-- Every lexeme is faithful to the text that it takes, by cases on its first character. -/
theorem faithful_lexeme (offset : Nat) (c : Char) (rest : List Char)
    : (lexeme offset c rest).Faithful offset := by
  unfold lexeme
  split
  case h_8 =>
    unfold hyphen
    split
    · exact Lexeme.faithful_token (by simp [Token.IsAtom]) rfl
    · exact Lexeme.faithful_error
  case h_9 =>
    unfold angle
    split
    · exact Lexeme.faithful_token (by simp [Token.IsAtom]) rfl
    · exact Lexeme.faithful_error
    · exact Lexeme.faithful_error
  case h_10 =>
    split
    next start =>
      intro next found
      cases found
      exact ⟨rfl, ⟨c, _, String.toList_ofList, start, List.all_takeWhile⟩,
        String.toList_ofList, fun _ => endsAtom_dropWhile rest⟩
    · split
      · exact Lexeme.faithful_error
      · exact Lexeme.faithful_error
  all_goals exact Lexeme.faithful_token (by simp [Token.IsAtom]) rfl

-----------------------------------------------------------------------------------------
-- From a layout to its tokens
-----------------------------------------------------------------------------------------

theorem itemsFrom_blank_append {gap : List Char} (offset : Nat) (blank : allBlank gap = true)
    (rest : List Char)
    : itemsFrom offset (gap ++ rest) = itemsFrom (offset + width gap) rest := by
  induction gap generalizing offset with
  | nil => rfl
  | cons c gap ih =>
      simp only [allBlank, List.all_cons, Bool.and_eq_true] at blank
      rw [List.cons_append, itemsFrom, if_pos blank.1, ih _ blank.2, width_cons, Nat.add_assoc]

/-- A token is read off the front of a text, unless a variable would go on. -/
theorem itemsFrom_token_append {token : Token} (offset : Nat) (named : token.WellNamed)
    {rest : List Char} (ends : token.IsAtom → EndsAtom rest)
    : itemsFrom offset (token.text.toList ++ rest)
      = .ok ⟨token, offset⟩ :: itemsFrom (offset + width token.text.toList) rest := by
  obtain ⟨c, tail, same, noBlank, _, read⟩ := named.lexeme_text
  rw [same, List.cons_append, itemsFrom, if_neg (by simp [noBlank]), read offset rest ends]
  rfl

theorem endsAtom_of_allBlank {gap : List Char} (blank : allBlank gap = true) : EndsAtom gap := by
  intro c first
  have member := List.mem_of_mem_head? first
  exact isAtomChar_of_isBlank (List.all_eq_true.mp blank c member)

/-- A variable ends in front of a gap, of the end of the text, and of every token but a
variable.
-/
theorem ValidPieces.endsAtom {pieces : List Piece} {ending : List Char}
    (valid : ValidPieces pieces) (blank : allBlank ending = true)
    (apart : ∀ second ∈ pieces.head?, second.token.IsAtom → second.gap ≠ [])
    : EndsAtom (pieces.flatMap Piece.text ++ ending) := by
  cases pieces with
  | nil => exact endsAtom_of_allBlank blank
  | cons piece rest =>
      have gapBlank := valid.blank piece List.mem_cons_self
      obtain ⟨c, tail, same, _, stop, _⟩ := (valid.named piece List.mem_cons_self).lexeme_text
      simp only [List.flatMap_cons, Piece.text, same]
      cases gap : piece.gap with
      | nil =>
          have noAtom : ¬ piece.token.IsAtom := fun isAtom => apart piece rfl isAtom gap
          intro first isFirst
          cases isFirst
          exact stop noAtom
      | cons d gap' =>
          intro first isFirst
          cases isFirst
          rw [gap] at gapBlank
          exact endsAtom_of_allBlank gapBlank d rfl

/-- A variable ends in front of all that stands behind it. -/
theorem ValidPieces.endsAtom_tail {piece : Piece} {rest : List Piece} {ending : List Char}
    (valid : ValidPieces (piece :: rest)) (blank : allBlank ending = true)
    (isAtom : piece.token.IsAtom)
    : EndsAtom (rest.flatMap Piece.text ++ ending) := by
  refine valid.tail.endsAtom blank fun second isSecond => ?_
  cases rest with
  | nil => cases isSecond
  | cons other rest =>
      cases isSecond
      exact valid.separated.1 isAtom

/-- The items of valid pieces are their tokens, by induction on the pieces. -/
theorem ValidPieces.itemsFrom {pieces : List Piece} {ending : List Char}
    (valid : ValidPieces pieces) (blank : allBlank ending = true) (offset : Nat)
    : itemsFrom offset (pieces.flatMap Piece.text ++ ending)
      = (placedFrom offset pieces).map .ok := by
  induction pieces generalizing offset with
  | nil =>
      have skipped := itemsFrom_blank_append offset blank []
      rw [List.append_nil] at skipped
      rw [List.flatMap_nil, List.nil_append, skipped, Lexer.itemsFrom]
      rfl
  | cons piece rest ih =>
      have gapBlank := valid.blank piece List.mem_cons_self
      have named := valid.named piece List.mem_cons_self
      simp only [List.flatMap_cons, Piece.text, List.append_assoc]
      rw [itemsFrom_blank_append offset gapBlank,
        itemsFrom_token_append _ named (valid.endsAtom_tail blank), ih valid.tail]
      simp only [placedFrom, Piece.text, width_append, Nat.add_assoc, List.map_cons]

theorem collect_map_ok (tokens : List PlacedToken)
    : collect (tokens.map .ok) = .ok tokens := by
  induction tokens with
  | nil => rfl
  | cons next rest ih =>
      rw [List.map_cons, collect, ih]
      rfl

/-- Reading the text of a valid layout gives its tokens back, each in its place. -/
theorem Layout.Valid.tokenize {layout : Layout} (valid : layout.Valid)
    : Lexer.tokenize layout.text = .ok layout.placed := by
  rw [Lexer.tokenize, items, Layout.text, valid.pieces.itemsFrom valid.ending, collect_map_ok]
  rfl

-----------------------------------------------------------------------------------------
-- From a text to its layout
-----------------------------------------------------------------------------------------

/-- One more blank in front belongs to the first gap, or to the ending if there is no token.
-/
theorem exists_layout_cons_blank {c : Char} {pieces : List Piece} {ending : List Char}
    (isBlank : isBlank c = true) (valid : ValidPieces pieces) (blank : allBlank ending = true)
    (offset : Nat)
    : ∃ pieces' ending',
        ValidPieces pieces'
        ∧ allBlank ending' = true
        ∧ c :: (pieces.flatMap Piece.text ++ ending) = pieces'.flatMap Piece.text ++ ending'
        ∧ placedFrom (offset + c.utf8Size) pieces = placedFrom offset pieces' := by
  cases pieces with
  | nil => exact ⟨[], c :: ending, valid, by simp_all [allBlank], rfl, rfl⟩
  | cons piece rest =>
      have gapBlank := valid.blank piece List.mem_cons_self
      refine ⟨⟨c :: piece.gap, piece.token⟩ :: rest, ending, ?_, blank, ?_, ?_⟩
      · refine valid.tail.cons (by simp_all [allBlank]) (valid.named piece List.mem_cons_self) ?_
        intro second isSecond
        cases rest with
        | nil => cases isSecond
        | cons other rest =>
            cases isSecond
            exact valid.separated.1
      · simp [Piece.text]
      · simp only [placedFrom, Piece.text, width_append, width_cons, Nat.add_assoc]

/-- A variable does not end in front of another one without a gap. -/
theorem ValidPieces.not_endsAtom {pieces : List Piece} {ending : List Char} {second : Piece}
    (valid : ValidPieces pieces) (isSecond : second ∈ pieces.head?)
    (isAtom : second.token.IsAtom) (noGap : second.gap = [])
    : ¬ EndsAtom (pieces.flatMap Piece.text ++ ending) := by
  intro ends
  cases pieces with
  | nil => cases isSecond
  | cons piece rest =>
      cases isSecond
      obtain ⟨gap, token⟩ := second
      obtain ⟨name, rfl⟩ := isAtom
      cases noGap
      obtain ⟨c, tail, same, start, _⟩ := valid.named _ List.mem_cons_self
      have stop := ends c (by simp [Piece.text, Token.text, same])
      rw [Token.isAtomChar_of_isAtomStart start] at stop
      cases stop

/-- Every text whose items are tokens is laid out in one way at least, by induction along the
reading.
-/
theorem exists_layout_of_collect {offset : Nat} {text : List Char} {tokens : List PlacedToken}
    (read : collect (itemsFrom offset text) = .ok tokens)
    : ∃ pieces ending,
        ValidPieces pieces
        ∧ allBlank ending = true
        ∧ text = pieces.flatMap Piece.text ++ ending
        ∧ tokens = placedFrom offset pieces := by
  fun_induction Lexer.itemsFrom offset text generalizing tokens with
  | case1 offset =>
      cases read
      exact ⟨[], [], ValidPieces.nil, rfl, rfl, rfl⟩
  | case2 offset c rest isBlank ih =>
      obtain ⟨pieces, ending, valid, blank, rfl, rfl⟩ := ih read
      exact exists_layout_cons_blank isBlank valid blank offset
  | case3 offset c rest noBlank found =>
      rename_i ih
      have written : found.text ++ found.rest = c :: rest := text_append_rest offset c rest
      have faithful : found.Faithful offset := faithful_lexeme offset c rest
      cases item : found.item with
      | error fault =>
          simp only [item, collect] at read
          cases read
      | ok next =>
          obtain ⟨placed, named, same, ends⟩ := faithful item
          simp only [item, collect] at read
          cases others : collect (itemsFrom (offset + width found.text) found.rest) with
          | error fault => rw [others] at read; cases read
          | ok tail =>
              rw [others] at read
              cases read
              obtain ⟨pieces, ending, valid, blank, left, rfl⟩ := ih others
              refine ⟨⟨[], next.token⟩ :: pieces, ending, valid.cons rfl named ?_, blank, ?_, ?_⟩
              · intro second isSecond isAtom alsoAtom noGap
                exact valid.not_endsAtom isSecond alsoAtom noGap (left ▸ ends isAtom)
              · rw [← written, ← same, left]
                simp [Piece.text]
              · simp [placedFrom, Piece.text, same, ← placed]

-----------------------------------------------------------------------------------------
-- One layout for each text
-----------------------------------------------------------------------------------------

/-- The gap in front of a token is all the blanks at the start of the text. -/
theorem takeWhile_gap_append {gap : List Char} {token : Token} (blank : allBlank gap = true)
    (named : token.WellNamed) (rest : List Char)
    : (gap ++ (token.text.toList ++ rest)).takeWhile isBlank = gap := by
  obtain ⟨c, tail, same, noBlank, _⟩ := named.lexeme_text
  rw [List.takeWhile_append_of_pos (List.all_eq_true.mp blank), same]
  simp [noBlank]

/-- Valid pieces with the same tokens and the same text have the same gaps, by induction on
the pieces.
-/
theorem ValidPieces.unique {first second : List Piece} {ending other : List Char}
    (valid : ValidPieces first) (also : ValidPieces second)
    (tokens : first.map Piece.token = second.map Piece.token)
    (same : first.flatMap Piece.text ++ ending = second.flatMap Piece.text ++ other)
    : first = second ∧ ending = other := by
  induction first generalizing second with
  | nil =>
      cases List.map_eq_nil_iff.mp tokens.symm
      exact ⟨rfl, same⟩
  | cons piece rest ih =>
      obtain ⟨partner, others, rfl, sameToken, sameRest⟩ := List.map_eq_cons_iff.mp tokens.symm
      obtain ⟨gap, token⟩ := piece
      obtain ⟨gap', token'⟩ := partner
      cases sameToken
      simp only [List.flatMap_cons, Piece.text, List.append_assoc] at same
      have sameGap := congrArg (List.takeWhile isBlank) same
      rw [takeWhile_gap_append (valid.blank _ List.mem_cons_self)
          (valid.named _ List.mem_cons_self),
        takeWhile_gap_append (also.blank _ List.mem_cons_self) (also.named _ List.mem_cons_self)]
        at sameGap
      cases sameGap
      obtain ⟨rfl, rfl⟩ := ih valid.tail also.tail sameRest.symm
        (List.append_cancel_left (List.append_cancel_left same))
      exact ⟨rfl, rfl⟩

theorem map_token_placedFrom (offset : Nat) (pieces : List Piece)
    : (placedFrom offset pieces).map PlacedToken.token = pieces.map Piece.token := by
  induction pieces generalizing offset with
  | nil => rfl
  | cons piece rest ih => simp only [placedFrom, List.map_cons, ih]

theorem Layout.Valid.unique {first second : Layout} (valid : first.Valid) (also : second.Valid)
    (same : first.text = second.text)
    : first = second := by
  have placed : first.placed = second.placed :=
    Except.ok.inj (valid.tokenize.symm.trans (same ▸ also.tokenize))
  have tokens := congrArg (List.map PlacedToken.token) placed
  simp only [Layout.placed, map_token_placedFrom] at tokens
  obtain ⟨pieces, ending⟩ := valid.pieces.unique also.pieces tokens same
  cases first
  cases second
  cases pieces
  cases ending
  rfl

theorem exists_layout_of_tokenize {text : List Char} {tokens : List PlacedToken}
    (read : Lexer.tokenize text = .ok tokens)
    : ∃ layout : Layout, layout.Valid ∧ layout.text = text ∧ layout.placed = tokens := by
  obtain ⟨pieces, ending, valid, blank, rfl, rfl⟩ := exists_layout_of_collect read
  exact ⟨⟨pieces, ending⟩, ⟨valid, blank⟩, rfl, rfl⟩

/-- Reading undoes laying out: the text of every valid layout reads as its tokens, each in its
place, and every text that can be read is the text of exactly one valid layout.
-/
theorem tokenize_inverts_layout
    : (∀ layout : Layout, layout.Valid → Lexer.tokenize layout.text = .ok layout.placed)
      ∧ ∀ text tokens,
          Lexer.tokenize text = .ok tokens
          → ∃! layout : Layout, layout.Valid ∧ layout.text = text := by
  refine ⟨fun layout valid => valid.tokenize, ?_⟩
  intro text tokens read
  obtain ⟨layout, valid, same, _⟩ := exists_layout_of_tokenize read
  refine ⟨layout, ⟨valid, same⟩, ?_⟩
  rintro other ⟨also, sameToo⟩
  exact also.unique valid (sameToo.trans same.symm)

/-- Variables with a wide blank between them, and tokens that touch. -/
theorem tokenize_inverts_layout_touching
    : Layout.Valid
        ⟨[⟨[], .atom "a"⟩, ⟨['\u3000'], .atom "b_1"⟩, ⟨[], .implication⟩, ⟨[], .truth⟩], ['\n']⟩
      ∧ Lexer.tokenize "a\u3000b_1->T\n".toList
        = .ok [⟨.atom "a", 0⟩, ⟨.atom "b_1", 4⟩, ⟨.implication, 7⟩, ⟨.truth, 9⟩]
      ∧ Lexer.tokenize "~(Ta".toList
        = .ok [⟨.negation, 0⟩, ⟨.openParen, 1⟩, ⟨.truth, 2⟩, ⟨.atom "a", 3⟩]
      ∧ ∃! layout : Layout, layout.Valid ∧ layout.text = "~(Ta".toList := by
  have valid : Layout.Valid
      ⟨[⟨[], .atom "a"⟩, ⟨['\u3000'], .atom "b_1"⟩, ⟨[], .implication⟩, ⟨[], .truth⟩],
        ['\n']⟩ := by
    refine ⟨⟨by decide, ?_, by simp [Separated, Token.IsAtom]⟩, by decide⟩
    simp only [List.forall_mem_cons]
    exact ⟨⟨'a', [], rfl, rfl, rfl⟩, ⟨'b', ['_', '1'], rfl, rfl, rfl⟩, trivial, trivial, by simp⟩
  have touching : Layout.Valid
      ⟨[⟨[], .negation⟩, ⟨[], .openParen⟩, ⟨[], .truth⟩, ⟨[], .atom "a"⟩], []⟩ := by
    refine ⟨⟨by decide, ?_, by simp [Separated, Token.IsAtom]⟩, rfl⟩
    simp only [List.forall_mem_cons]
    exact ⟨trivial, trivial, trivial, ⟨'a', [], rfl, rfl, rfl⟩, by simp⟩
  have read := tokenize_inverts_layout.1 _ touching
  exact ⟨valid, tokenize_inverts_layout.1 _ valid, read, tokenize_inverts_layout.2 _ _ read⟩

end SatClient
