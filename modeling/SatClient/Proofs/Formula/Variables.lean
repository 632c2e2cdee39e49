import SatClient.Proofs.Formula.Characters
import SatClient.Proofs.Formula.Spacing

/-! Where variables stand in a text. This can be told from the characters alone: a variable is a
name that has no character beside it with which it would go on. What the check of a formula finds
are all the variables that stand in its text, in the order of their first places.
-/

namespace SatClient

open Text

-----------------------------------------------------------------------------------------
-- Variables by their characters
-----------------------------------------------------------------------------------------

/-- A variable stands in a text behind some characters, and is part of no longer word. -/
structure VariableAt (text front : List Char) (name : String) : Prop where
  named : Token.IsAtomName name.toList
  starts : ∀ c ∈ front.getLast?, Token.isAtomChar c = false
  ends : ∃ back, text = front ++ (name.toList ++ back) ∧ EndsAtom back

/-- A variable stands somewhere in a text. -/
def HasVariable (text : List Char) (name : String) : Prop := ∃ front, VariableAt text front name

/-- A variable stands in a text at a place before all those where another one stands. -/
def AppearsBefore (text : List Char) (first second : String) : Prop :=
  ∃ front, VariableAt text front first
    ∧ ∀ other, VariableAt text other second → front.length < other.length

theorem AppearsBefore.ne {text : List Char} {first second : String}
    (before : AppearsBefore text first second)
    : first ≠ second := by
  rintro rfl
  obtain ⟨front, here, least⟩ := before
  exact Nat.lt_irrefl _ (least front here)

-----------------------------------------------------------------------------------------
-- Variables by their tokens
-----------------------------------------------------------------------------------------

theorem mem_atomsOf {name : String} {tokens : List Token}
    : name ∈ atomsOf tokens ↔ .atom name ∈ tokens := by
  fun_induction atomsOf tokens with
  | case1 => simp
  | case2 other rest ih => simp [ih]
  | case3 token rest noAtom ih => simp [ih, Ne.symm (noAtom name)]

/-- A name that is met before another one has a token in front of which the other one has none, by
induction on the tokens.
-/
theorem exists_token_of_idxOf_lt {first second : String} {tokens : List Token}
    (less : (atomsOf tokens).idxOf first < (atomsOf tokens).idxOf second)
    : ∃ before after, tokens = before ++ .atom first :: after ∧ .atom second ∉ before := by
  fun_induction atomsOf tokens with
  | case1 => exact absurd less (Nat.lt_irrefl _)
  | case2 name rest ih =>
      by_cases here : name = first
      · exact ⟨[], rest, by rw [here]; rfl, List.not_mem_nil⟩
      have other : name ≠ second := by
        rintro rfl
        rw [List.idxOf_cons_self] at less
        exact Nat.not_lt_zero _ less
      rw [List.idxOf_cons_ne _ here, List.idxOf_cons_ne _ other] at less
      obtain ⟨before, after, rfl, absent⟩ := ih (Nat.lt_of_succ_lt_succ less)
      exact ⟨.atom name :: before, after, rfl, by simp [absent, Ne.symm other]⟩
  | case3 token rest noAtom ih =>
      obtain ⟨before, after, rfl, absent⟩ := ih less
      exact ⟨token :: before, after, rfl, by simp [absent, Ne.symm (noAtom second)]⟩

/-- No token but a variable holds characters that go on with variables. -/
theorem Token.isAtom_of_mem {token : Token} {c : Char} (inside : c ∈ token.text.toList)
    (continues : isAtomChar c = true)
    : token.IsAtom := by
  cases token with
  | atom name => exact ⟨name, rfl⟩
  | truth | falsity | negation | conjunction | disjunction | openParen | closeParen =>
      rw [List.mem_singleton.mp inside] at continues
      cases continues
  | implication | equivalence =>
      simp only [text, String.reduceToList, List.mem_cons, List.not_mem_nil, or_false] at inside
      rcases inside with rfl | rfl | rfl <;> cases continues

-----------------------------------------------------------------------------------------
-- Layouts
-----------------------------------------------------------------------------------------

theorem ValidPieces.of_append {before after : List Piece} (valid : ValidPieces (before ++ after))
    : ValidPieces after := by
  induction before with
  | nil => exact valid
  | cons piece rest ih => exact ih valid.tail

/-- In front of the variable of a piece there is a gap or a token that is no variable. -/
theorem ValidPieces.starts {before after : List Piece} {piece : Piece}
    (valid : ValidPieces (before ++ piece :: after)) (isAtom : piece.token.IsAtom)
    : ∀ c ∈ (before.flatMap Piece.text ++ piece.gap).getLast?, Token.isAtomChar c = false := by
  intro c last
  have named := fun other member => valid.named other (List.mem_append_left _ member)
  rcases getLast?_front named (valid.blank piece (by simp)) last with
    blank | ⟨noGap, neighbour, member, ends⟩
  · exact isAtomChar_of_isBlank blank
  · obtain ⟨others, rfl⟩ := List.getLast?_eq_some_iff.mp member
    rw [List.append_assoc] at valid
    have noAtom : ¬ neighbour.token.IsAtom := fun also =>
      valid.of_append.separated.1 also isAtom noGap
    rw [Bool.eq_false_iff]
    exact fun continues => noAtom (Token.isAtom_of_mem (List.mem_of_getLast? ends) continues)

namespace Layout

variable {layout : Layout} {front : List Char} {name first second : String}

/-- The variables of a text are its tokens that are variables, where these stand. The first
character of a name belongs to one token, whose text begins and ends where the name does.
-/
theorem Valid.variableAt_iff (valid : layout.Valid)
    : VariableAt layout.text front name
      ↔ ∃ before piece after,
          layout.pieces = before ++ piece :: after
          ∧ piece.token = .atom name
          ∧ front = before.flatMap Piece.text ++ piece.gap := by
  constructor
  · rintro ⟨⟨c, tail, same, start, continues⟩, starts, back, cut, ends⟩
    rw [same, List.cons_append] at cut
    obtain ⟨before, piece, after, left, right, pieces, inside, rfl, behind⟩ :=
      exists_piece_of_cut valid.pieces.blank valid.ending (isBlank_of_isAtomStart start) cut
    have whole := valid.pieces
    rw [pieces] at whole
    have isAtom : piece.token.IsAtom :=
      Token.isAtom_of_mem (by simp [inside]) (Token.isAtomChar_of_isAtomStart start)
    have named := whole.named piece (by simp)
    have endsToo := whole.of_append.endsAtom_tail valid.ending isAtom
    obtain ⟨other, isOther⟩ := isAtom
    rw [isOther] at named inside
    have letters := Token.IsAtomName.continues named
    change other.toList = left ++ c :: right at inside
    rcases List.eq_nil_or_concat left with rfl | ⟨others, d, rfl⟩
    · have more : right.all Token.isAtomChar = true :=
        List.all_eq_true.mpr fun e member => letters e (by simp [inside, member])
      have taken := congrArg (List.takeWhile Token.isAtomChar) behind
      rw [(takeWhile_append_of_endsAtom continues ends).1,
        (takeWhile_append_of_endsAtom more endsToo).1] at taken
      cases taken
      refine ⟨before, piece, after, pieces, ?_, List.append_nil _⟩
      rw [isOther, String.toList_injective (inside.trans same.symm)]
    · have stop := starts d (by simp)
      rw [letters d (by simp [inside])] at stop
      cases stop
  · rintro ⟨before, piece, after, pieces, token, rfl⟩
    have whole := valid.pieces
    rw [pieces] at whole
    have named := whole.named piece (by simp)
    have isAtom : piece.token.IsAtom := ⟨name, token⟩
    rw [token] at named
    have ends := whole.of_append.endsAtom_tail valid.ending isAtom
    refine ⟨named, whole.starts isAtom, _, ?_, ends⟩
    simp [text, pieces, Piece.text, Token.text, token]

theorem Valid.hasVariable_iff (valid : layout.Valid)
    : HasVariable layout.text name ↔ name ∈ atomsOf layout.tokens := by
  rw [mem_atomsOf, tokens, List.mem_map]
  constructor
  · rintro ⟨front, stands⟩
    obtain ⟨before, piece, after, pieces, token, _⟩ := valid.variableAt_iff.mp stands
    exact ⟨piece, by simp [pieces], token⟩
  · rintro ⟨piece, member, token⟩
    obtain ⟨before, after, pieces⟩ := List.append_of_mem member
    exact ⟨_, valid.variableAt_iff.mpr ⟨before, piece, after, pieces, token, rfl⟩⟩

/-- A variable that is met before another one stands before it. -/
theorem Valid.appearsBefore (valid : layout.Valid)
    (less : (atomsOf layout.tokens).idxOf first < (atomsOf layout.tokens).idxOf second)
    : AppearsBefore layout.text first second := by
  have differ : first ≠ second := by
    rintro rfl
    exact Nat.lt_irrefl _ less
  obtain ⟨front, back, cut, absent⟩ := exists_token_of_idxOf_lt less
  obtain ⟨before, behind, pieces, rfl, same⟩ := List.map_eq_append_iff.mp cut
  obtain ⟨piece, after, rfl, token, rfl⟩ := List.map_eq_cons_iff.mp same
  refine ⟨_, valid.variableAt_iff.mpr ⟨before, piece, after, pieces, token, rfl⟩, ?_⟩
  intro other stands
  obtain ⟨earlier, partner, later, samePieces, isSecond, rfl⟩ := valid.variableAt_iff.mp stands
  rw [pieces] at samePieces
  rcases append_eq_append_cons_iff.mp samePieces with ⟨rest, rfl, _⟩ | ⟨middle, rfl, here⟩
  · exact absurd (List.mem_map.mpr ⟨partner, by simp, isSecond⟩) absent
  cases middle with
  | nil =>
      cases here
      exact absurd (Token.atom.inj (token.symm.trans isSecond)) differ
  | cons next middle =>
      cases here
      obtain ⟨c, tail, written, _⟩ := (valid.pieces.named piece (by simp [pieces])).lexeme_text
      simp [Piece.text, written]

end Layout

-----------------------------------------------------------------------------------------
-- Formulas
-----------------------------------------------------------------------------------------

/-- The check of a formula finds the variables of its text, in the order of their first places. -/
theorem variables_of_checkText {text : String} {checked : Checked}
    (passed : checkText text = .ok checked)
    : (∀ name, name ∈ checked.atoms ↔ HasVariable text.toList name)
      ∧ checked.atoms.Pairwise (AppearsBefore text.toList) := by
  obtain ⟨_, ⟨layout, valid, written, rfl⟩, _, atoms⟩ := checkText_eq_ok_iff_spells.mp passed
  have ordered := inOrderOfAppearance_distinct (atomsOf layout.tokens)
  rw [← written, atoms]
  exact ⟨fun name => (ordered.members name).trans valid.hasVariable_iff.symm,
    ordered.order.imp valid.appearsBefore⟩

end SatClient
