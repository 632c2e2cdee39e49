import SatClient.Proofs.Formula.Derivation
import SatClient.Proofs.Formula.Layout

/-! Which tokens a text spells, whatever their places. Spelled texts are put together around
every token that is no variable, and a text is a formula when it spells one.
-/

namespace SatClient

def Spells (text : List Char) (tokens : List Token) : Prop :=
  ∃ layout : Layout,
    layout.Valid ∧ layout.text = text ∧ layout.pieces.map Piece.token = tokens

/-- A text spells the tokens that are read from it. -/
theorem spells_iff {text : List Char} {tokens : List Token}
    : Spells text tokens
      ↔ ∃ placed, Lexer.tokenize text = .ok placed ∧ placed.map PlacedToken.token = tokens := by
  constructor
  · rintro ⟨layout, valid, rfl, rfl⟩
    exact ⟨layout.placed, valid.tokenize, map_token_placedFrom 0 layout.pieces⟩
  · rintro ⟨placed, read, rfl⟩
    obtain ⟨layout, valid, same, rfl⟩ := exists_layout_of_tokenize read
    exact ⟨layout, valid, same, (map_token_placedFrom 0 layout.pieces).symm⟩

theorem Spells.nil : Spells [] [] :=
  ⟨⟨[], []⟩, ⟨ValidPieces.nil, rfl⟩, rfl, rfl⟩

theorem Spells.atom {name : String} (named : Token.IsAtomName name.toList)
    : Spells name.toList [.atom name] := by
  have valid : ValidPieces [⟨[], .atom name⟩] := ValidPieces.nil.cons rfl named (by simp)
  exact ⟨⟨[⟨[], .atom name⟩], []⟩, ⟨valid, rfl⟩, by simp [Layout.text, Piece.text, Token.text], rfl⟩

/-- Pieces on both sides of a token that is no variable stay apart, by induction on those in
front.
-/
theorem Separated.join {left right : List Piece} {piece : Piece}
    (noAtom : ¬ piece.token.IsAtom) (before : Separated left) (after : Separated right)
    : Separated (left ++ piece :: right) := by
  induction left with
  | nil =>
      cases right with
      | nil => trivial
      | cons second rest => exact ⟨fun isAtom => absurd isAtom noAtom, after⟩
  | cons first rest ih =>
      cases rest with
      | nil => exact ⟨fun _ isAtom => absurd isAtom noAtom, ih trivial⟩
      | cons second rest => exact ⟨before.1, ih before.2⟩

/-- Two spelled texts can be joined around a token that is no variable. -/
theorem Spells.join {left right : List Char} {before after : List Token} {token : Token}
    (noAtom : ¬ token.IsAtom) (first : Spells left before) (second : Spells right after)
    : Spells (left ++ token.text.toList ++ right) (before ++ token :: after) := by
  obtain ⟨⟨front, ending⟩, ⟨validFront, blank⟩, rfl, rfl⟩ := first
  obtain ⟨⟨back, last⟩, ⟨validBack, blankLast⟩, rfl, rfl⟩ := second
  refine ⟨⟨front ++ ⟨ending, token⟩ :: back, last⟩, ⟨⟨?_, ?_, ?_⟩, blankLast⟩, ?_, ?_⟩
  · intro piece member
    rcases List.mem_append.mp member with earlier | here
    · exact validFront.blank piece earlier
    · rcases List.mem_cons.mp here with rfl | later
      · exact blank
      · exact validBack.blank piece later
  · intro piece member
    rcases List.mem_append.mp member with earlier | here
    · exact validFront.named piece earlier
    · rcases List.mem_cons.mp here with rfl | later
      · exact Token.wellNamed_of_not_isAtom noAtom
      · exact validBack.named piece later
  · exact Separated.join noAtom validFront.separated validBack.separated
  · simp [Layout.text, Piece.text]
  · simp

/-- A negation sign in front is read off a text. -/
theorem spells_negation_cons {text : List Char} {tokens : List Token}
    : Spells ('~' :: text) tokens
      ↔ ∃ others, tokens = .negation :: others ∧ Spells text others := by
  have named : Token.negation.WellNamed := trivial
  have noAtom : ¬ Token.negation.IsAtom := by simp [Token.IsAtom]
  constructor
  · intro spells
    obtain ⟨placed, read, rfl⟩ := spells_iff.mp spells
    have first : Lexer.itemsFrom 0 ('~' :: text)
        = .ok ⟨.negation, 0⟩ :: Lexer.itemsFrom 1 text :=
      itemsFrom_token_append 0 named fun isAtom => absurd isAtom noAtom
    rw [Lexer.tokenize, Lexer.items, first, Lexer.collect] at read
    cases others : Lexer.collect (Lexer.itemsFrom 1 text) with
    | error fault => rw [others] at read; cases read
    | ok rest =>
        rw [others] at read
        cases read
        obtain ⟨pieces, ending, valid, blank, rfl, rfl⟩ := exists_layout_of_collect others
        exact ⟨_, rfl, ⟨pieces, ending⟩, ⟨valid, blank⟩, rfl, (map_token_placedFrom 1 pieces).symm⟩
  · rintro ⟨others, rfl, spells⟩
    exact Spells.join noAtom Spells.nil spells

end SatClient
