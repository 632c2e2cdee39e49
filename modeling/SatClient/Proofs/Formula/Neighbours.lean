import Mathlib.Data.List.Chain
import SatClient.Proofs.Formula.Acceptance
import SatClient.Proofs.Formula.EarliestFault

/-! Which tokens stand side by side in a formula. An operand starts exactly where the token in
front awaits one, so that no operand meets another one, and no variable needs a gap to be kept apart
from the next.
-/

namespace SatClient

def Token.StartsOperand (token : Token) : Prop :=
  token = .negation ∨ token = .openParen ∨ token.IsOperand

/-- An operand starts exactly where one is awaited. -/
def Token.FitsBefore (first second : Token) : Prop :=
  first.AwaitsOperand ↔ second.StartsOperand

namespace Scan

/-- An operand is due before a step exactly when its token starts one. -/
theorem Advance.startsOperand_iff {state next after} (advance : Advance state next after)
    : state.mode = .operand ↔ next.token.StartsOperand := by
  cases advance with
  | negate => simp [Token.StartsOperand]
  | operand isOperand => simp [Token.StartsOperand, isOperand]
  | enter => simp [Token.StartsOperand]
  | connect isBinary =>
      simp only [reduceCtorEq, false_iff]
      rintro (rfl | rfl | isOperand)
      · simp [Token.IsBinary] at isBinary
      · simp [Token.IsBinary] at isBinary
      · cases isOperand <;> simp [Token.IsBinary] at isBinary
  | leave =>
      simp only [reduceCtorEq, false_iff]
      rintro (same | same | isOperand)
      · cases same
      · cases same
      · cases isOperand

/-- Neighbours in a run fit, by induction on the run. -/
theorem Run.isChain {state tokens last} (run : Run state tokens last)
    : (tokens.map PlacedToken.token).IsChain Token.FitsBefore := by
  induction run with
  | nil => exact .nil
  | cons first others ih =>
      cases others with
      | nil => exact .singleton _
      | cons second more =>
          exact .cons_cons (first.mode_iff.symm.trans second.startsOperand_iff) ih

end Scan

theorem Accepted.isChain {tokens : List Token} (accepted : Accepted tokens)
    : tokens.IsChain Token.FitsBefore := by
  obtain ⟨placed, rfl⟩ := exists_placed tokens
  exact (accepted_map_iff.mp accepted).isChain

/-- A variable is an operand of its own, so that none fits before another one. -/
theorem Token.not_fitsBefore_of_isAtom {first second : Token} (isAtom : first.IsAtom)
    (alsoAtom : second.IsAtom)
    : ¬ first.FitsBefore second := by
  obtain ⟨name, rfl⟩ := isAtom
  obtain ⟨other, rfl⟩ := alsoAtom
  simp [FitsBefore, AwaitsOperand, IsBinary, StartsOperand, IsOperand.atom]

/-- Tokens that fit need no gaps between them, by induction on the pieces. -/
theorem separated_of_isChain {pieces : List Piece}
    (chain : (pieces.map Piece.token).IsChain Token.FitsBefore)
    : Separated pieces := by
  induction pieces with
  | nil => trivial
  | cons first rest ih =>
      cases rest with
      | nil => trivial
      | cons second more =>
          obtain ⟨fits, others⟩ := List.isChain_cons_cons.mp chain
          refine ⟨fun isAtom alsoAtom => ?_, ih others⟩
          exact absurd fits (Token.not_fitsBefore_of_isAtom isAtom alsoAtom)

end SatClient
