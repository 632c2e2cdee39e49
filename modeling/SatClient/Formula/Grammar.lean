import SatClient.Formula.SyntaxError

/-! The grammar of formulas as a relation on token lists: one kind of phrase with nine
alternatives, ambiguous on purpose, and the bound on the nesting of parentheses, stated on
the tokens alone.
-/

namespace SatClient

def Token.IsBinary (token : Token) : Prop :=
  token = .conjunction ∨ token = .disjunction ∨ token = .implication ∨ token = .equivalence

instance (token : Token) : Decidable token.IsBinary :=
  inferInstanceAs (Decidable (_ ∨ _))

/-- The token lists that are formulas when nesting is left out of account. -/
inductive Derivable : List Token → Prop
  | truth : Derivable [.truth]
  | falsity : Derivable [.falsity]
  | atom (name : String) : Derivable [.atom name]
  | negation {body : List Token} : Derivable body → Derivable (.negation :: body)
  | conjunction {left right : List Token} :
      Derivable left → Derivable right → Derivable (left ++ .conjunction :: right)
  | disjunction {left right : List Token} :
      Derivable left → Derivable right → Derivable (left ++ .disjunction :: right)
  | implication {left right : List Token} :
      Derivable left → Derivable right → Derivable (left ++ .implication :: right)
  | equivalence {left right : List Token} :
      Derivable left → Derivable right → Derivable (left ++ .equivalence :: right)
  | parens {body : List Token} :
      Derivable body → Derivable (.openParen :: body ++ [.closeParen])

/-- No prefix of the tokens holds more than `bound` opening parentheses beyond its closing
ones.
-/
def NestsWithin (bound : Nat) (tokens : List Token) : Prop :=
  ∀ front, front <+: tokens → front.count .openParen ≤ front.count .closeParen + bound

end SatClient
