/-! The tokens of formula text: the two constants, variables, the five connectives and
parentheses.
-/

namespace SatClient

inductive Token where
  | truth
  | falsity
  | atom (name : String)
  | negation
  | conjunction
  | disjunction
  | implication
  | equivalence
  | openParen
  | closeParen
  deriving DecidableEq, Repr, Inhabited

namespace Token

def text : Token → String
  | truth => "T"
  | falsity => "F"
  | atom name => name
  | negation => "~"
  | conjunction => "&"
  | disjunction => "|"
  | implication => "->"
  | equivalence => "<->"
  | openParen => "("
  | closeParen => ")"

def isAtomStart (c : Char) : Bool :=
  c.isLower

def isAtomChar (c : Char) : Bool :=
  c.isLower || c.isDigit || c == '_'

/-- Names that a variable can have: a lowercase letter, then lowercase letters, digits and
underscores.
-/
def IsAtomName (name : List Char) : Prop :=
  ∃ c rest, name = c :: rest ∧ isAtomStart c = true ∧ rest.all isAtomChar = true

theorem isAtomChar_of_isAtomStart {c : Char} (start : isAtomStart c = true)
    : isAtomChar c = true := by
  simp only [isAtomStart] at start
  simp [isAtomChar, start]

theorem IsAtomName.continues {name : List Char} (named : IsAtomName name)
    : ∀ c ∈ name, isAtomChar c = true := by
  obtain ⟨first, rest, rfl, start, others⟩ := named
  exact List.forall_mem_cons.mpr ⟨isAtomChar_of_isAtomStart start, List.all_eq_true.mp others⟩

instance (name : List Char) : Decidable (IsAtomName name) :=
  match name with
  | [] => isFalse (by rintro ⟨_, _, same, _⟩; cases same)
  | c :: rest =>
      decidable_of_iff (isAtomStart c = true ∧ rest.all isAtomChar = true)
        ⟨fun ⟨start, others⟩ => ⟨c, rest, rfl, start, others⟩,
          by rintro ⟨_, _, same, start, others⟩; cases same; exact ⟨start, others⟩⟩

end Token

/-- A token together with the byte offset at which its text starts. -/
structure PlacedToken where
  token : Token
  offset : Nat
  deriving DecidableEq, Repr, Inhabited

def atomsOf : List Token → List String
  | [] => []
  | .atom name :: rest => name :: atomsOf rest
  | _ :: rest => atomsOf rest

end SatClient
