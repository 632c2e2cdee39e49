import SatClient.Formula.SyntaxError

/-! A recognizer for formulas, by binding strength: parentheses, then negation, conjunction,
disjunction, implication and equivalence. It decides membership and keeps the variables it
meets; no tree is built. Recursion is on the number of parenthesis levels that may still be
opened, so the nesting is bounded by construction while chains of any length are read in
loops.
-/

namespace SatClient.Recognizer

/-- How far a recognizer has come: the variables met, latest first, and the tokens that are
left.
-/
structure Progress where
  atoms : List String
  rest : List PlacedToken
  deriving DecidableEq, Repr

/-- A recognizer takes some tokens from the front, or says why it cannot. -/
abbrev Step := Progress → Except SyntaxError Progress

/-- Further operands, each after the operator. The fuel is the number of tokens left, and
every operator takes one.
-/
def more (operator : Token) (operand : Step) : Nat → Step
  | 0, progress => .ok progress
  | fuel + 1, progress =>
      match progress.rest with
      | [] => .ok progress
      | next :: rest =>
          if next.token = operator then
            operand { progress with rest } >>= more operator operand fuel
          else .ok progress

def chain (operator : Token) (operand : Step) : Step := fun progress => do
  let progress ← operand progress
  more operator operand progress.rest.length progress

def negated (operand : Step) : Step := fun progress =>
  operand { progress with rest := progress.rest.dropWhile (·.token = .negation) }

/-- The closing parenthesis for the one opened at `opened`. -/
def close (opened : Nat) : Step := fun progress =>
  match progress.rest with
  | [] => .error (.unclosedParen opened)
  | next :: rest =>
      if next.token = .closeParen then .ok { progress with rest }
      else .error (.unexpectedToken next.token next.offset .closeOrOperator)

/-- A constant, a variable, or whatever `inside` reads between parentheses. -/
def primary (inside : Step) : Step := fun progress =>
  match progress.rest with
  | [] => .error .unexpectedEnd
  | next :: rest =>
      match next.token with
      | .truth | .falsity => .ok { progress with rest }
      | .atom name => .ok ⟨name :: progress.atoms, rest⟩
      | .openParen => inside { progress with rest } >>= close next.offset
      | found => .error (.unexpectedToken found next.offset .operand)

/-- Operands joined by `&`. -/
def conjunctions (inside : Step) : Step :=
  chain .conjunction (negated (primary inside))

/-- Conjunctions joined by `|`. -/
def disjunctions (inside : Step) : Step :=
  chain .disjunction (conjunctions inside)

/-- Disjunctions joined by `->`. -/
def implications (inside : Step) : Step :=
  chain .implication (disjunctions inside)

/-- Implications joined by `<->`. -/
def equivalences (inside : Step) : Step :=
  chain .equivalence (implications inside)

/-- A whole formula in which at most `room` more levels of parentheses may be opened. -/
def formula : Nat → Step
  | 0 => equivalences fun _ => .error .tooDeep
  | room + 1 => equivalences (formula room)

/-- The variables of a list of tokens that forms one formula, in order of occurrence. -/
def run (tokens : List PlacedToken) : Except SyntaxError (List String) := do
  let progress ← formula maxDepth ⟨[], tokens⟩
  match progress.rest with
  | [] => .ok progress.atoms.reverse
  | extra :: _ => .error (.unexpectedToken extra.token extra.offset .operatorOrEnd)

end SatClient.Recognizer
