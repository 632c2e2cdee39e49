import SatClient.Formula.Basic

/-! Deciding formulas in one pass from left to right, with a mode that says whether an
operand or an operator is due and a stack of the parentheses that are open.
-/

namespace SatClient.Scan

/-- What is due next. -/
inductive Mode where
  | operand
  | operator
  deriving DecidableEq, Repr

/-- The mode, and the offsets of the open parentheses with the innermost first. -/
structure State where
  mode : Mode
  stack : List Nat
  deriving DecidableEq, Repr

/-- One token from a state where an operand is due. -/
def operandStep (stack : List Nat) (next : PlacedToken) : Except SyntaxError State :=
  match next.token with
  | .negation => .ok ⟨.operand, stack⟩
  | .truth | .falsity | .atom _ => .ok ⟨.operator, stack⟩
  | .openParen =>
      if stack.length < maxDepth then .ok ⟨.operand, next.offset :: stack⟩ else .error .tooDeep
  | found => .error (.unexpectedToken found next.offset .operand)

/-- What is expected besides an operator, depending on whether a parenthesis is open. -/
def afterOperand : List Nat → Expectation
  | [] => .operatorOrEnd
  | _ :: _ => .closeOrOperator

/-- One token from a state where an operator is due. -/
def operatorStep (stack : List Nat) (next : PlacedToken) : Except SyntaxError State :=
  match next.token, stack with
  | .conjunction, _ | .disjunction, _ | .implication, _ | .equivalence, _ =>
      .ok ⟨.operand, stack⟩
  | .closeParen, _ :: outer => .ok ⟨.operator, outer⟩
  | found, _ => .error (.unexpectedToken found next.offset (afterOperand stack))

def step (state : State) (next : PlacedToken) : Except SyntaxError State :=
  match state.mode with
  | .operand => operandStep state.stack next
  | .operator => operatorStep state.stack next

def finish (state : State) : Except SyntaxError Unit :=
  match state.mode, state.stack with
  | .operand, _ => .error .unexpectedEnd
  | .operator, opened :: _ => .error (.unclosedParen opened)
  | .operator, [] => .ok ()

def check (tokens : List PlacedToken) : Except SyntaxError Checked := do
  let state ← tokens.foldlM step ⟨.operand, []⟩
  finish state
  return ⟨distinct (atomsOf (tokens.map PlacedToken.token))⟩

end SatClient.Scan
