import SatClient.Formula.Recognizer

/-! The recognizer call by call: a position among the tokens, the number of parentheses that are
open, the variables met so far, and the procedures that are under way, each with the point that it
has come to. One step takes at most one token or changes the depth by one, so that a run shows every
state that the recognizer is in.
-/

namespace SatClient.Calls

open Recognizer (Progress)

/-- The binary operators, loosest first. -/
inductive Level where
  | equivalence
  | implication
  | disjunction
  | conjunction
  deriving DecidableEq, Repr

/-- The procedures that call each other: one for the operands of each binary operator, one for
negation signs, and one for what binds tightest.
-/
inductive Procedure where
  | chain (level : Level)
  | negated
  | primary
  deriving DecidableEq, Repr

abbrev Procedure.whole : Procedure := .chain .equivalence

namespace Level

def operator : Level → Token
  | equivalence => .equivalence
  | implication => .implication
  | disjunction => .disjunction
  | conjunction => .conjunction

def operand : Level → Procedure
  | equivalence => .chain .implication
  | implication => .chain .disjunction
  | disjunction => .chain .conjunction
  | conjunction => .negated

end Level

/-- What all procedures work on: how many tokens have been taken, how many parentheses count as
open, and the variables in order of occurrence.
-/
structure Memory where
  position : Nat
  depth : Nat
  atoms : List String
  deriving DecidableEq, Repr

/-- The point that a call has come to. Where a parenthesis was opened, the point has its offset. -/
inductive Point where
  /-- Nothing has been done. -/
  | entered
  /-- An operand of a chain has been read. -/
  | joining (level : Level)
  /-- Negation signs are taken. -/
  | negating
  /-- An opening parenthesis has been taken. -/
  | opened (offset : Nat)
  /-- It has been counted. -/
  | counted (offset : Nat)
  /-- A formula has been read behind it. -/
  | enclosed (offset : Nat)
  /-- It does not count any more. -/
  | closing (offset : Nat)
  /-- The call is about to return. -/
  | done
  deriving DecidableEq, Repr

/-- A call that is under way, with the memory as it was when the call was entered. -/
structure Call where
  procedure : Procedure
  entry : Memory
  point : Point
  deriving DecidableEq, Repr

/-- Whether the recognizer goes on, has refused the tokens, or has come to count less than no
parentheses.
-/
inductive Status where
  | running
  | refused (fault : SyntaxError)
  | underflow
  deriving DecidableEq, Repr

/-- The recognizer at one moment; the call that was entered last comes first. -/
structure State where
  memory : Memory
  calls : List Call
  status : Status
  deriving DecidableEq, Repr

namespace Memory

def next? (memory : Memory) (tokens : List PlacedToken) : Option PlacedToken :=
  tokens[memory.position]?

def sees (memory : Memory) (tokens : List PlacedToken) (token : Token) : Bool :=
  (memory.next? tokens).map PlacedToken.token == some token

def advance (memory : Memory) : Memory :=
  { memory with position := memory.position + 1 }

def note (memory : Memory) (name : String) : Memory :=
  { memory.advance with atoms := memory.atoms ++ [name] }

/-- What is known at a position. -/
def progress (memory : Memory) (tokens : List PlacedToken) : Progress :=
  ⟨memory.atoms.reverse, tokens.drop memory.position⟩

end Memory

namespace State

def enter (memory : Memory) (procedure : Procedure) (callers : List Call) : State :=
  ⟨memory, ⟨procedure, memory, .entered⟩ :: callers, .running⟩

def reach (memory : Memory) (call : Call) (point : Point) (callers : List Call) : State :=
  ⟨memory, { call with point } :: callers, .running⟩

/-- A call refuses the tokens. Its callers hand the fault on, and do nothing else. -/
def refuse (memory : Memory) (call : Call) (callers : List Call) (fault : SyntaxError) : State :=
  ⟨memory, call :: callers, .refused fault⟩

def live (state : State) : Nat :=
  (state.calls.map Call.procedure).count .whole

def result? (state : State) (tokens : List PlacedToken) : Option (Except SyntaxError Progress) :=
  match state.status, state.calls with
  | .refused fault, _ => some (.error fault)
  | .running, [] => some (.ok (state.memory.progress tokens))
  | _, _ => none

end State

open State (enter reach refuse)

section Step

variable (tokens : List PlacedToken) (memory : Memory) (call : Call) (callers : List Call)

/-- Read what binds tightest, up to a parenthesis that is opened. -/
def beginPrimary : State :=
  match memory.next? tokens with
  | none => refuse memory call callers .unexpectedEnd
  | some next =>
      match next.token with
      | .truth | .falsity => reach memory.advance call .done callers
      | .atom name => reach (memory.note name) call .done callers
      | .openParen => reach memory.advance call (.opened next.offset) callers
      | found => refuse memory call callers (.unexpectedToken found next.offset .operand)

def begin : State :=
  match call.procedure with
  | .chain level => enter memory level.operand ({ call with point := .joining level } :: callers)
  | .negated => reach memory call .negating callers
  | .primary => beginPrimary tokens memory call callers

def close (opened : Nat) : State :=
  match memory.next? tokens with
  | none => refuse memory call callers (.unclosedParen opened)
  | some next =>
      if next.token = .closeParen then reach memory.advance call .done callers
      else
        refuse memory call callers (.unexpectedToken next.token next.offset .closeOrOperator)

def resume : State :=
  match call.point with
  | .entered => begin tokens memory call callers
  | .joining level =>
      if memory.sees tokens level.operator then enter memory.advance level.operand (call :: callers)
      else reach memory call .done callers
  | .negating =>
      if memory.sees tokens .negation then reach memory.advance call .negating callers
      else enter memory .primary ({ call with point := .done } :: callers)
  | .opened offset =>
      reach { memory with depth := memory.depth + 1 } call (.counted offset) callers
  | .counted offset =>
      if maxDepth < memory.depth then refuse memory call callers .tooDeep
      else enter memory .whole ({ call with point := .enclosed offset } :: callers)
  | .enclosed offset =>
      match memory.depth with
      | 0 => ⟨memory, call :: callers, .underflow⟩
      | depth + 1 => reach { memory with depth } call (.closing offset) callers
  | .closing offset => close tokens memory call callers offset
  | .done => ⟨memory, callers, .running⟩

end Step

/-- One step of the recognizer, until it has come to an end. -/
def step (tokens : List PlacedToken) (state : State) : State :=
  match state.status, state.calls with
  | .running, call :: callers => resume tokens state.memory call callers
  | _, _ => state

/-- The recognizer after some number of steps. -/
def after (tokens : List PlacedToken) : Nat → State
  | 0 => enter ⟨0, 0, []⟩ .whole []
  | count + 1 => step tokens (after tokens count)

end SatClient.Calls
