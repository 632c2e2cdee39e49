import SatClient.Solver.Assignment
import SatClient.Solver.Message

/-! What an answer of the solver means. An error wins over an assignment, and an answer with
neither is an error of its own.
-/

namespace SatClient

/-- How an assignment is recognised as "no assignment exists". -/
inductive UnsatRule where
  /-- Only the reserved string. -/
  | sentinel
  /-- The reserved string, or any pair with the value `false`. -/
  | anyFalse
  deriving DecidableEq, Repr, Inhabited

/-- The meaning of an answer. Under the first rule an unsatisfiable one has no bindings. -/
inductive Outcome where
  | satisfiable (bindings : List Binding)
  | unsatisfiable (bindings : List Binding)
  | error (message : String)
  deriving DecidableEq, Repr

namespace Outcome

def noAnswer : String := "Solver returned neither an assignment nor an error"

def bindings : Outcome → List Binding
  | satisfiable bindings => bindings
  | unsatisfiable bindings => bindings
  | error _ => []

def message? : Outcome → Option String
  | error message => some message
  | _ => none

def isSatisfiable : Outcome → Bool
  | satisfiable _ => true
  | _ => false

def kindWord : Outcome → String
  | satisfiable _ => "satisfiable"
  | unsatisfiable _ => "unsatisfiable"
  | error _ => "error"

def isUnsatisfiable (rule : UnsatRule) (assignment : String) : Bool :=
  assignment == Assignment.sentinel
    || match rule with
      | .sentinel => false
      | .anyFalse =>
          (Assignment.rawPairs assignment).any (·.value == Assignment.boolText false)

/-- The meaning of an answer. -/
def ofResponse (rule : UnsatRule) (response : Response) : Outcome :=
  match response.error with
  | some message => error message
  | none =>
      match response.assignment with
      | none => error noAnswer
      | some assignment =>
          if isUnsatisfiable rule assignment then unsatisfiable (Assignment.parse assignment)
          else satisfiable (Assignment.parse assignment)

/-- The members that describe an outcome; the message only where there is one. -/
def members (outcome : Outcome) : List (String × Json.Value) :=
  [("kind", .string outcome.kindWord), ("pairs", Assignment.toJson outcome.bindings)]
    ++ (outcome.message?.map fun message => ("message", Json.Value.string message)).toList

def toJson (outcome : Outcome) : Json.Value := .object outcome.members

end Outcome

end SatClient
