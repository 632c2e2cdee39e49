import SatClient.Display.Result
import SatClient.Formula.SyntaxError
import SatClient.Session.Tracker

/-! A session in which formulas are typed line by line. Answers come later and in any order;
one is shown only while its submission is the latest.
-/

namespace SatClient

/-- A formula that was typed, with the number that it got. -/
structure Submission where
  id : Nat
  formula : Formula
  checked : Checked
  deriving DecidableEq

def Submission.answeredBy (submission : Submission) (outcome : Outcome) : Resolved :=
  ⟨submission.id, submission.formula, outcome⟩

/-- The tracker of a session, and the submissions that wait for an answer. -/
structure Session where
  tracker : Tracker
  waiting : List Submission
  deriving DecidableEq

inductive Shown where
  | blankLine
  | rejected (text : String) (fault : SyntaxError)
  | submitted (submission : Submission)
  | result (submission : Submission) (outcome : Outcome)
  | superseded (id : Nat)
  deriving DecidableEq

/-- What happens to a session: a line is typed, or a submission is answered. -/
inductive Session.Step where
  | line (text : String)
  | answer (id : Nat) (outcome : Outcome)
  deriving DecidableEq

def submissionMark (id : Nat) : String := "[" ++ toString id ++ "]"

def Shown.text (paint : Paint) : Shown → String
  | blankLine => paint.warning Formula.blankMessage
  | rejected text fault =>
      pointer text fault.offset? ++ "\n" ++ paint.error ("Formula rejected: " ++ fault.message)
  | submitted submission =>
      submissionMark submission.id ++ " submitted: " ++ submission.formula.text
  | result submission outcome =>
      submissionMark submission.id ++ "\n"
        ++ outcome.render paint submission.formula (some submission.checked)
  | superseded id =>
      paint.warning
        (submissionMark id ++ " superseded by a newer submission, result dropped")

namespace Session

def start : Session := ⟨.empty, []⟩

/-- Take a typed line. Only one that is a formula is submitted. -/
def typed (session : Session) (text : String) : Session × Shown :=
  match Formula.ofString? text with
  | none => (session, .blankLine)
  | some formula =>
      match formula.check with
      | .error fault => (session, .rejected formula.text fault)
      | .ok checked =>
          let (id, tracker) := session.tracker.submit
          let submission : Submission := ⟨id, formula, checked⟩
          (⟨tracker, session.waiting ++ [submission]⟩, .submitted submission)

def waiting? (session : Session) (id : Nat) : Option Submission :=
  session.waiting.find? (·.id == id)

def answered (session : Session) (submission : Submission) (outcome : Outcome) :
    Session × Shown :=
  let (isKept, tracker) := session.tracker.resolve (submission.answeredBy outcome)
  (⟨tracker, session.waiting.filter (·.id != submission.id)⟩,
    if isKept then .result submission outcome else .superseded submission.id)

/-- Take one step. An answer nobody waits for changes nothing. -/
def step (session : Session) : Step → Session × List Shown
  | .line text =>
      let (session, shown) := session.typed text
      (session, [shown])
  | .answer id outcome =>
      match session.waiting? id with
      | none => (session, [])
      | some submission =>
          let (session, shown) := session.answered submission outcome
          (session, [shown])

def run (session : Session) : List Step → Session × List Shown
  | [] => (session, [])
  | step :: rest =>
      let (session, shown) := session.step step
      let (session, more) := run session rest
      (session, shown ++ more)

end Session

end SatClient
