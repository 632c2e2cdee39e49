import SatClient.Program.Course
import SatClient.Session.Interactive

/-! The command that reads formulas line by line. -/

namespace SatClient.Program

open Http (Behaviour)

/-- What happens while formulas are read: a line is typed, or the solver answers a submission
in some way.
-/
inductive Happening where
  | line (text : String)
  | answer (id : Nat) (behaviour : Behaviour)
  deriving DecidableEq, Repr

/-- A line without the return before its break. -/
def withoutReturn (line : List Char) : List Char :=
  if line.getLast? = some '\r' then line.dropLast else line

/-- The lines in the pieces between line breaks; the last piece is a line of its own unless it
is empty.
-/
def linesOf : List (List Char) → List (List Char)
  | [] => []
  | [last] => if last.isEmpty then [] else [last]
  | line :: rest => withoutReturn line :: linesOf rest

def inputLines (input : String) : List String :=
  (linesOf (input.toList.splitOn '\n')).map String.ofList

def submissionOf? : Shown → Option Submission
  | .submitted submission => some submission
  | _ => none

/-- An input that is there at once: all lines are read before the first answer comes. -/
def happeningsOf (behaviour : Behaviour) (lines : List String) : List Happening :=
  let (_, shown) := Session.start.run (lines.map .line)
  lines.map .line ++ (shown.filterMap submissionOf?).map fun submission =>
    .answer submission.id behaviour

/-- What was sent when a formula was submitted, what servers got, and what was logged. -/
def posted (around : Surroundings) (endpoint : Endpoint) (formula : Formula) :
    Http.Traced Unit :=
  (endpoint.post around.behaviour (.string formula.text)).map fun _ => ()

/-- The answer to a submission, and what was logged about it. The request was traced when it was
submitted.
-/
def answerTo (around : Surroundings) (endpoint : Endpoint) (formula : Formula)
    (behaviour : Behaviour) : Http.Traced Response :=
  let request := endpoint.request (.string formula.text)
  endpoint.settle
    (Endpoint.readReply (Http.send (around.link.carry behaviour) endpoint request).value)

def takeLine (around : Surroundings) (endpoint : Endpoint) (course : Course)
    (session : Session) (text : String) : Course × Session :=
  let (session, shown) := session.typed text
  let course := course.print (shown.text around.paint)
  match submissionOf? shown with
  | none => (course, session)
  | some submission => (course.trace (posted around endpoint submission.formula), session)

def takeAnswer (around : Surroundings) (rule : UnsatRule) (endpoint : Endpoint)
    (course : Course) (session : Session) (id : Nat) (behaviour : Behaviour) :
    Course × Session :=
  match session.waiting? id with
  | none => (course, session)
  | some submission =>
      let answer := answerTo around endpoint submission.formula behaviour
      let outcome := Outcome.ofResponse rule answer.value
      let trail := session.tracker.resolveTrail (submission.answeredBy outcome)
      let (session, shown) := session.answered submission outcome
      (((course.trace answer).log trail).print (shown.text around.paint), session)

def follow (around : Surroundings) (rule : UnsatRule) (endpoint : Endpoint) (course : Course)
    (session : Session) : List Happening → Course
  | [] => course
  | .line text :: rest =>
      let (course, session) := takeLine around endpoint course session text
      follow around rule endpoint course session rest
  | .answer id behaviour :: rest =>
      let (course, session) := takeAnswer around rule endpoint course session id behaviour
      follow around rule endpoint course session rest

def interactive (around : Surroundings) (config : Files.Path) (overrides : Overrides)
    (happenings : List Happening) : Course :=
  let course := (Course.start around.files).log (Settings.readTrail around.files config)
  match Settings.gather around config overrides with
  | .error explanation => course.fail explanation
  | .ok settings =>
      match settings.endpoint with
      | .error explanation => course.fail explanation
      | .ok endpoint =>
          let course := course.print
            (around.paint.info "Enter one formula per line, Ctrl-D to quit.")
          follow around settings.rule endpoint course .start happenings

end SatClient.Program
