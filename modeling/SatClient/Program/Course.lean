import SatClient.Display.Explanation
import SatClient.Display.Report
import SatClient.Files.Tree
import SatClient.Forwarder
import SatClient.Settings.File

/-! What the program finds around it, how its settings are put together from that, and what it
leaves behind.
-/

namespace SatClient

structure Surroundings where
  env : Environment
  files : Files.Tree
  link : Http.Link
  /-- What the solver does with a request. -/
  solver : Http.Behaviour
  time : Timestamp
  /-- How long an answer takes, in milliseconds. -/
  delay : Nat

def Surroundings.paint (around : Surroundings) : Paint := .ofEnvironment around.env

/-- What the solver does with a request as far as one gets there. -/
def Surroundings.behaviour (around : Surroundings) : Http.Behaviour :=
  around.link.carry around.solver

/-- Something on the error stream. -/
inductive Note where
  | event (event : Log.Event)
  | text (text : String)
  deriving DecidableEq, Repr

structure Course where
  exit : Nat
  output : String
  notes : List Note
  files : Files.Tree
  /-- The requests that were sent, and those that servers got. -/
  sent : List Http.Request
  received : List Http.Request

namespace Course

def start (files : Files.Tree) : Course := ⟨0, "", [], files, [], []⟩

def print (course : Course) (line : String) : Course :=
  { course with output := course.output ++ line ++ "\n" }

def printIf (course : Course) (condition : Bool) (lines : List String) : Course :=
  if condition then lines.foldl print course else course

def log (course : Course) (trail : Log.Trail) : Course :=
  { course with notes := course.notes ++ trail.map .event }

def warn (course : Course) (line : String) : Course :=
  { course with notes := course.notes ++ [.text (line ++ "\n")] }

/-- Note what was sent, what servers got, and what was logged. -/
def trace (course : Course) (traced : Http.Traced α) : Course :=
  { course.log traced.trail with
    sent := course.sent ++ traced.sent
    received := course.received ++ traced.received }

def keep (course : Course) (files : Files.Tree) : Course :=
  { course with files := files }

def fail (course : Course) (explanation : Explanation) : Course :=
  { course.warn ("Error: " ++ explanation.text) with exit := 1 }

/-- What stands on the error stream, given what is logged and how the time is written. -/
def errorText (course : Course) (filter : Log.Filter) (colored : Bool) (time : String) :
    String :=
  String.join (course.notes.map fun
    | .text text => text
    | .event event => if filter.passes event then event.timedLine colored time else "")

end Course

namespace Settings

/-- Put all layers together, and check the result. -/
def gather (around : Surroundings) (config : Files.Path) (overrides : Overrides) :
    Except Explanation Settings :=
  match readOrStandard around.files config with
  | .error fault => .error (.within ("Failed to load config from " ++ config.text) fault.explain)
  | .ok settings =>
      let settings := (settings.override (.ofEnvironment around.env)).override overrides
      match settings.validate with
      | .error bad => .error (.within "Configuration validation failed" bad.explain)
      | .ok _ => .ok settings

def endpoint (settings : Settings) : Except Explanation Endpoint :=
  (Endpoint.ofBaseUrl settings.baseUrl).mapError fun bad =>
    .within "Failed to create solver client" (.plain bad.message)

end Settings

end SatClient
