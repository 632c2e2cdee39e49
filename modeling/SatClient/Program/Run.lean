import SatClient.CommandLine.Invocation
import SatClient.Program.Interactive
import SatClient.Program.Proxy
import SatClient.Program.Setup
import SatClient.Program.Solve

/-! From the words of a command line to what the program leaves behind, and to the paths that it may
look at or write to, so that only these have to be known.
-/

namespace SatClient.Program

open CommandLine (Invocation Stop)

/-- What happens from outside while the program runs. -/
structure Outside where
  happenings : List Happening
  visit : Visit
  deriving DecidableEq, Repr

structure Finished where
  exit : Nat
  output : String
  errors : String
  files : Files.Tree
  received : List Http.Request
  answers : List Forwarder.Answer

def stopped (around : Surroundings) (exit : Nat) (output errors : String) : Finished :=
  ⟨exit, output, errors, around.files, [], []⟩

/-- What is left behind when the command line asks for no command. -/
def finishStop (around : Surroundings) : Stop → Finished
  | .help text => stopped around 0 text ""
  | .version => stopped around 0 CommandLine.versionText ""
  | .fault fault => stopped around 2 "" fault.text
  | .noWords text => stopped around 2 "" text

/-- The level from which on events are logged unless the environment asks for another. -/
def logLevel : Invocation → Log.Level
  | .solve _ _ _ _ _ isVerbose => if isVerbose then .debug else .warn
  | .proxy .. => .info
  | _ => .warn

def carryOut (around : Surroundings) (outside : Outside) : Invocation → Served
  | .solve formula config overrides skipsCheck saves isVerbose =>
      .ok (solve around config overrides ⟨skipsCheck, saves, isVerbose⟩ formula, [])
  | .check formula => .ok (check around formula, [])
  | .proxy config overrides => proxy around config overrides outside.visit
  | .interactive config overrides =>
      .ok (interactive around config overrides outside.happenings, [])
  | .setup directory isForced => .ok (setup around directory isForced, [])

/-- What is left behind by the course of a command; `clock` is how the time is written. -/
def finish (around : Surroundings) (clock : String) (level : Log.Level) (course : Course)
    (answers : List Forwarder.Answer) : Finished :=
  let filter := Log.Filter.ofEnvironment around.env level
  ⟨course.exit, course.output, course.errorText filter (Log.isColored around.env) clock,
    course.files, course.received, answers⟩

def run (around : Surroundings) (outside : Outside) (clock : String) (words : List String) :
    Except Forwarder.Unreached Finished :=
  match CommandLine.read words with
  | .error stop => .ok (finishStop around stop)
  | .ok invocation => do
      let (course, answers) ← carryOut around outside invocation
      return finish around clock (logLevel invocation) course answers

-----------------------------------------------------------------------------------------
-- What a command needs
-----------------------------------------------------------------------------------------

def firstPaths : Invocation → List Files.Path
  | .solve _ config _ _ _ _ => [config]
  | .check _ => []
  | .proxy config _ => [config]
  | .interactive config _ => [config]
  | .setup directory _ => [reportDirectory directory, configFile directory]

/-- The paths that a command uses once its settings are known. -/
def laterPaths (around : Surroundings) : Invocation → List Files.Path
  | .solve _ config overrides _ true _ =>
      match Settings.gather around config overrides with
      | .ok settings => [reportPath settings.reportDirectory around.time]
      | .error _ => []
  | _ => []

/-- The places that a path leads through, from where it starts. -/
def placesOn (here : Files.Location) : List String → List Files.Location
  | [] => [here]
  | step :: rest =>
      let next :=
        if step = "." then here else if step = ".." then here.dropLast else here ++ [step]
      here :: placesOn next rest

def placesOf (tree : Files.Tree) (paths : List Files.Path) : List Files.Location :=
  paths.flatMap fun path => placesOn (tree.origin path) path.steps

end SatClient.Program
