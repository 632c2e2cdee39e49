import SatClient.Display.Result
import SatClient.Display.SavedReport
import SatClient.Formula.SyntaxError
import SatClient.Program.Course

/-! The commands for a single formula: one only checks it, the other sends it to the solver. -/

namespace SatClient.Program

-----------------------------------------------------------------------------------------
-- Checking
-----------------------------------------------------------------------------------------

def variablesLine (checked : Checked) : String :=
  "Variables: "
    ++ if checked.atoms.isEmpty then "none" else ", ".intercalate checked.atoms

/-- Check a formula, and show its variables or what is wrong with it. -/
def check (around : Surroundings) (text : String) : Course :=
  let paint := around.paint
  let course := Course.start around.files
  match checkText text with
  | .ok checked =>
      (course.print (paint.success "✅ Formula is well-formed")).print (variablesLine checked)
  | .error fault =>
      ((course.print (paint.error "❌ Formula is not well-formed")).print
        (pointer text fault.offset?)).fail (.plain fault.message)

-----------------------------------------------------------------------------------------
-- Asking
-----------------------------------------------------------------------------------------

/-- How a formula is to be sent, and what is to be done with the answer. -/
structure SolveOptions where
  skipsCheck : Bool
  saves : Bool
  isVerbose : Bool
  deriving DecidableEq, Repr

/-- The event logged for a formula that is sent although it fails the check. -/
def uncheckedEvent (fault : SyntaxError) : Log.Event :=
  ⟨.warn, .program,
    "Formula does not match the grammar (" ++ fault.message ++ "), sending it anyway", []⟩

def rejection (fault : SyntaxError) : Explanation :=
  .plain ("Formula rejected locally: " ++ fault.message
    ++ " (use --skip-check to send it anyway)")

/-- What the check of a formula leads to: it is sent, perhaps without having been checked,
unless it has to pass.
-/
def guard (formula : Formula) (skipsCheck : Bool) :
    Except SyntaxError (Option Checked × Log.Trail) :=
  match formula.check with
  | .ok checked => .ok (some checked, [])
  | .error fault => if skipsCheck then .ok (none, [uncheckedEvent fault]) else .error fault

def ruleName : UnsatRule → String
  | .sentinel => "Sentinel"
  | .anyFalse => "AnyFalse"

def formatName : OutputFormat → String
  | .text => "Text"
  | .json => "Json"

def configurationLines (settings : Settings) (endpoint : Endpoint) : List String :=
  ["Configuration:", "  Endpoint: " ++ endpoint.text,
    "  UNSAT rule: " ++ ruleName settings.rule,
    "  Output format: " ++ formatName settings.format, ""]

def delayLine (millis : Nat) : String :=
  "Answered in " ++ toString (millis / 1000) ++ "." ++ padded 3 (millis % 1000) ++ "s"

def outcomeText (format : OutputFormat) (paint : Paint) (formula : Formula) (outcome : Outcome)
    (checked : Option Checked) : String :=
  match format with
  | .text => outcome.render paint formula checked
  | .json => outcome.renderJson formula checked

def save (course : Course) (around : Surroundings) (settings : Settings) (formula : Formula)
    (response : Response) : Course :=
  let directory := settings.reportDirectory
  let attempt := saveReport course.files directory around.time
    (reportContent formula response around.time)
  let course := course.keep attempt.tree
  match attempt.fault with
  | some fault => course.fail (.within "Failed to save result" fault.explain)
  | none =>
      course.printIf (settings.format = .text)
        [around.paint.success
          ("💾 Result saved to " ++ (reportPath directory around.time).text)]

def ask (course : Course) (around : Surroundings) (settings : Settings) (options : SolveOptions)
    (endpoint : Endpoint) (formula : Formula) (checked : Option Checked) : Course :=
  let paint := around.paint
  let course := course.printIf options.isVerbose (configurationLines settings endpoint)
  let course := course.printIf (settings.format = .text) [paint.info "🧮 Solving..."]
  let answer := endpoint.solve around.behaviour formula
  let outcome := Outcome.ofResponse settings.rule answer.value
  let course := course.trace answer
  let course := course.print (outcomeText settings.format paint formula outcome checked)
  let course := course.printIf options.isVerbose [delayLine around.delay]
  if options.saves then save course around settings formula answer.value else course

/-- Send a formula under some settings, if it is one and passes the check. -/
def solveWith (course : Course) (around : Surroundings) (settings : Settings)
    (options : SolveOptions) (text : String) : Course :=
  match Formula.ofString? text with
  | none => course.fail (.plain Formula.blankMessage)
  | some formula =>
      match guard formula options.skipsCheck with
      | .error fault => (course.warn (pointer text fault.offset?)).fail (rejection fault)
      | .ok (checked, trail) =>
          let course := course.log trail
          match settings.endpoint with
          | .error explanation => course.fail explanation
          | .ok endpoint => ask course around settings options endpoint formula checked

def solve (around : Surroundings) (config : Files.Path) (overrides : Overrides)
    (options : SolveOptions) (text : String) : Course :=
  let course := (Course.start around.files).log (Settings.readTrail around.files config)
  match Settings.gather around config overrides with
  | .error explanation => course.fail explanation
  | .ok settings => solveWith course around settings options text

end SatClient.Program
