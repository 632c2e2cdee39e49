import SatClient.Display.Paint
import SatClient.Formula.Basic
import SatClient.Outcome.Basic

/-! An outcome as it is shown: as text for a terminal, or as JSON. Variables of the formula
that a satisfying assignment leaves out may have any value, and are listed.
-/

namespace SatClient

namespace Outcome

/-- The variables of a checked formula that a satisfying assignment does not name. -/
def unconstrained (outcome : Outcome) (checked : Option Checked) : List String :=
  match outcome, checked with
  | .satisfiable bindings, some checked =>
      checked.atoms.filter fun atom => !bindings.any (·.name == atom)
  | _, _ => []

/-- The line with the verdict, and the line below it. -/
def heading (paint : Paint) : Outcome → String × String
  | .satisfiable _ => (paint.success "✅ Satisfiable", "Valid assignment found")
  | .unsatisfiable _ => (paint.error "❌ Unsatisfiable", "No valid assignment exists")
  | .error _ => (paint.error "⚠️  Error", "Parsing error occurred")

def bindingLine (paint : Paint) (binding : Binding) : String :=
  let value := if binding.value then paint.success "true" else paint.error "false"
  "  " ++ paint.name binding.name ++ " = " ++ value ++ "\n"

def emptyLine (paint : Paint) : Outcome → String
  | .unsatisfiable _ => "  " ++ paint.error "No assignment exists (UNSAT)" ++ "\n"
  | _ => "  (no variables constrained)\n"

def conclusion (outcome : Outcome) (checked : Option Checked) : String :=
  if outcome.isSatisfiable then
    let free := outcome.unconstrained checked
    (if free.isEmpty then ""
      else "Unconstrained: " ++ ", ".intercalate free ++ " (any value)\n")
      ++ "\nThe formula is satisfiable with the above assignment. "
      ++ "Variables not shown can have any value.\n"
  else "\nThe formula is unsatisfiable. No variable assignment makes it true.\n"

def render (paint : Paint) (formula : Formula) (outcome : Outcome) (checked : Option Checked) :
    String :=
  let (verdict, subtitle) := outcome.heading paint
  let top := verdict ++ "\n" ++ subtitle ++ "\n\n" ++ "Formula: " ++ formula.text ++ "\n"
  match outcome with
  | .error message => top ++ paint.error message ++ "\n"
  | _ =>
      let lines :=
        if outcome.bindings.isEmpty then outcome.emptyLine paint
        else String.join (outcome.bindings.map (bindingLine paint))
      top ++ "Assignment:\n" ++ lines ++ outcome.conclusion checked

def report (formula : Formula) (outcome : Outcome) (checked : Option Checked) : Json.Value :=
  let free := outcome.unconstrained checked
  .object (("formula", .string formula.text) :: outcome.members
    ++ (if free.isEmpty then []
      else [("unconstrained", .array (free.map Json.Value.string))]))

def renderJson (formula : Formula) (outcome : Outcome) (checked : Option Checked) : String :=
  (outcome.report formula checked).renderPretty

end Outcome

end SatClient
