import SatClient.Settings.Basic
import SatClient.Solver.Client

/-! From a text to the meaning of the solver's answer: the text is checked first, and sent only
if it is a formula.
-/

namespace SatClient

open Http (Behaviour Traced)

/-- Why a text is not sent. -/
inductive Unasked where
  | blank
  | malformed (fault : SyntaxError)
  | badBaseUrl (bad : BadBaseUrl)
  deriving DecidableEq, Repr

namespace Settings

/-- The formula that is sent for a text, and the place it is sent to. -/
def prepare (settings : Settings) (text : String) : Except Unasked (Formula × Endpoint) :=
  match Formula.ofString? text with
  | none => .error .blank
  | some formula =>
      match formula.check with
      | .error fault => .error (.malformed fault)
      | .ok _ =>
          match Endpoint.ofBaseUrl settings.baseUrl with
          | .error bad => .error (.badBaseUrl bad)
          | .ok endpoint => .ok (formula, endpoint)

def solve (settings : Settings) (behaviour : Behaviour) (text : String) :
    Traced (Except Unasked Outcome) :=
  match settings.prepare text with
  | .error unasked => .pure (.error unasked)
  | .ok (formula, endpoint) =>
      (endpoint.solve behaviour formula).map fun response =>
        .ok (Outcome.ofResponse settings.rule response)

/-- The outcome for a text with the trace that it left, unless the text was not sent. -/
def ask (settings : Settings) (behaviour : Behaviour) (text : String) :
    Except Unasked (Traced Outcome) :=
  let answer := settings.solve behaviour text
  answer.value.map fun outcome => answer.map fun _ => outcome

end Settings

end SatClient
