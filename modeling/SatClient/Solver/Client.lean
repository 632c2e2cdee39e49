import SatClient.Formula.Basic
import SatClient.Http.Exchange
import SatClient.Solver.Message

/-! Asking the solver. Every question is one request, and it is never repeated. -/

namespace SatClient

open Utf8 (Bytes)
open Http (Behaviour Reply Request Traced)

inductive SolverFault where
  | status (code : Nat)
  | network (fault : Http.Fault)
  | malformed (fault : Json.Fault) (body : Bytes)
  deriving DecidableEq, Repr

def SolverFault.message : SolverFault → String
  | status code => "HTTP error! status: " ++ toString code
  | network fault => "Network error occurred: " ++ fault.message
  | malformed fault body => "Malformed response from solver: " ++ fault.message body

namespace Endpoint

def details (endpoint : Endpoint) : List (String × String) :=
  [("endpoint", endpoint.text)]

def request (endpoint : Endpoint) (prop : Json.Value) : Request :=
  ⟨"POST", endpoint.place.target, some "application/json", requestBody prop⟩

def postingEvent (endpoint : Endpoint) : Log.Event :=
  ⟨.debug, .client, "posting formula to solver", endpoint.details⟩

def post (endpoint : Endpoint) (behaviour : Behaviour) (prop : Json.Value) :
    Traced (Except Http.Fault Reply) :=
  ((Traced.pure ()).log endpoint.postingEvent).andThen fun _ =>
    Http.send behaviour endpoint (endpoint.request prop)

/-- The answer in what comes back. -/
def readReply : Except Http.Fault Reply → Except SolverFault Response
  | .error fault => .error (.network fault)
  | .ok reply =>
      if !Http.isSuccess reply.status then .error (.status reply.status)
      else
        match reply.body with
        | .error fault => .error (.network fault)
        | .ok body => (Response.decode body).mapError (.malformed · body)

def trySolve (endpoint : Endpoint) (behaviour : Behaviour) (text : String) :
    Traced (Except SolverFault Response) :=
  (endpoint.post behaviour (.string text)).map readReply

def faultEvent (endpoint : Endpoint) (fault : SolverFault) : Log.Event :=
  ⟨.error, .client, "error solving SAT: " ++ fault.message, endpoint.details⟩

def settle (endpoint : Endpoint) : Except SolverFault Response → Traced Response
  | .ok response => .pure response
  | .error fault => (Traced.pure (.failure fault.message)).log (endpoint.faultEvent fault)

/-- Ask about a formula; a fault becomes the error of the answer. -/
def solve (endpoint : Endpoint) (behaviour : Behaviour) (formula : Formula) : Traced Response :=
  (endpoint.trySolve behaviour formula.text).andThen endpoint.settle

/-- A status and a body as the solver sent them. -/
structure Forwarded where
  status : Nat
  body : Bytes
  deriving DecidableEq, Repr

def forward (endpoint : Endpoint) (behaviour : Behaviour) (prop : Json.Value) :
    Traced (Except Http.Fault Forwarded) :=
  (endpoint.post behaviour prop).map fun result => do
    let reply ← result
    let body ← reply.body
    return ⟨reply.status, body⟩

end Endpoint

end SatClient
