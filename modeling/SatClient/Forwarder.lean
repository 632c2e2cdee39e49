import SatClient.Http.Status
import SatClient.Solver.Client

/-! The forwarder stands between a browser and the solver, so that the browser never learns
where the solver is. A request with a formula is passed on as it is and so is the answer; any
failure on the way gives one and the same answer, which tells nothing about its cause.
-/

namespace SatClient.Forwarder

open Utf8 (Bytes)
open Http (Behaviour Link Request Traced)

def servicePath : String := "/api/solve"

structure Answer where
  status : Nat
  contentType : Option String
  allow : Option String
  body : Bytes
  deriving DecidableEq, Repr

def Answer.json (status : Nat) (body : Bytes) : Answer :=
  ⟨status, some "application/json", none, body⟩

def errorAnswer (status : Nat) (message : String) : Answer :=
  .json status (Utf8.encode (Json.Value.object [("error", .string message)]).compact)

def formulaRequired : Answer := errorAnswer 400 "Formula is required"

/-- The answer to every failure. -/
def internalError : Answer := errorAnswer 500 "Internal server error"

/-- The formula in a request, unless there is none or it counts as none. -/
def requestedFormula (request : Json.Value) : Option Json.Value :=
  (request.get? "formula").filter (·.isTruthy)

def errorEvent (message : String) (details : List (String × String)) : Log.Event :=
  ⟨.error, .forwarder, "Proxy error: " ++ message, details⟩

/-- Pass on what the solver sent, as long as it is JSON. -/
def passThrough (forwarded : Endpoint.Forwarded) : Traced Answer :=
  match Json.checkText forwarded.body with
  | .ok _ => .pure (.json forwarded.status forwarded.body)
  | .error fault =>
      (Traced.pure internalError).log
        (errorEvent
          ("solver answered with non-JSON body: " ++ fault.message forwarded.body)
          [("status", Http.statusText forwarded.status)])

def forwardFormula (endpoint : Endpoint) (behaviour : Behaviour) (formula : Json.Value) :
    Traced Answer :=
  (endpoint.forward behaviour formula).andThen fun
    | .ok forwarded => passThrough forwarded
    | .error fault =>
        (Traced.pure internalError).log (errorEvent fault.message endpoint.details)

def solve (endpoint : Endpoint) (behaviour : Behaviour) (body : Bytes) : Traced Answer :=
  match Json.parse body with
  | .error fault =>
      (Traced.pure internalError).log
        (errorEvent ("unreadable request body: " ++ fault.message body) [])
  | .ok request =>
      match requestedFormula request with
      | none => .pure formulaRequired
      | some formula => forwardFormula endpoint behaviour formula

def maxLength : Nat := 2097152

def tooLong : Answer :=
  ⟨413, some "text/plain; charset=utf-8", none,
    Utf8.ofString "Failed to buffer the request body: length limit exceeded"⟩

/-- The path of a request without its query. -/
def pathOf (target : String) : String :=
  String.ofList (target.toList.takeWhile (· ≠ '?'))

def handle (endpoint : Endpoint) (behaviour : Behaviour) (request : Request) : Traced Answer :=
  if pathOf request.path ≠ servicePath then .pure ⟨404, none, none, []⟩
  else if request.method ≠ "POST" then .pure ⟨405, none, some "POST", []⟩
  else if maxLength < request.body.length then .pure tooLong
  else solve endpoint behaviour request.body

def handleAll (endpoint : Endpoint) (behaviour : Behaviour) :
    List Request → Traced (List Answer)
  | [] => .pure []
  | request :: rest =>
      (handle endpoint behaviour request).andThen fun answer =>
        (handleAll endpoint behaviour rest).map (answer :: ·)

def startEvent (address : String) (endpoint : Endpoint) : Log.Event :=
  ⟨.info, .forwarder,
    "Proxy listening on " ++ address ++ ", forwarding to " ++ endpoint.text, []⟩

def stopEvent (address : String) : Log.Event :=
  ⟨.info, .forwarder, "Proxy on " ++ address ++ " stopped", []⟩

structure Unreached where
  request : Request
  deriving DecidableEq, Repr

/-- Listen at an address, answer requests one after another, and stop. Where no connection
can be made, the first request fails.
-/
def serve (link : Link) (address : String) (endpoint : Endpoint) (behaviour : Behaviour)
    (requests : List Request) : Except Unreached (Traced (List Answer)) :=
  match link, requests with
  | .down, request :: _ => .error ⟨request⟩
  | _, requests =>
      .ok (((Traced.pure ()).log (startEvent address endpoint)).andThen fun _ =>
        (handleAll endpoint (link.carry behaviour) requests).log (stopEvent address))

end SatClient.Forwarder
