import SatClient.Http.Address
import SatClient.Log

/-! One request and what comes back. How servers behave is a value, and so is whether there is any
way to them. A server can send the client on to another one; the client follows, but not for ever.
-/

namespace SatClient.Http

open Utf8 (Bytes)

structure Request where
  method : String
  path : String
  contentType : Option String
  body : Bytes
  deriving DecidableEq, Repr

/-- What a server sends back: the length it promises may differ from that of the body. -/
structure Answer where
  status : Nat
  promised : Nat
  body : Bytes
  deriving DecidableEq, Repr

/-- How a server sends a client on. -/
inductive Redirection where
  /-- The same request is to be made elsewhere, as with 307 and 308. -/
  | repeats
  /-- The answer is to be fetched elsewhere, as with 301, 302 and 303. -/
  | fetches
  deriving DecidableEq, Repr

/-- What a server does with a request. -/
inductive Behaviour where
  /-- Nobody listens there. -/
  | unreachable
  /-- The request is read, and the connection closed. -/
  | closes
  /-- Any answer that a client does not follow, whether or not it names another place. -/
  | answers (answer : Answer)
  /-- The client is sent on to where a server behaves as `next` says. -/
  | redirects (redirection : Redirection) (address : Address) (next : Behaviour)
  deriving DecidableEq, Repr

/-- Whether connections can be made at all. -/
inductive Link where
  | down
  | up
  deriving DecidableEq, Repr

def Link.carry : Link → Behaviour → Behaviour
  | down, _ => .unreachable
  | up, behaviour => behaviour

/-- Why nothing comes back. -/
inductive Fault where
  | building (url : String)
  | sending (url : String)
  | redirecting (url : String)
  | reading
  deriving DecidableEq, Repr

def Fault.message : Fault → String
  | building url => "builder error for url (" ++ url ++ ")"
  | sending url => "error sending request for url (" ++ url ++ ")"
  | redirecting url => "error following redirect for url (" ++ url ++ ")"
  | reading => "error decoding response body"

/-- The first line and the body of what comes back; the body may turn out to be cut short. -/
structure Reply where
  status : Nat
  body : Except Fault Bytes
  deriving Repr

def isSuccess (status : Nat) : Bool := 200 ≤ status && status < 300

/-- Whether a status stands on an answer. Those below 200 stand on mere notices, save for the
one that leaves the protocol; no status has more than three digits.
-/
def isFinal (status : Nat) : Bool := status == 101 || (200 ≤ status && status < 1000)

/-- Whether no body follows a status, whatever length is promised. -/
def isBodiless (status : Nat) : Bool := status == 101 || status == 204 || status == 304

/-- What the client makes of an answer. Nothing follows a notice. -/
def Answer.reply (answer : Answer) (url : String) : Except Fault Reply :=
  if !isFinal answer.status then .error (.sending url)
  else if isBodiless answer.status then .ok ⟨answer.status, .ok []⟩
  else if answer.body.length < answer.promised then .ok ⟨answer.status, .error .reading⟩
  else .ok ⟨answer.status, .ok (answer.body.take answer.promised)⟩

/-- How many times the client lets itself be sent on. -/
def maxRedirects : Nat := 10

def Request.onward (request : Request) (redirection : Redirection) (address : Address) : Request :=
  match redirection with
  | .repeats => { request with path := address.target }
  | .fetches => ⟨"GET", address.target, none, []⟩

namespace Behaviour

/-- What comes back to a client that may still be sent on some number of times. -/
def reply : Nat → String → Behaviour → Except Fault Reply
  | _, url, unreachable => .error (.sending url)
  | _, url, closes => .error (.sending url)
  | _, url, answers answer => answer.reply url
  | 0, url, redirects .. => .error (.redirecting url)
  | more + 1, _, redirects _ address next => next.reply more address.url

/-- The requests that servers get from such a client. -/
def gets : Nat → Request → Behaviour → List Request
  | _, _, unreachable => []
  | _, request, closes => [request]
  | _, request, answers _ => [request]
  | 0, request, redirects .. => [request]
  | more + 1, request, redirects redirection address next =>
      request :: next.gets more (request.onward redirection address)

end Behaviour

/-- A value, and what happened on the way to it: the requests that were sent, those that servers
got, and what was logged. What the client sends on its own to follow a server is not among the
requests that were sent.
-/
structure Traced (α : Type) where
  value : α
  sent : List Request
  received : List Request
  trail : Log.Trail

namespace Traced

def pure (value : α) : Traced α := ⟨value, [], [], []⟩

/-- The value of a computation after another one, and the traces of both. -/
def andThen (first : Traced α) (next : α → Traced β) : Traced β :=
  let second := next first.value
  ⟨second.value, first.sent ++ second.sent, first.received ++ second.received,
    first.trail ++ second.trail⟩

/-- The same trace with another value. -/
def map (f : α → β) (traced : Traced α) : Traced β :=
  { traced with value := f traced.value }

/-- The same value after one more event. -/
def log (event : Log.Event) (traced : Traced α) : Traced α :=
  { traced with trail := traced.trail ++ [event] }

end Traced

/-- Send a request to an endpoint, unless it is none for requests. -/
def send (behaviour : Behaviour) (endpoint : Endpoint) (request : Request) :
    Traced (Except Fault Reply) :=
  match endpoint.address? with
  | none => .pure (.error (.building endpoint.bare.text))
  | some address =>
      ⟨behaviour.reply maxRedirects address.url, [request],
        behaviour.gets maxRedirects request, []⟩

end SatClient.Http
