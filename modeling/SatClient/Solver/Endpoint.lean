import SatClient.Text.Basic
import SatClient.Url.Basic

/-! Where the solver listens: the configured base URL with the path of the service behind it.
Blanks around the base URL and slashes at its end do not matter.
-/

namespace SatClient

structure Endpoint where
  scheme : Url.Network
  place : Url.Place
  isWeb : scheme = .http ∨ scheme = .https
  deriving DecidableEq, Repr

/-- Why a base URL leads to no endpoint. -/
inductive Endpoint.Reason where
  | malformed (fault : Url.Fault)
  | unsupported (scheme : String)
  deriving DecidableEq, Repr

def Endpoint.Reason.message : Endpoint.Reason → String
  | malformed fault => fault.message
  | unsupported scheme => "unsupported scheme '" ++ scheme ++ "'"

structure BadBaseUrl where
  baseUrl : String
  reason : Endpoint.Reason
  deriving DecidableEq, Repr

def BadBaseUrl.message (bad : BadBaseUrl) : String :=
  "invalid solver base URL '" ++ bad.baseUrl ++ "': " ++ bad.reason.message

namespace Endpoint

def servicePath : List Char := "/marina".toList

/-- The base URL with the path of the service behind it. -/
def join (baseUrl : String) : String :=
  String.ofList (Text.dropEndWhile (· == '/') (Text.trim baseUrl.toList) ++ servicePath)

def ofUrl : Url → Except Reason Endpoint
  | .server scheme place =>
      if h : scheme = .http ∨ scheme = .https then .ok ⟨scheme, place, h⟩
      else .error (.unsupported scheme.text)
  | .other scheme => .error (.unsupported scheme)

def ofBaseUrl (baseUrl : String) : Except BadBaseUrl Endpoint :=
  match Url.parse (join baseUrl) with
  | .error fault => .error ⟨baseUrl, .malformed fault⟩
  | .ok url =>
      match ofUrl url with
      | .error reason => .error ⟨baseUrl, reason⟩
      | .ok endpoint => .ok endpoint

def text (endpoint : Endpoint) : String :=
  Url.serverText endpoint.scheme endpoint.place

end Endpoint

end SatClient
