import SatClient.Solver.Endpoint
import SatClient.Text.Utf8

/-! Where a client sends requests. Not every URL will do: the text of a request's URL is bounded,
and some characters that the host of a URL may hold may not stand in one. Credentials are taken out
of the URL before, and sent beside it.
-/

namespace SatClient

/-- Whether credentials are sent beside the URL. The name has to be a text, and there has to be one
or else a password that is a text.
-/
def Url.Credentials.areTexts (credentials : Url.Credentials) : Bool :=
  let isText (written : List Char) := (Utf8.decode? (Url.unescaped written)).isSome
  isText credentials.username
    && (!credentials.username.isEmpty
      || (!credentials.password.isEmpty && isText credentials.password))

namespace Endpoint

/-- An endpoint as it stands in a request. -/
def bare (endpoint : Endpoint) : Endpoint :=
  if endpoint.place.credentials.areTexts then
    { endpoint with place := { endpoint.place with credentials := ⟨[], []⟩ } }
  else endpoint

/-- The greatest size of a URL in a request, in bytes. -/
def maxSize : Nat := 65534

/-- Whether a character may stand in the host of a URL in a request. -/
def isHostChar (c : Char) : Bool :=
  c.isAlphanum || c ∈ "!$&'()*+,-.:;=[]_~".toList

def takesRequests (endpoint : Endpoint) : Bool :=
  endpoint.text.utf8ByteSize ≤ maxSize && endpoint.place.host.text.all isHostChar

end Endpoint

namespace Http

/-- An endpoint that a request can be sent to. -/
structure Address where
  endpoint : Endpoint
  takesRequests : endpoint.takesRequests = true
  deriving DecidableEq, Repr

def Address.url (address : Address) : String := address.endpoint.text

def Address.target (address : Address) : String := address.endpoint.place.target

end Http

/-- Where requests to an endpoint are sent, if they can be sent at all. -/
def Endpoint.address? (endpoint : Endpoint) : Option Http.Address :=
  if takes : endpoint.bare.takesRequests = true then some ⟨endpoint.bare, takes⟩ else none

theorem Endpoint.address?_of_takesRequests {endpoint : Endpoint}
    (takes : endpoint.bare.takesRequests = true)
    : endpoint.address? = some ⟨endpoint.bare, takes⟩ :=
  dif_pos takes

theorem Endpoint.address?_of_not_takesRequests {endpoint : Endpoint}
    (refuses : endpoint.bare.takesRequests = false)
    : endpoint.address? = none :=
  dif_neg (ne_true_of_eq_false refuses)

end SatClient
