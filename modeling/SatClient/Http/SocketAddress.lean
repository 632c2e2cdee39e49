import SatClient.Text.Basic
import SatClient.Url.Ipv6

/-! Addresses to listen on: an internet address and a port. Names are not addresses. -/

namespace SatClient

/-- An internet address without a name. -/
inductive NumericHost where
  | four (bytes : List Nat)
  | six (address : Url.Ipv6) (scope : Nat)
  deriving DecidableEq, Repr

structure SocketAddress where
  host : NumericHost
  port : Nat
  deriving DecidableEq, Repr

namespace SocketAddress

/-- A decimal number below a bound, of any number of digits. -/
def number? (bound : Nat) (text : List Char) : Option Nat :=
  if text.isEmpty || !text.all Char.isDigit then none
  else
    let n := text.foldl (fun n c => 10 * n + (c.toNat - 48)) 0
    if n < bound then some n else none

def port? (text : List Char) : Option Nat := number? (Nat.pow 2 16) text

/-- An address of four bytes with points between, and a port behind a colon. -/
def four? (text : List Char) : Option SocketAddress := do
  let (host, port) ← Text.splitFirst? ':' text
  let bytes ← (host.splitOn '.').mapM Url.Ipv6.byte?
  if bytes.length = 4 then some ⟨.four bytes, ← port? port⟩ else none

/-- An address of eight groups in brackets, perhaps with the number of a scope, and a port
behind a colon.
-/
def six? (text : List Char) : Option SocketAddress :=
  match text with
  | '[' :: rest => do
      let (inside, after) ← Text.splitFirst? ']' rest
      let (address, scope) ← match Text.splitFirst? '%' inside with
        | none => some (inside, 0)
        | some (address, scope) => (address, ·) <$> number? (Nat.pow 2 32) scope
      let groups ← Url.Ipv6.parse? address
      match after with
      | ':' :: port => some ⟨.six groups scope, ← port? port⟩
      | _ => none
  | _ => none

def parse? (text : String) : Option SocketAddress :=
  four? text.toList <|> six? text.toList

def badSyntax : String := "invalid socket address syntax"

/-- Whether the machine itself has an address, so that it can listen there. -/
def isLocal (address : SocketAddress) : Bool :=
  match address.host with
  | .four bytes => bytes.head? == some 127 || bytes == [0, 0, 0, 0]
  | .six groups _ => groups.groups.dropLast.all (· == 0) && groups.groups.getLast?.all (· < 2)

end SocketAddress

end SatClient
