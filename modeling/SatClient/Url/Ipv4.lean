import SatClient.Text.Basic

/-! Internet addresses of the fourth version. A host that ends in a number is one: up to four
numbers, each decimal, octal or hexadecimal, of which the last fills all the bytes that are
left.
-/

namespace SatClient.Url

/-- An address as a number of 32 bits. -/
structure Ipv4 where
  value : Nat
  deriving DecidableEq, Repr

namespace Ipv4

/-- A number whose first characters tell its base. -/
def number? : List Char → Option Nat
  | [] => none
  | '0' :: 'x' :: rest | '0' :: 'X' :: rest => Text.ofDigits? 16 rest
  | '0' :: rest => Text.ofDigits? 8 rest
  | text => Text.ofDigits? 10 text

/-- The last part of a host, the one before its closing point if there is one. -/
def lastPart (host : List Char) : List Char :=
  match (host.splitOn '.').reverse with
  | [] :: before :: _ => before
  | last :: _ => last
  | [] => []

/-- Whether a host has to be read as an address: its last part is a number, or is made of
digits.
-/
def endsInNumber (host : List Char) : Bool :=
  let last := lastPart host
  !last.isEmpty && (last.all Char.isDigit || (number? last).isSome)

def parts (host : List Char) : List (List Char) :=
  match (host.splitOn '.').reverse with
  | [] :: rest => rest.reverse
  | all => all.reverse

/-- Put numbers together: each but the last one is a byte, and the last one fills the
`room` bytes left.
-/
def combine? (value : Nat) : (room : Nat) → List Nat → Option Nat
  | room + 1, [last] =>
      if last < Nat.pow 256 (room + 1) then some (value * Nat.pow 256 (room + 1) + last)
      else none
  | room + 1, byte :: rest =>
      if byte < 256 then combine? (value * 256 + byte) room rest else none
  | _, _ => none

def parse? (host : List Char) : Option Ipv4 := do
  let numbers ← (parts host).mapM number?
  Ipv4.mk <$> combine? 0 4 numbers

def text (address : Ipv4) : List Char :=
  let byte (i : Nat) := (toString (address.value / Nat.pow 256 i % 256)).toList
  ['.'].intercalate [byte 3, byte 2, byte 1, byte 0]

end Ipv4

end SatClient.Url
