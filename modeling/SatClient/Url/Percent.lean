import SatClient.Text.Basic
import SatClient.Text.Utf8

/-! Characters written as bytes behind percent signs. Which characters are written so depends
on the part of the URL they stand in; the characters of a part are never taken back, so that
a percent sign stands for itself.
-/

namespace SatClient.Url

/-- The parts of a URL that may hold arbitrary text. -/
inductive Part where
  | fragment
  | query
  | path
  | userinfo
  deriving DecidableEq, Repr

namespace Part

def isAlwaysEscaped (c : Char) : Bool :=
  c.toNat < 0x20 || 0x7E < c.toNat

/-- The visible characters that a part writes as bytes. -/
def escapedCharacters : Part → List Char
  | fragment => [' ', '"', '<', '>', '`']
  | query => [' ', '"', '#', '<', '>', '\'']
  | path => [' ', '"', '#', '<', '>', '?', '`', '\x7b', '\x7d']
  | userinfo => [' ', '"', '#', '/', ':', ';', '<', '=', '>', '?', '@', '[', '\\', ']', '^', '`',
      '\x7b', '|', '\x7d']

def escapes (part : Part) (c : Char) : Bool :=
  isAlwaysEscaped c || c ∈ part.escapedCharacters

def escapedByte (b : UInt8) : List Char :=
  ['%', Text.hexDigitUpper (b.toNat / 16), Text.hexDigitUpper (b.toNat % 16)]

def escapedChar (part : Part) (c : Char) : List Char :=
  if part.escapes c then (Utf8.encodeChar c).flatMap escapedByte else [c]

def escaped (part : Part) (text : List Char) : List Char :=
  text.flatMap part.escapedChar

end Part

/-- The bytes of a text in which a percent sign before two hexadecimal digits stands for one
byte.
-/
def unescaped : List Char → Utf8.Bytes
  | [] => []
  | '%' :: a :: b :: rest =>
      match Text.hexValue? a, Text.hexValue? b with
      | some high, some low => UInt8.ofNat (16 * high + low) :: unescaped rest
      | _, _ => 0x25 :: unescaped (a :: b :: rest)
  | c :: rest => Utf8.encodeChar c ++ unescaped rest
termination_by text => text.length

end SatClient.Url
