import SatClient.Json.Fault
import SatClient.Text.Printable

/-! String literals of JSON: writing a text between quotes, and reading the bytes up to the
closing quote, escapes resolved.
-/

namespace SatClient.Json

open Utf8 (Bytes)

def escapedChar (c : Char) : List Char :=
  match c with
  | '"' => ['\\', '"']
  | '\\' => ['\\', '\\']
  | '\x08' => ['\\', 'b']
  | '\x0c' => ['\\', 'f']
  | '\n' => ['\\', 'n']
  | '\r' => ['\\', 'r']
  | '\t' => ['\\', 't']
  | c =>
      if c.toNat < 0x20 then
        ['\\', 'u', '0', '0', Text.hexDigit (c.toNat / 16), Text.hexDigit (c.toNat % 16)]
      else [c]

def literal (text : List Char) : List Char :=
  '"' :: text.flatMap escapedChar ++ ['"']

def hexValue? (b : UInt8) : Option Nat :=
  Text.hexValue? (Char.ofNat b.toNat)

def hexFour : Reader Nat
  | a :: b :: c :: d :: rest =>
      match hexValue? a, hexValue? b, hexValue? c, hexValue? d with
      | some a, some b, some c, some d => .ok (((a * 16 + b) * 16 + c) * 16 + d, rest)
      | _, _, _, _ => .error (faultAt .invalidEscape rest)
  | _ => .error (faultAt .endInString [])

/-- The first half of a surrogate pair. -/
def isHighSurrogate (n : Nat) : Bool := 0xD800 ≤ n && n ≤ 0xDBFF

def isLowSurrogate (n : Nat) : Bool := 0xDC00 ≤ n && n ≤ 0xDFFF

/-- One given byte, where the second half of a surrogate pair has to follow. -/
def pairByte (expected : UInt8) : Reader Unit
  | [] => .error (faultAt .endInString [])
  | b :: rest =>
      if b == expected then .ok ((), rest) else .error (faultAt .endOfSurrogatePair rest)

/-- The second half of a surrogate pair, written as an escape of its own. -/
def lowSurrogate (high : Nat) : Reader Bytes := fun rest => do
  let (_, rest) ← pairByte (byte '\\') rest
  let (_, rest) ← pairByte (byte 'u') rest
  let (low, rest) ← hexFour rest
  if isLowSurrogate low then
    let n := (high - 0xD800) * 0x400 + (low - 0xDC00) + 0x10000
    .ok (Utf8.encodeChar (Char.ofNat n), rest)
  else .error (faultAt .loneSurrogate rest)

/-- The character of a numbered escape, after its letter. -/
def numberedEscape : Reader Bytes := fun rest => do
  let (n, rest) ← hexFour rest
  if isLowSurrogate n then .error (faultAt .loneSurrogate rest)
  else if isHighSurrogate n then lowSurrogate n rest
  else .ok (Utf8.encodeChar (Char.ofNat n), rest)

def shortEscape? (b : UInt8) : Option Char :=
  if b == byte '"' then some '"'
  else if b == byte '\\' then some '\\'
  else if b == byte '/' then some '/'
  else if b == byte 'b' then some '\x08'
  else if b == byte 'f' then some '\x0c'
  else if b == byte 'n' then some '\n'
  else if b == byte 'r' then some '\r'
  else if b == byte 't' then some '\t'
  else none

/-- The bytes of the character that an escape stands for, after its backslash. -/
def escape : Reader Bytes
  | [] => .error (faultAt .endInString [])
  | b :: rest =>
      match shortEscape? b with
      | some c => .ok (Utf8.encodeChar c, rest)
      | none =>
          if b == byte 'u' then numberedEscape rest
          else .error (faultAt .invalidEscape rest)

/-- The bytes of a string literal up to its closing quote, last byte first. The quote is left
in place. The fuel is the number of bytes ahead.
-/
def literalBytes : Nat → Bytes → Reader Bytes
  | _, _, [] => .error (faultAt .endInString [])
  | 0, _, rest => .error (faultAt .endInString rest)
  | fuel + 1, taken, b :: rest =>
      if b == byte '"' then .ok (taken, b :: rest)
      else if b == byte '\\' then do
        let (bytes, rest) ← escape rest
        literalBytes fuel (bytes.reverse ++ taken) rest
      else if b < 0x20 then .error (faultAt .controlCharacter rest)
      else literalBytes fuel (b :: taken) rest

/-- The text of a string literal, after its opening quote. -/
def readLiteral : Reader String := fun rest => do
  let (taken, rest) ← literalBytes rest.length [] rest
  match Utf8.toString? taken.reverse with
  | some text => .ok (text, rest.drop 1)
  | none => .error (faultAt .invalidCodePoint rest)

/-- An escape passed over, after its backslash: surrogates are not paired. -/
def skipEscape : Reader Unit
  | [] => .error (faultAt .endInString [])
  | b :: rest =>
      if (shortEscape? b).isSome then .ok ((), rest)
      else if b == byte 'u' then do
        let (_, rest) ← hexFour rest
        .ok ((), rest)
      else .error (faultAt .invalidEscape rest)

/-- A string literal passed over with the given fuel, after its opening quote. -/
def skipLiteralLoop : Nat → Reader Unit
  | _, [] => .error (faultAt .endInString [])
  | 0, rest => .error (faultAt .endInString rest)
  | fuel + 1, b :: rest =>
      if b == byte '"' then .ok ((), rest)
      else if b == byte '\\' then do
        let (_, rest) ← skipEscape rest
        skipLiteralLoop fuel rest
      else if b < 0x20 then .error (faultAt .controlCharacter (b :: rest))
      else skipLiteralLoop fuel rest

/-- A string literal passed over, after its opening quote. Its bytes need not be a text. -/
def skipLiteral : Reader Unit := fun rest => skipLiteralLoop rest.length rest

end SatClient.Json
