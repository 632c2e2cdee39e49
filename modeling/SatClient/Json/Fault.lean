import SatClient.Text.Utf8

/-! Why reading JSON stopped, and where. A fault keeps the number of bytes that were still
ahead of the reader; the line and the column follow from the whole input.
-/

namespace SatClient.Json

open Utf8 (Bytes)

/-- What is wrong with a JSON text or with the value it holds. -/
inductive Cause where
  | endInValue
  | endInString
  | endInList
  | endInObject
  | expectedColon
  | expectedListCommaOrEnd
  | expectedObjectCommaOrEnd
  | expectedWord
  | expectedValue
  | invalidEscape
  | invalidNumber
  | numberOutOfRange
  | invalidCodePoint
  | controlCharacter
  | keyMustBeString
  | loneSurrogate
  | trailingComma
  | trailingCharacters
  | endOfSurrogatePair
  | tooDeep
  | wrongType (found expected : String)
  | duplicateField (name : String)
  deriving DecidableEq, Repr

def Cause.message : Cause → String
  | endInValue => "EOF while parsing a value"
  | endInString => "EOF while parsing a string"
  | endInList => "EOF while parsing a list"
  | endInObject => "EOF while parsing an object"
  | expectedColon => "expected `:`"
  | expectedListCommaOrEnd => "expected `,` or `]`"
  | expectedObjectCommaOrEnd => "expected `,` or `\x7d`"
  | expectedWord => "expected ident"
  | expectedValue => "expected value"
  | invalidEscape => "invalid escape"
  | invalidNumber => "invalid number"
  | numberOutOfRange => "number out of range"
  | invalidCodePoint => "invalid unicode code point"
  | controlCharacter => "control character (\\u0000-\\u001F) found while parsing a string"
  | keyMustBeString => "key must be a string"
  | loneSurrogate => "lone leading surrogate in hex escape"
  | trailingComma => "trailing comma"
  | trailingCharacters => "trailing characters"
  | endOfSurrogatePair => "unexpected end of hex escape"
  | tooDeep => "recursion limit exceeded"
  | wrongType found expected => "invalid type: " ++ found ++ ", expected " ++ expected
  | duplicateField name => "duplicate field `" ++ name ++ "`"

/-- A cause, and the number of bytes that the reader had ahead of it. -/
structure Fault where
  cause : Cause
  left : Nat
  deriving DecidableEq, Repr

/-- A place in a text: the line, counted from one, and the bytes since its start. -/
structure Position where
  line : Nat
  column : Nat
  deriving DecidableEq, Repr

def Position.after (bytes : Bytes) : Position :=
  bytes.foldl (fun p b => if b == 10 then ⟨p.line + 1, 0⟩ else ⟨p.line, p.column + 1⟩) ⟨1, 0⟩

def Fault.position (fault : Fault) (input : Bytes) : Position :=
  Position.after (input.take (input.length - fault.left))

def Fault.message (fault : Fault) (input : Bytes) : String :=
  let place := fault.position input
  fault.cause.message ++ " at line " ++ toString place.line ++ " column "
    ++ toString place.column

/-- A reader takes bytes from the front, or stops with a fault. -/
abbrev Reader (α : Type) := Bytes → Except Fault (α × Bytes)

/-- Stop with a fault at the byte last read. -/
def faultAt (cause : Cause) (rest : Bytes) : Fault := ⟨cause, rest.length⟩

/-- Stop with a fault at the byte to be read next; at the end of the input, at the last one. -/
def faultAhead (cause : Cause) (rest : Bytes) : Fault := ⟨cause, rest.length - 1⟩

/-- The four bytes that may stand between two parts of a JSON text. -/
def isSpace (b : UInt8) : Bool :=
  b == 0x20 || b == 0x0A || b == 0x09 || b == 0x0D

def skipSpace (rest : Bytes) : Bytes := rest.dropWhile isSpace

def isDigit (b : UInt8) : Bool := 0x30 ≤ b && b ≤ 0x39

def byte (c : Char) : UInt8 := UInt8.ofNat c.toNat

end SatClient.Json
