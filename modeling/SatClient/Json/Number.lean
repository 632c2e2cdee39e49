import SatClient.Json.Fault
import SatClient.Number.Shortest

/-! Numbers of JSON. Whole numbers of 64 bits are kept exactly; every other number becomes a
binary floating-point number. Its significand is cut to 64 bits and then multiplied or
divided by a rounded power of ten, so that the last place may differ from the nearest
number.
-/

namespace SatClient.Json

open Utf8 (Bytes)

/-- A number: whole and not negative, whole and negative by its absolute value, or neither. -/
inductive Number where
  | natural (n : Nat)
  | negative (n : Nat)
  | float (x : Binary64)
  deriving DecidableEq, Repr

def maxSignificand : Nat := Nat.pow 2 64 - 1

/-- The greatest exponent that is read digit by digit. -/
def maxReadExponent : Nat := Nat.pow 2 31 - 1

/-- The greatest power of ten with a floating-point number of its own. -/
def maxPower : Nat := 308

def powerOfTen (exponent : Nat) : Binary64 :=
  (Binary64.ofNat? (Nat.pow 10 exponent)).getD .zero

namespace Number

/-- The text of a floating-point number: plain from `1e-5` on and below `1e16`, otherwise with
an exponent.
-/
def floatText (x : Binary64) : List Char :=
  let sign := if x.negative then ['-'] else []
  if x.isZero then sign ++ ['0', '.', '0']
  else
    let decimal := Shortest.ofBinary64 x
    if -5 < decimal.point && decimal.point ≤ 16 then sign ++ decimal.positional
    else sign ++ decimal.scientific

def text : Number → List Char
  | natural n => (toString n).toList
  | negative n => '-' :: (toString n).toList
  | float x => floatText x

def isZero : Number → Bool
  | natural n => n == 0
  | negative n => n == 0
  | float x => x.isZero

end Number

def digitValue (b : UInt8) : Nat := b.toNat - 0x30

def startsWithDigit : Bytes → Bool
  | b :: _ => isDigit b
  | [] => false

def startsWithExponent : Bytes → Bool
  | b :: _ => b == byte 'e' || b == byte 'E'
  | [] => false

/-- A significand times a power of ten beyond the table: division in steps, until nothing is
left. Three steps exhaust every number.
-/
def scaleDown (x : Binary64) (exponent : Nat) : Nat → Binary64
  | 0 => .zero
  | fuel + 1 =>
      if exponent ≤ maxPower then (x.div? (powerOfTen exponent)).getD .zero
      else
        let y := (x.div? (powerOfTen maxPower)).getD .zero
        if y.isZero then y else scaleDown y (exponent - maxPower) fuel

/-- The number `significand * 10 ^ exponent`, unless it is too large. -/
def assemble? (significand : Nat) (exponent : Int) : Option Binary64 := do
  let x ← Binary64.ofNat? significand
  if exponent < 0 then some (scaleDown x exponent.natAbs 4)
  else if exponent.toNat ≤ maxPower then x.mul? (powerOfTen exponent.toNat)
  else if x.isZero then some x
  else none

/-- A floating-point number from its parts, at the place where its text ends. -/
def assemble (isNegative : Bool) (significand : Nat) (exponent : Int) : Reader Number :=
  fun rest =>
    match assemble? significand exponent with
    | some x => .ok (.float (if isNegative then x.neg else x), rest)
    | none => .error (faultAt .numberOutOfRange rest)

/-- An exponent too long to be read: the result is zero or too large. -/
def hugeExponent (isNegative isZero raises : Bool) : Reader Number := fun rest =>
  if !isZero && raises then .error (faultAt .numberOutOfRange (rest.drop 1))
  else .ok (.float (if isNegative then Binary64.zero.neg else .zero), rest.dropWhile isDigit)

/-- The digits of an exponent; `value` is what was read of it. -/
def exponentDigits (isNegative : Bool) (significand : Nat) (start : Int) (raises : Bool)
    (value : Nat) : Reader Number
  | [] => assemble isNegative significand (if raises then start + value else start - value) []
  | b :: rest =>
      if isDigit b then
        let next := value * 10 + digitValue b
        if maxReadExponent < next then
          hugeExponent isNegative (significand == 0) raises (b :: rest)
        else exponentDigits isNegative significand start raises next rest
      else
        assemble isNegative significand (if raises then start + value else start - value)
          (b :: rest)

/-- The sign of an exponent: whether it raises the number. -/
def exponentSign : Bytes → Bool × Bytes
  | b :: rest =>
      if b == byte '+' then (true, rest)
      else if b == byte '-' then (false, rest)
      else (true, b :: rest)
  | [] => (true, [])

/-- An exponent, after its letter. -/
def exponent (isNegative : Bool) (significand : Nat) (start : Int) : Reader Number :=
  fun rest =>
    let (raises, rest) := exponentSign rest
    match rest with
    | [] => .error (faultAt .endInValue [])
    | b :: rest =>
        if isDigit b then
          exponentDigits isNegative significand start raises (digitValue b) rest
        else .error (faultAt .invalidNumber rest)

/-- What follows the digits of a number: an exponent or its end. -/
def afterDigits (isNegative : Bool) (significand : Nat) (start : Int) : Reader Number :=
  fun rest =>
    if startsWithExponent rest then exponent isNegative significand start (rest.drop 1)
    else assemble isNegative significand start rest

def fraction (isNegative any : Bool) (significand : Nat) (start : Int) : Reader Number
  | [] =>
      if any then assemble isNegative significand start []
      else .error (faultAhead .endInValue [])
  | b :: rest =>
      if isDigit b then
        let next := significand * 10 + digitValue b
        if maxSignificand < next then
          afterDigits isNegative significand start (rest.dropWhile isDigit)
        else fraction isNegative true next (start - 1) rest
      else if any then afterDigits isNegative significand start (b :: rest)
      else .error (faultAhead .invalidNumber (b :: rest))

/-- What follows the whole part: a fraction, an exponent or the end. -/
def afterWhole (isNegative : Bool) (significand : Nat) (start : Int) : Reader Number :=
  fun rest =>
    match rest with
    | b :: tail =>
        if b == byte '.' then fraction isNegative false significand start tail
        else afterDigits isNegative significand start rest
    | [] => afterDigits isNegative significand start []

/-- A whole number of at most 64 bits. -/
def whole (isNegative : Bool) (significand : Nat) : Reader Number := fun rest =>
  match rest with
  | b :: _ =>
      if b == byte '.' || startsWithExponent rest then afterWhole isNegative significand 0 rest
      else finish rest
  | [] => finish []
where
  finish (rest : Bytes) : Except Fault (Number × Bytes) :=
    if !isNegative then .ok (.natural significand, rest)
    else if 0 < significand && significand ≤ Nat.pow 2 63 then .ok (.negative significand, rest)
    else assemble true significand 0 rest

/-- The digits of the whole part after the first; `significand` is what was read of it. -/
def wholeDigits (isNegative : Bool) (significand : Nat) : Reader Number
  | [] => whole isNegative significand []
  | b :: rest =>
      if isDigit b then
        let next := significand * 10 + digitValue b
        if maxSignificand < next then
          let digits := (b :: rest).takeWhile isDigit
          afterWhole isNegative significand digits.length ((b :: rest).dropWhile isDigit)
        else wholeDigits isNegative next rest
      else whole isNegative significand (b :: rest)

/-- A number, after its sign. -/
def readNumber (isNegative : Bool) : Reader Number
  | [] => .error (faultAt .endInValue [])
  | b :: rest =>
      if b == byte '0' then
        if startsWithDigit rest then .error (faultAhead .invalidNumber rest)
        else whole isNegative 0 rest
      else if isDigit b then wholeDigits isNegative (digitValue b) rest
      else .error (faultAt .invalidNumber rest)

/-- The exponent of a number that is passed over, after its letter. -/
def skipExponent : Reader Unit := fun rest =>
  match (exponentSign rest).2 with
  | b :: rest =>
      if isDigit b then .ok ((), rest.dropWhile isDigit)
      else .error (faultAt .invalidNumber rest)
  | [] => .error (faultAt .invalidNumber [])

/-- What follows the digits of a number that is passed over. -/
def skipAfterDigits : Reader Unit := fun rest =>
  if startsWithExponent rest then skipExponent (rest.drop 1) else .ok ((), rest)

/-- What follows the whole part of a number that is passed over. -/
def skipAfterWhole : Reader Unit
  | b :: rest =>
      if b == byte '.' then
        if startsWithDigit rest then skipAfterDigits (rest.dropWhile isDigit)
        else .error (faultAhead .invalidNumber rest)
      else skipAfterDigits (b :: rest)
  | [] => .ok ((), [])

def skipNumber : Reader Unit
  | b :: rest =>
      if b == byte '0' then
        if startsWithDigit rest then .error (faultAhead .invalidNumber rest)
        else skipAfterWhole rest
      else if isDigit b then skipAfterWhole (rest.dropWhile isDigit)
      else .error (faultAt .invalidNumber rest)
  | [] => .error (faultAt .invalidNumber [])

end SatClient.Json
