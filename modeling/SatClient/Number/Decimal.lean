import SatClient.Number.Binary64
import SatClient.Text.Basic

/-! Reading a decimal as the nearest floating-point number. There may be no digits before the
point or none after it, but not both, and a power of ten behind the letter `e`.
-/

namespace SatClient

/-- A decimal without a sign: its digits, and the power of ten that they are multiplied by. -/
structure WrittenDecimal where
  digits : List Char
  exponent : Int
  deriving DecidableEq, Repr

namespace WrittenDecimal

def ofDigits (digits : List Char) : Nat :=
  digits.foldl (fun n c => 10 * n + (c.toNat - 48)) 0

/-- A whole number that may have a sign, if there are digits only behind it. -/
def signed? (text : List Char) : Option Int :=
  let (isNegative, digits) := match text with
    | '-' :: rest => (true, rest)
    | '+' :: rest => (false, rest)
    | rest => (false, rest)
  if digits.isEmpty || !digits.all Char.isDigit then none
  else some (if isNegative then -(ofDigits digits : Int) else ofDigits digits)

/-- The power of ten behind a letter, or none where nothing is left. -/
def power? : List Char → Option Int
  | [] => some 0
  | c :: rest => if c == 'e' || c == 'E' then signed? rest else none

def parse? (text : List Char) : Option WrittenDecimal := do
  let whole := text.takeWhile Char.isDigit
  let rest := text.dropWhile Char.isDigit
  let (fraction, rest) := match rest with
    | '.' :: rest => (rest.takeWhile Char.isDigit, rest.dropWhile Char.isDigit)
    | rest => ([], rest)
  if whole.isEmpty && fraction.isEmpty then none
  else
    let power ← power? rest
    some ⟨whole ++ fraction, power - fraction.length⟩

/-- Beyond this power of ten, counted from the first digit, a decimal is too large or too
small for a floating-point number.
-/
def farPower : Int := 400

def nearest? (decimal : WrittenDecimal) : Option Binary64 :=
  let digits := decimal.digits.dropWhile (· == '0')
  let n := ofDigits digits
  let magnitude := decimal.exponent + digits.length
  if n = 0 || magnitude < -farPower then some .zero
  else if farPower < magnitude then none
  else if decimal.exponent < 0 then Binary64.ofRatio? n (Nat.pow 10 (-decimal.exponent).toNat)
  else Binary64.ofRatio? (n * Nat.pow 10 decimal.exponent.toNat) 1

end WrittenDecimal

end SatClient
