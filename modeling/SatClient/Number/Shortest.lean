import SatClient.Number.Binary64

/-! The shortest decimal that reads back as a given binary floating-point number. For one,
two, ... up to seventeen digits, the two neighbours of the number on the grid of decimals
with so many digits are tested in exact arithmetic; the first grid with a hit wins, and of
two hits the nearer one.
-/

namespace SatClient.Shortest

/-- Digits without trailing zeros, and the number of them that stand before the decimal
point. The point may lie before the first digit or beyond the last.
-/
structure Decimal where
  digits : List Char
  point : Int
  deriving DecidableEq, Repr

/-- The reals that round to a number, in quarters of its last binary place: from `low` to
`high`, and the ends belong to it when `closed` holds.
-/
structure Interval where
  low : Nat
  high : Nat
  closed : Bool

/-- The interval of a positive number. Below a power of two the numbers lie twice as close. -/
def interval (x : Binary64) : Interval :=
  let isPower := x.mantissa == Nat.pow 2 52 && decide (Binary64.minExponent < x.exponent)
  { low := 4 * x.mantissa - (if isPower then 1 else 2)
    high := 4 * x.mantissa + 2
    closed := x.mantissa % 2 == 0 }

/-- Whether `num / den`, in quarters of the last binary place, lies in an interval. -/
def Interval.holds (i : Interval) (num den : Nat) : Bool :=
  if i.closed then i.low * den ≤ num && num ≤ i.high * den
  else i.low * den < num && num < i.high * den

def scaleTen (num den : Nat) (exponent : Int) : Nat × Nat :=
  if exponent < 0 then (num * Nat.pow 10 (-exponent).toNat, den)
  else (num, den * Nat.pow 10 exponent.toNat)

/-- The number of digits before the decimal point of the positive number `num / den`, where
a negative count tells the zeros after the point.
-/
def pointOf (num den : Nat) : Int :=
  let guess : Int := ((num.log2 : Int) - (den.log2 : Int)) * 30103 / 100000
  let below (k : Int) : Bool :=
    let (n, d) := scaleTen num den k
    decide (n < d)
  if below guess then guess else if below (guess + 1) then guess + 1 else guess + 2

def digitChar (n : Nat) : Char := Char.ofNat (48 + n)

/-- The decimal digits of a number, most significant first; none for zero. -/
def digitsOf (n : Nat) : List Char :=
  if n = 0 then [] else digitsOf (n / 10) ++ [digitChar (n % 10)]
termination_by n

def stripZeros (digits : List Char) : List Char :=
  (digits.reverse.dropWhile (· == '0')).reverse

def decimal (count : Nat) (unit : Int) : Decimal :=
  let digits := digitsOf count
  ⟨stripZeros digits, digits.length + unit⟩

/-- The whole number of units next to the number on a grid, if one of the two neighbours
reads back.
-/
def onGrid? (x : Binary64) (unit : Int) : Option Nat :=
  let i := interval x
  let (num, den) := x.ratio
  -- the number, counted in units
  let (n, d) := scaleTen num den unit
  let floor := n / d
  -- a count of units, in quarters of the last binary place: `4 * mantissa * (count / (n / d))`
  let reads (count : Nat) : Bool := i.holds (4 * x.mantissa * count * d) n
  let rest := n - floor * d
  match reads floor && floor != 0, reads (floor + 1) with
  | true, true =>
      if 2 * rest < d then some floor
      else if d < 2 * rest then some (floor + 1)
      else if floor % 2 == 0 then some floor else some (floor + 1)
  | true, false => some floor
  | false, true => some (floor + 1)
  | false, false => none

/-- The first grid that holds a decimal reading back, from `count` digits on. -/
def search (x : Binary64) (point : Int) : Nat → Nat → Decimal
  | 0, count => decimal ((onGrid? x (point - count)).getD 0) (point - count)
  | fuel + 1, count =>
      match onGrid? x (point - count) with
      | some units => decimal units (point - count)
      | none => search x point fuel (count + 1)

/-- The shortest decimal that reads back as a number other than zero, its sign left out. -/
def ofBinary64 (x : Binary64) : Decimal :=
  let (num, den) := x.ratio
  search x (pointOf num den) 17 1

/-- Digits and zeros up to the point, then the rest after it. There is at least one digit on
either side.
-/
def Decimal.positional (d : Decimal) : List Char :=
  if d.point ≤ 0 then
    '0' :: '.' :: (List.replicate (-d.point).toNat '0' ++ d.digits)
  else
    let count := d.point.toNat
    let whole := d.digits.take count
    let tail := d.digits.drop count
    whole ++ List.replicate (count - whole.length) '0' ++ '.'
      :: (if tail.isEmpty then ['0'] else tail)

/-- One digit before the point, and a power of ten with its sign. -/
def Decimal.scientific (d : Decimal) : List Char :=
  let exponent := d.point - 1
  let sign := if exponent < 0 then '-' else '+'
  let power := (toString exponent.natAbs).toList
  match d.digits with
  | [] => ['0']
  | [digit] => digit :: 'e' :: sign :: power
  | digit :: tail => digit :: '.' :: (tail ++ 'e' :: sign :: power)

end SatClient.Shortest
