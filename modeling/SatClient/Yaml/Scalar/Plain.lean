import SatClient.Number.Decimal
import SatClient.Number.Shortest
import SatClient.Text.Basic
import SatClient.Text.Printable

/-! What a plain scalar stands for: nothing, a truth value, a number, or else its text. -/

namespace SatClient.Yaml

inductive Plain where
  | nothing
  | truth (b : Bool)
  | whole (isNegative : Bool) (n : Nat)
  | float (x : Binary64)
  | infinite (isNegative : Bool)
  | notNumber
  | characters (text : List Char)
  deriving DecidableEq, Repr

namespace Plain

def isNothing (text : List Char) : Bool :=
  ["null".toList, "Null".toList, "NULL".toList, "~".toList].contains text

def truth? (text : List Char) : Option Bool :=
  if ["true".toList, "True".toList, "TRUE".toList].contains text then some true
  else if ["false".toList, "False".toList, "FALSE".toList].contains text then some false
  else none

/-- Digits behind a needless zero: they are a text. -/
def isPadded (text : List Char) : Bool :=
  let digits := match text with
    | '-' :: rest => rest
    | '+' :: rest => rest
    | rest => rest
  match digits with
  | '0' :: rest => !rest.isEmpty && rest.all Char.isDigit
  | _ => false

/-- The value of digits of a base, of which there has to be one. -/
def digits? (base : Nat) (text : List Char) : Option Nat :=
  if text.isEmpty then none else Text.ofDigits? base text

/-- The value of digits whose base stands before them, or else of decimal ones. -/
def based? : List Char → Option Nat
  | '0' :: 'x' :: rest => digits? 16 rest
  | '0' :: 'o' :: rest => digits? 8 rest
  | '0' :: 'b' :: rest => digits? 2 rest
  | text => digits? 10 text

/-- The bound of numbers that are not negative, and of the absolute values of others. -/
def wholeBound (isNegative : Bool) : Nat :=
  if isNegative then Nat.pow 2 127 + 1 else Nat.pow 2 128

def whole? (text : List Char) : Option (Bool × Nat) :=
  let (isNegative, rest) := match text with
    | '-' :: rest => (true, rest)
    | '+' :: rest => (false, rest)
    | rest => (false, rest)
  if isPadded text then none
  else
    match based? rest with
    | some n => if n < wholeBound isNegative then some (isNegative && n ≠ 0, n) else none
    | none => none

def float? (text : List Char) : Option Plain :=
  let (isNegative, rest) := match text with
    | '-' :: rest => (true, rest)
    | '+' :: rest => (false, rest)
    | rest => (false, rest)
  if [".inf".toList, ".Inf".toList, ".INF".toList].contains rest then some (infinite isNegative)
  else if [".nan".toList, ".NaN".toList, ".NAN".toList].contains text then some notNumber
  else do
    let x ← (← WrittenDecimal.parse? rest).nearest?
    some (float { x with negative := isNegative })

def ofText (text : List Char) : Plain :=
  if text.isEmpty || isNothing text then nothing
  else
    match truth? text with
    | some b => truth b
    | none =>
        match whole? text with
        | some (isNegative, n) => whole isNegative n
        | none =>
            match if isPadded text then none else float? text with
            | some number => number
            | none => characters text

/-- Whether a text would be taken for something else where it stands plain, by this reading
or by one that takes padded digits for a number.
-/
def isMistakable (text : List Char) : Bool :=
  match ofText text with
  | characters _ => isPadded text
  | _ => true

/-- A floating-point number in full, with at least one digit on either side of the point. -/
def floatWords (x : Binary64) : String :=
  let sign := if x.negative then "-" else ""
  if x.isZero then sign ++ "0.0"
  else sign ++ String.ofList (Shortest.ofBinary64 x).positional

def words : Plain → String
  | nothing => "unit value"
  | truth b => if b then "boolean `true`" else "boolean `false`"
  | whole isNegative n =>
      let number := "integer `" ++ (if isNegative then "-" else "") ++ toString n ++ "`"
      if isNegative then
        if Nat.pow 2 63 < n then number ++ " as i128" else number
      else if Nat.pow 2 64 ≤ n then number ++ " as u128"
      else number
  | float x => "floating point `" ++ floatWords x ++ "`"
  | infinite isNegative =>
      if isNegative then "floating point `-inf.0`" else "floating point `inf.0`"
  | notNumber => "floating point `NaN.0`"
  | characters text => "string " ++ Text.quoted (String.ofList text)

end Plain

end SatClient.Yaml
