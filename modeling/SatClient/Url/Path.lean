import SatClient.Text.Basic
import SatClient.Url.Percent

/-! Paths of a server: segments with a slash before each. Segments of one or two dots move
within the path and never stay in it.
-/

namespace SatClient.Url

abbrev Path := List (List Char)

namespace Path

/-- Whether a segment stands for the place it is in. -/
def isDot (segment : List Char) : Bool :=
  segment.map Char.toLower ∈ [".".toList, "%2e".toList]

def isDoubleDot (segment : List Char) : Bool :=
  segment.map Char.toLower ∈ ["..".toList, ".%2e".toList, "%2e.".toList, "%2e%2e".toList]

/-- Whether a segment names a drive, as in `C:`. A path does not go up from there. -/
def isDrive : List Char → Bool
  | [letter, mark] => letter.isAlpha && (mark == ':' || mark == '|')
  | _ => false

def up : List (List Char) → List (List Char)
  | [] => []
  | last :: rest => if isDrive last then last :: rest else rest

/-- Follow segments, the ones that stay so far standing in reverse. A path that ends in dots
ends with a slash.
-/
def follow (stay : List (List Char)) : List (List Char) → Path
  | [] => stay.reverse
  | [last] =>
      if isDoubleDot last then ([] :: up stay).reverse
      else if isDot last then ([] :: stay).reverse
      else (last :: stay).reverse
  | segment :: rest =>
      if isDoubleDot segment then follow (up stay) rest
      else if isDot segment then follow stay rest
      else follow (segment :: stay) rest

/-- The path that a text stands for; it may start with a slash of either kind. -/
def parse (text : List Char) : Path :=
  let slashed := text.map fun c => if c == '\\' then '/' else c
  let relative := match slashed with
    | '/' :: rest => rest
    | rest => rest
  follow [] ((relative.splitOn '/').map Part.path.escaped)

def text (path : Path) : List Char :=
  path.flatMap ('/' :: ·)

end Path

end SatClient.Url
