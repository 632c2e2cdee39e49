import SatClient.Json.Value
import SatClient.Text.Basic

/-! Assignment strings. The solver answers with tokens `(name,value)` separated by single
blanks; a token that does not have this shape is passed over. One reserved string means that
there is no assignment.
-/

namespace SatClient

/-- A variable and the truth value that the solver gave it. -/
structure Binding where
  name : String
  value : Bool
  deriving DecidableEq, Repr

/-- A name and the text of its value, as they stand in one token. -/
structure RawPair where
  name : List Char
  value : List Char
  deriving DecidableEq, Repr

namespace Assignment

/-- The text that stands for "no assignment exists". -/
def sentinel : String := "(,false)"

def boolText (b : Bool) : List Char :=
  if b then "true".toList else "false".toList

/-- A token without the opening parentheses at its start and the closing ones at its end. -/
def stripParens (token : List Char) : List Char :=
  Text.dropEndWhile (· == ')') (token.dropWhile (· == '('))

/-- The pair in a token: what lies between the parentheses, cut at its first comma. There may be
no second one.
-/
def pairOf? (token : List Char) : Option RawPair := do
  let (name, value) ← Text.splitFirst? ',' (stripParens token)
  if value.contains ',' then none else some ⟨name, value⟩

def pairsOf (text : List Char) : List RawPair :=
  (text.splitOn ' ').filterMap pairOf?

def rawPairs (assignment : String) : List RawPair :=
  pairsOf assignment.toList

/-- A pair with a name as a binding; only the word for truth reads as true. -/
def binding? (pair : RawPair) : Option Binding :=
  if pair.name.isEmpty then none
  else some ⟨String.ofList pair.name, pair.value == boolText true⟩

/-- The bindings of an assignment string, in order. Pairs without a name are left out. -/
def parse (assignment : String) : List Binding :=
  (rawPairs assignment).filterMap binding?

def token (binding : Binding) : List Char :=
  '(' :: (binding.name.toList ++ ',' :: (boolText binding.value ++ [')']))

def render (bindings : List Binding) : String :=
  String.ofList ([' '].intercalate (bindings.map token))

/-- Names that come back from a rendered assignment as they are. -/
def IsEncodable (name : String) : Prop :=
  name ≠ "" ∧ ' ' ∉ name.toList ∧ ',' ∉ name.toList ∧ name.toList.head? ≠ some '('

end Assignment

def Binding.toJson (binding : Binding) : Json.Value :=
  .object [("name", .string binding.name), ("value", .bool binding.value)]

def Assignment.toJson (bindings : List Binding) : Json.Value :=
  .array (bindings.map Binding.toJson)

end SatClient
