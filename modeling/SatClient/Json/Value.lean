import SatClient.Json.Number
import SatClient.Json.Text

/-! JSON values and the two layouts they are written in: without any space, and spread over
lines with two blanks for every level.
-/

namespace SatClient.Json

/-- A JSON value. The members of an object stand in the order in which they are written. -/
inductive Value where
  | null
  | bool (b : Bool)
  | number (n : Number)
  | string (s : String)
  | array (items : List Value)
  | object (members : List (String × Value))
  deriving Repr, Inhabited

/-- Put a member among members sorted by name; a member of the same name gives way. -/
def insertMember (name : String) (value : Value) :
    List (String × Value) → List (String × Value)
  | [] => [(name, value)]
  | (other, old) :: rest =>
      if name < other then (name, value) :: (other, old) :: rest
      else if name = other then (name, value) :: rest
      else (other, old) :: insertMember name value rest

/-- The value of the first member with the given name. -/
def lookup? (name : String) : List (String × Value) → Option Value
  | [] => none
  | (other, value) :: rest => if name = other then some value else lookup? name rest

namespace Value

def get? (name : String) : Value → Option Value
  | object members => lookup? name members
  | _ => none

mutual
def compact : Value → List Char
  | null => ['n', 'u', 'l', 'l']
  | bool true => ['t', 'r', 'u', 'e']
  | bool false => ['f', 'a', 'l', 's', 'e']
  | number n => n.text
  | string s => literal s.toList
  | array [] => ['[', ']']
  | array (item :: items) => '[' :: (compact item ++ compactItems items)
  | object [] => ['\x7b', '\x7d']
  | object ((name, value) :: members) =>
      '\x7b' :: (literal name.toList ++ ':' :: (compact value ++ compactMembers members))

/-- The items of an array after its first, and the end of the array. -/
def compactItems : List Value → List Char
  | [] => [']']
  | item :: items => ',' :: (compact item ++ compactItems items)

/-- The members of an object after its first, and the end of the object. -/
def compactMembers : List (String × Value) → List Char
  | [] => ['\x7d']
  | (name, value) :: members =>
      ',' :: (literal name.toList ++ ':' :: (compact value ++ compactMembers members))
end

def newline (level : Nat) : List Char :=
  '\n' :: List.replicate (2 * level) ' '

mutual
/-- A value over several lines, its own lines at the given level. -/
def pretty (level : Nat) : Value → List Char
  | null => ['n', 'u', 'l', 'l']
  | bool true => ['t', 'r', 'u', 'e']
  | bool false => ['f', 'a', 'l', 's', 'e']
  | number n => n.text
  | string s => literal s.toList
  | array [] => ['[', ']']
  | array (item :: items) =>
      '[' :: (newline (level + 1) ++ pretty (level + 1) item ++ prettyItems level items)
  | object [] => ['\x7b', '\x7d']
  | object ((name, value) :: members) =>
      '\x7b' :: (newline (level + 1) ++ literal name.toList ++ ':' :: ' '
        :: (pretty (level + 1) value ++ prettyMembers level members))

/-- The items of an array after its first, and the end of the array. -/
def prettyItems (level : Nat) : List Value → List Char
  | [] => newline level ++ [']']
  | item :: items =>
      ',' :: (newline (level + 1) ++ pretty (level + 1) item ++ prettyItems level items)

/-- The members of an object after its first, and the end of the object. -/
def prettyMembers (level : Nat) : List (String × Value) → List Char
  | [] => newline level ++ ['\x7d']
  | (name, value) :: members =>
      ',' :: (newline (level + 1) ++ literal name.toList ++ ':' :: ' '
        :: (pretty (level + 1) value ++ prettyMembers level members))
end

def render (value : Value) : String := String.ofList value.compact

def renderPretty (value : Value) : String := String.ofList (value.pretty 0)

/-- Whether a value counts as true where a program tests it: everything but null, false, zero
and the empty text.
-/
def isTruthy : Value → Bool
  | null => false
  | bool b => b
  | number n => !n.isZero
  | string s => !s.isEmpty
  | array _ => true
  | object _ => true

end Value

end SatClient.Json
