import SatClient.Formula.Lexer
import SatClient.Formula.Recognizer

/-! Formulas as they are submitted: a text that is not blank, kept exactly as entered, and
the grammar check that lists its variables. The two are separate, because the solver has
the last word on what it accepts.
-/

namespace SatClient

/-- The members of a list without repetitions, in order of first appearance. -/
def distinct (names : List String) : List String :=
  go [] names
where
  go (seen : List String) : List String → List String
    | [] => []
    | name :: rest =>
        if name ∈ seen then go seen rest else name :: go (name :: seen) rest

/-- What the grammar check finds out about a text that passes it. -/
structure Checked where
  /-- The distinct variables in order of first appearance. -/
  atoms : List String
  deriving DecidableEq, Repr

def checkTokens : List PlacedToken → Except SyntaxError Checked
  | [] => .error .empty
  | tokens => (⟨distinct ·⟩) <$> Recognizer.run tokens

def checkText (text : String) : Except SyntaxError Checked :=
  Lexer.tokenize text.toList >>= checkTokens

def isWellFormed (text : String) : Bool :=
  (checkText text).isOk

/-- Formula text that is not blank. -/
structure Formula where
  text : String
  not_blank : Text.isBlankString text = false
  deriving DecidableEq

namespace Formula

/-- The sentence shown in place of a formula that holds no text. -/
def blankMessage : String := "Please enter a formula"

def ofString? (text : String) : Option Formula :=
  if h : Text.isBlankString text = false then some ⟨text, h⟩ else none

def check (formula : Formula) : Except SyntaxError Checked :=
  checkText formula.text

end Formula

end SatClient
