import SatClient.Formula.Token

/-! The ways in which a text can fail to be a formula. Each error names its cause; the
wording stands in `SyntaxError.message` alone, and `pointer` shows the place.
-/

namespace SatClient

/-- Parentheses may be open this many levels deep at once. -/
def maxDepth : Nat := 512

/-- What could have stood at the place of a token that does not fit. -/
inductive Expectation where
  | operand
  | closeOrOperator
  | operatorOrEnd
  deriving DecidableEq, Repr

def Expectation.text : Expectation → String
  | operand => "a variable, T, F, '~' or '('"
  | closeOrOperator => "')' or an operator"
  | operatorOrEnd => "an operator or end of formula"

/-- Why a text is no formula. Offsets count bytes from the start of the text. -/
inductive SyntaxError where
  | empty
  | unexpectedChar (char : Char) (offset : Nat)
  | uppercaseLetter (char : Char) (offset : Nat)
  | danglingHyphen (offset : Nat)
  | incompleteEquivalence (offset : Nat)
  | unexpectedToken (found : Token) (offset : Nat) (expected : Expectation)
  | unexpectedEnd
  | unclosedParen (offset : Nat)
  | tooDeep
  deriving DecidableEq, Repr

namespace SyntaxError

def offset? : SyntaxError → Option Nat
  | unexpectedChar _ offset => some offset
  | uppercaseLetter _ offset => some offset
  | danglingHyphen offset => some offset
  | incompleteEquivalence offset => some offset
  | unexpectedToken _ offset _ => some offset
  | unclosedParen offset => some offset
  | empty => none
  | unexpectedEnd => none
  | tooDeep => none

def message : SyntaxError → String
  | empty => "formula is empty"
  | unexpectedChar char offset =>
      "unexpected character '" ++ char.toString ++ "' at offset " ++ toString offset
  | uppercaseLetter char offset =>
      "uppercase letter '" ++ char.toString ++ "' at offset " ++ toString offset
        ++ ": variables are lowercase, only T and F stand alone"
  | danglingHyphen offset =>
      "'-' at offset " ++ toString offset ++ " must be followed by '>'"
  | incompleteEquivalence offset =>
      "'<' at offset " ++ toString offset ++ " must start '<->'"
  | unexpectedToken found offset expected =>
      "expected " ++ expected.text ++ " at offset " ++ toString offset ++ ", found '"
        ++ found.text ++ "'"
  | unexpectedEnd => "unexpected end of formula, expected " ++ Expectation.operand.text
  | unclosedParen offset =>
      "parenthesis opened at offset " ++ toString offset ++ " is never closed"
  | tooDeep =>
      "formula nests parentheses deeper than " ++ toString maxDepth ++ " levels"

end SyntaxError

/-- The number of characters before a byte offset, if the offset does not fall inside a
character or beyond the end.
-/
def charsBefore? : List Char → Nat → Option Nat
  | _, 0 => some 0
  | [], _ + 1 => none
  | c :: rest, offset =>
      if c.utf8Size ≤ offset then (· + 1) <$> charsBefore? rest (offset - c.utf8Size) else none

/-- The text, indented, with a caret on the line below at the given offset. -/
def pointer (text : String) : Option Nat → String
  | none => "  " ++ text
  | some offset =>
      let column := (charsBefore? text.toList offset).getD 0
      "  " ++ text ++ "\n  " ++ String.ofList (List.replicate column ' ') ++ "^"

end SatClient
