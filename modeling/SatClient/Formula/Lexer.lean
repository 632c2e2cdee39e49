import SatClient.Formula.SyntaxError
import SatClient.Text.Basic
import SatClient.Text.Uppercase

/-! Reading tokens from formula text. A lexeme takes at least one character and hands on
the rest, whether it is a token or an error, so that reading a text to its end always
finishes. Every character that is not blank belongs to exactly one lexeme.
-/

namespace SatClient.Lexer

open Text

/-- A token, or the reason why there is none at this place. -/
abbrev Item := Except SyntaxError PlacedToken

/-- One item, the characters it takes, and the characters left after it. -/
structure Lexeme where
  item : Item
  text : List Char
  rest : List Char

def Lexeme.token (offset : Nat) (token : Token) (text rest : List Char) : Lexeme :=
  ⟨.ok ⟨token, offset⟩, text, rest⟩

/-- The longest run of characters that continue a variable, and what follows it. -/
def atomTail (text : List Char) : List Char × List Char :=
  (text.takeWhile Token.isAtomChar, text.dropWhile Token.isAtomChar)

/-- The lexeme at a hyphen, which has to start an implication arrow. -/
def hyphen (offset : Nat) : List Char → Lexeme
  | '>' :: rest => .token offset .implication ['-', '>'] rest
  | rest => ⟨.error (.danglingHyphen offset), ['-'], rest⟩

/-- The lexeme at an opening angle, which has to start an equivalence arrow. A hyphen after
it is taken even when the arrow does not close.
-/
def angle (offset : Nat) : List Char → Lexeme
  | '-' :: '>' :: rest => .token offset .equivalence ['<', '-', '>'] rest
  | '-' :: rest => ⟨.error (.incompleteEquivalence offset), ['<', '-'], rest⟩
  | rest => ⟨.error (.incompleteEquivalence offset), ['<'], rest⟩

def lexeme (offset : Nat) (c : Char) (rest : List Char) : Lexeme :=
  match c with
  | '(' => .token offset .openParen ['('] rest
  | ')' => .token offset .closeParen [')'] rest
  | '~' => .token offset .negation ['~'] rest
  | '&' => .token offset .conjunction ['&'] rest
  | '|' => .token offset .disjunction ['|'] rest
  | 'T' => .token offset .truth ['T'] rest
  | 'F' => .token offset .falsity ['F'] rest
  | '-' => hyphen offset rest
  | '<' => angle offset rest
  | c =>
      if Token.isAtomStart c then
        let (tail, rest) := atomTail rest
        .token offset (.atom (String.ofList (c :: tail))) (c :: tail) rest
      else if isUppercase c then ⟨.error (.uppercaseLetter c offset), [c], rest⟩
      else ⟨.error (.unexpectedChar c offset), [c], rest⟩

/-- A lexeme at a hyphen splits the text there. -/
theorem text_append_rest_hyphen (offset : Nat) (rest : List Char) :
    (hyphen offset rest).text ++ (hyphen offset rest).rest = '-' :: rest := by
  unfold hyphen
  split <;> rfl

/-- A lexeme at an angle splits the text there. -/
theorem text_append_rest_angle (offset : Nat) (rest : List Char) :
    (angle offset rest).text ++ (angle offset rest).rest = '<' :: rest := by
  unfold angle
  split <;> rfl

/-- A lexeme splits the text in two: what it takes and what is left. -/
theorem text_append_rest (offset : Nat) (c : Char) (rest : List Char) :
    (lexeme offset c rest).text ++ (lexeme offset c rest).rest = c :: rest := by
  unfold lexeme
  split
  case h_8 => exact text_append_rest_hyphen offset rest
  case h_9 => exact text_append_rest_angle offset rest
  case h_10 =>
    split
    · simp [Lexeme.token, atomTail, List.takeWhile_append_dropWhile]
    · split <;> rfl
  all_goals rfl

/-- No lexeme is empty. -/
theorem text_ne_nil (offset : Nat) (c : Char) (rest : List Char) :
    (lexeme offset c rest).text ≠ [] := by
  unfold lexeme hyphen angle Lexeme.token
  repeat' split
  all_goals simp

/-- What a lexeme leaves is shorter than what it was read from. -/
theorem length_rest_lt (offset : Nat) (c : Char) (rest : List Char) :
    (lexeme offset c rest).rest.length < (c :: rest).length := by
  have split := congrArg List.length (text_append_rest offset c rest)
  have positive := List.length_pos_iff.mpr (text_ne_nil offset c rest)
  rw [List.length_append] at split
  omega

/-- All items of a text that starts at the given offset, errors included; reading goes on
after an error with the characters it did not take.
-/
def itemsFrom (offset : Nat) : List Char → List Item
  | [] => []
  | c :: rest =>
      if isBlank c then itemsFrom (offset + c.utf8Size) rest
      else
        let found := lexeme offset c rest
        found.item :: itemsFrom (offset + width found.text) found.rest
termination_by text => text.length
decreasing_by
  · simp
  · exact length_rest_lt offset c rest

def items (text : List Char) : List Item :=
  itemsFrom 0 text

/-- The tokens among some items, or the first error. -/
def collect : List Item → Except SyntaxError (List PlacedToken)
  | [] => .ok []
  | .error e :: _ => .error e
  | .ok token :: rest => (token :: ·) <$> collect rest

/-- The tokens of a text, or its first lexical error. -/
def tokenize (text : List Char) : Except SyntaxError (List PlacedToken) :=
  collect (items text)

end SatClient.Lexer
