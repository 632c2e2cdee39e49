import SatClient.Yaml.Character
import SatClient.Yaml.Scalar.Plain
import SatClient.Yaml.Token.Basic

/-! The written form of a text as a scalar inside a block. A text is written plain where it
can be read back as itself; else between single quotes, between double quotes, or line by line
where it holds line breaks. Lines are never folded.
-/

namespace SatClient.Yaml.Written

def hasPair (p q : Char → Bool) : List Char → Bool
  | a :: b :: rest => (p a && q b) || hasPair p q (b :: rest)
  | _ => false

/-- Characters that divide words: blanks, line breaks and the end mark of a text. -/
def isGap (c : Char) : Bool := isBlank c || isBreak c || c == '\x00'

def endsWord : List Char → Bool
  | [] => true
  | c :: _ => isGap c

/-- Characters that cannot start a plain scalar. -/
def isIndicator (c : Char) : Bool :=
  isFlowIndicator c || c ∈ ['#', '&', '*', '!', '|', '>', '\'', '"', '%', '@', '\x60']

/-- Whether the start of a text would be taken for something else than a scalar. -/
def startsAsIndicator : List Char → Bool
  | [] => false
  | '-' :: '-' :: '-' :: _ | '.' :: '.' :: '.' :: _ => true
  | c :: rest => isIndicator c || ((c == '?' || c == '-') && endsWord rest)

/-- Whether a text holds what would be taken for the colon behind a key. -/
def hasKeyColon : List Char → Bool
  | [] => false
  | c :: rest => (c == ':' && endsWord rest) || hasKeyColon rest

/-- Whether a part of a text would be taken for something else than a scalar. -/
def hasIndicator (text : List Char) : Bool :=
  startsAsIndicator text || hasKeyColon text || hasPair isGap (· == '#') text

/-- Whether a text needs escapes: for a character that is not written as it is, or for a space
that would be lost before the end of a line.
-/
def needsEscapes (text : List Char) : Bool :=
  !text.all isPrintable || hasPair (· == ' ') isBreak text

def allowsSingle (text : List Char) : Bool :=
  !needsEscapes text && !hasPair isBreak (· == ' ') text

def allowsLiteral (text : List Char) : Bool :=
  !needsEscapes text && !text.isEmpty && text.getLast? != some ' '

def allowsPlain (text : List Char) : Bool :=
  allowsSingle text && !text.any isBreak && text.head? != some ' ' && text.getLast? != some ' '
    && !hasIndicator text

def style (text : List Char) : Style :=
  if text.contains '\n' then if allowsLiteral text then .literal else .double
  else if allowsPlain text && !Plain.isMistakable text then .plain
  else if allowsSingle text then .single
  else .double

def indentation : List Char := List.replicate 4 ' '

/-- The lines of a text, each with the indentation in front unless it is empty. -/
def indent : (isLineStart : Bool) → List Char → List Char
  | _, [] => []
  | isLineStart, c :: rest =>
      if isBreak c then c :: indent true rest
      else (if isLineStart then indentation else []) ++ c :: indent false rest

/-- The inside of single quotes: a quote is written twice, and a line break indents what
follows.
-/
def quote : (isLineStart : Bool) → List Char → List Char
  | isLineStart, [] => if isLineStart then indentation else []
  | isLineStart, c :: rest =>
      if isBreak c then c :: quote true rest
      else
        (if isLineStart then indentation else [])
          ++ (if c = '\'' then ['\'', '\''] else [c]) ++ quote false rest

def single (text : List Char) : List Char :=
  '\'' :: quote false text ++ ['\'']

/-- The digits of a number in a base of sixteen, as many as asked for. -/
def hexDigits : (count : Nat) → Nat → List Char
  | 0, _ => []
  | count + 1, n => hexDigits count (n / 16) ++ [Text.hexDigitUpper (n % 16)]

def escapeLetter? (c : Char) : Option Char :=
  match c with
  | '\x00' => some '0'
  | '\x07' => some 'a'
  | '\x08' => some 'b'
  | '\t' => some 't'
  | '\n' => some 'n'
  | '\x0b' => some 'v'
  | '\x0c' => some 'f'
  | '\r' => some 'r'
  | '\x1b' => some 'e'
  | '"' => some '"'
  | '\\' => some '\\'
  | '\u0085' => some 'N'
  | '\u2028' => some 'L'
  | '\u2029' => some 'P'
  | _ => none

def escape (c : Char) : List Char :=
  match escapeLetter? c with
  | some letter => ['\\', letter]
  | none =>
      if isPrintable c then [c]
      else if c.toNat < 0x100 then '\\' :: 'x' :: hexDigits 2 c.toNat
      else if c.toNat < 0x10000 then '\\' :: 'u' :: hexDigits 4 c.toNat
      else '\\' :: 'U' :: hexDigits 8 c.toNat

def double (text : List Char) : List Char :=
  '"' :: text.flatMap escape ++ ['"']

/-- What has to be said about the indentation of lines: its width, unless the first line
shows it.
-/
def indentHint : List Char → List Char
  | c :: _ => if c == ' ' || isBreak c then ['2'] else []
  | [] => []

/-- What has to be said about the end of lines: that the last one has no break, or that no break
at the end is to be dropped.
-/
def endHint (text : List Char) : List Char :=
  match text.reverse with
  | [] => ['-']
  | last :: rest =>
      if !isBreak last then ['-']
      else
        match rest with
        | [] => ['+']
        | before :: _ => if isBreak before then ['+'] else []

def literal (text : List Char) : List Char :=
  '|' :: indentHint text ++ endHint text ++ '\n' :: indent true text

/-- The written form of a text, up to the end of its last line. -/
def scalar (text : List Char) : List Char :=
  match style text with
  | .plain => text ++ ['\n']
  | .single => single text ++ ['\n']
  | .literal =>
      literal text ++ if (text.getLast?.map isBreak).getD false then [] else ['\n']
  | _ => double text ++ ['\n']

def entry (key value : String) : List Char :=
  ' ' :: ' ' :: key.toList ++ ':' :: ' ' :: scalar value.toList

def group (key : String) (entries : List (String × String)) : List Char :=
  key.toList ++ ':' :: '\n' :: entries.flatMap (fun (key, value) => entry key value)

end SatClient.Yaml.Written
