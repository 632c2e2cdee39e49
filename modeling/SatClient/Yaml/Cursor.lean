import SatClient.Yaml.Character
import SatClient.Yaml.Fault

/-! A place in a text together with the text from there. -/

namespace SatClient.Yaml

/-- What is left of a text, and where that is. -/
structure Cursor where
  rest : List Char
  mark : Mark
  deriving DecidableEq, Repr

namespace Cursor

def ofText (text : List Char) : Cursor := ⟨text, .start⟩

def head? (cursor : Cursor) : Option Char := cursor.rest.head?

def ahead? (cursor : Cursor) (count : Nat) : Option Char := cursor.rest[count]?

def skip (cursor : Cursor) (count : Nat) : Cursor :=
  ⟨cursor.rest.drop count, cursor.mark.advance count⟩

/-- The characters that satisfy `p`, none of which ends a line, and the cursor behind them. -/
def span (p : Char → Bool) (cursor : Cursor) : List Char × Cursor :=
  let taken := cursor.rest.takeWhile p
  (taken, cursor.skip taken.length)

def skipWhile (p : Char → Bool) (cursor : Cursor) : Cursor := (cursor.span p).2

def skipLine (cursor : Cursor) : Cursor := cursor.skipWhile (!isBreak ·)

/-- The line break at the cursor, and the cursor behind it. All but the separators of lines
and paragraphs count as a line feed.
-/
def readBreak (cursor : Cursor) : List Char × Cursor :=
  match cursor.rest with
  | '\r' :: '\n' :: rest => (['\n'], ⟨rest, cursor.mark.newline 2⟩)
  | c :: rest =>
      if c == '\u2028' || c == '\u2029' then ([c], ⟨rest, cursor.mark.newline 1⟩)
      else (['\n'], ⟨rest, cursor.mark.newline 1⟩)
  | [] => ([], cursor)

/-- Whether the text at the cursor ends, or a blank or a line break is there. -/
def atGap (cursor : Cursor) : Bool := !isSolid cursor.head?

def atBreak (cursor : Cursor) : Bool := cursor.head?.any isBreak

def atBlank (cursor : Cursor) : Bool := cursor.head?.any isBlank

/-- Whether a line of its own starts or ends a document here. -/
def atDocumentIndicator (cursor : Cursor) : Bool :=
  cursor.mark.column == 0
    && (cursor.rest.take 3 == ['-', '-', '-'] || cursor.rest.take 3 == ['.', '.', '.'])
    && !isSolid (cursor.ahead? 3)

end Cursor

end SatClient.Yaml
