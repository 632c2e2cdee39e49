import SatClient.Text.Basic
import SatClient.Yaml.Cursor
import SatClient.Yaml.Token.Basic

/-! Reading scalars. A plain scalar and a quoted one may run over several lines: blanks next
to a line break are dropped, a single break counts as a blank, and of several breaks in a row
the first is dropped. A block scalar keeps its lines, or folds them in a way of its own.

The readers get as fuel the length of the text, of which every round takes a character.
-/

namespace SatClient.Yaml

/-- The blanks and line breaks between two parts of a scalar: blanks on one line, or else the
first line break and the ones after it.
-/
structure Gap where
  blanks : List Char
  first : Option (List Char)
  more : List Char
  deriving DecidableEq, Repr

namespace Gap

/-- No blank and no line break. -/
def empty : Gap := ⟨[], none, []⟩

/-- A gap behind a line break that does not count. -/
def escapedBreak : Gap := ⟨[], some [], []⟩

def isBroken (gap : Gap) : Bool := gap.first.isSome

def text (gap : Gap) : List Char :=
  match gap.first with
  | none => gap.blanks
  | some ['\n'] => if gap.more.isEmpty then [' '] else gap.more
  | some first => first ++ gap.more

def addBreak (gap : Gap) (lineBreak : List Char) : Gap :=
  match gap.first with
  | none => ⟨[], some lineBreak, []⟩
  | some first => ⟨gap.blanks, some first, gap.more ++ lineBreak⟩

/-- A gap with one more blank; blanks behind a line break do not count. -/
def addBlank (gap : Gap) (c : Char) : Gap :=
  if gap.isBroken then gap else { gap with blanks := gap.blanks ++ [c] }

/-- Read a gap to its end. A tab behind a line break is a fault before the column `least`. -/
def read (least : Nat) (start : Mark) : (fuel : Nat) → Gap → Cursor →
    Except Fault (Gap × Cursor)
  | 0, gap, cursor => .ok (gap, cursor)
  | fuel + 1, gap, cursor =>
      match cursor.head? with
      | none => .ok (gap, cursor)
      | some c =>
          if isBlank c then
            if gap.isBroken && cursor.mark.column < least && c == '\t' then
              .error (.within .tabViolation cursor.mark .plainScalar start)
            else read least start fuel (gap.addBlank c) (cursor.skip 1)
          else if isBreak c then
            let (lineBreak, cursor) := cursor.readBreak
            read least start fuel (gap.addBreak lineBreak) cursor
          else .ok (gap, cursor)

end Gap

/-- A scalar that was read: its text, whether it ended behind a line break, and the cursor
behind it.
-/
structure ScalarRead where
  text : List Char
  broken : Bool
  cursor : Cursor
  deriving DecidableEq, Repr

/-! ### Plain scalars -/

/-- Whether a plain scalar ends at a character, given the one behind it. -/
def endsPlain (inFlow : Bool) (c : Char) (next : Option Char) : Bool :=
  isBlank c || isBreak c || (c == ':' && !isSolid next) || (inFlow && isFlowIndicator c)

/-- Whether a colon stands before an indicator that it cannot stand before. -/
def isMisplacedColon (inFlow : Bool) (c : Char) (next : Option Char) : Bool :=
  inFlow && c == ':' && next.any (fun d => isFlowIndicator d || d == '?')

/-- The characters of a plain scalar up to the next gap or indicator, and whether a misplaced
colon follows.
-/
def plainRun (inFlow : Bool) : List Char → List Char × Bool
  | [] => ([], false)
  | c :: rest =>
      if isMisplacedColon inFlow c rest.head? then ([], true)
      else if endsPlain inFlow c rest.head? then ([], false)
      else
        let (run, misplaced) := plainRun inFlow rest
        (c :: run, misplaced)

/-- The rest of a plain scalar, after the text and the gap read before. Outside of brackets
it ends on a line that starts before the column `least`.
-/
def readPlainFrom (inFlow : Bool) (least : Nat) (start : Mark) : (fuel : Nat) →
    (text : List Char) → (gap : Gap) → Cursor → Except Fault ScalarRead
  | 0, text, gap, cursor => .ok ⟨text, gap.isBroken, cursor⟩
  | fuel + 1, text, gap, cursor =>
      if cursor.atDocumentIndicator || cursor.head? == some '#' then
        .ok ⟨text, gap.isBroken, cursor⟩
      else
        let (run, misplaced) := plainRun inFlow cursor.rest
        let after := cursor.skip run.length
        if misplaced then .error (.within .flowColon after.mark .plainScalar start)
        else if run.isEmpty then .ok ⟨text, gap.isBroken, cursor⟩
        else
          let text := text ++ gap.text ++ run
          if !(after.atBlank || after.atBreak) then .ok ⟨text, false, after⟩
          else do
            let (gap, next) ← Gap.read least start after.rest.length .empty after
            if !inFlow && next.mark.column < least then .ok ⟨text, gap.isBroken, next⟩
            else readPlainFrom inFlow least start fuel text gap next

def readPlain (inFlow : Bool) (least : Nat) (cursor : Cursor) : Except Fault ScalarRead :=
  readPlainFrom inFlow least cursor.mark cursor.rest.length [] .empty cursor

/-! ### Quoted scalars -/

/-- The character that a letter behind a backslash stands for. -/
def namedEscape? : Char → Option Char
  | '0' => some '\x00'
  | 'a' => some '\x07'
  | 'b' => some '\x08'
  | 't' => some '\t'
  | '\t' => some '\t'
  | 'n' => some '\n'
  | 'v' => some '\x0b'
  | 'f' => some '\x0c'
  | 'r' => some '\r'
  | 'e' => some '\x1b'
  | ' ' => some ' '
  | '"' => some '"'
  | '\'' => some '\''
  | '/' => some '/'
  | '\\' => some '\\'
  | 'N' => some '\u0085'
  | '_' => some '\u00a0'
  | 'L' => some '\u2028'
  | 'P' => some '\u2029'
  | _ => none

/-- The number of digits behind a letter for a numbered escape. -/
def escapeWidth? : Char → Option Nat
  | 'x' => some 2
  | 'u' => some 4
  | 'U' => some 8
  | _ => none

/-- The character of an escape at the cursor, and the cursor behind it. -/
def readEscape (start : Mark) (cursor : Cursor) : Except Fault (Char × Cursor) :=
  match cursor.ahead? 1 with
  | none => .error (.within .unknownEscape cursor.mark .quotedText start)
  | some letter =>
      match namedEscape? letter with
      | some c => .ok (c, cursor.skip 2)
      | none =>
          match escapeWidth? letter with
          | none => .error (.within .unknownEscape cursor.mark .quotedText start)
          | some width =>
              let cursor := cursor.skip 2
              let digits := cursor.rest.take width
              if digits.length < width || !digits.all (Text.hexValue? · |>.isSome) then
                .error (.within .noHexNumber cursor.mark .quotedText start)
              else if h : (Text.ofHex digits).isValidChar then
                .ok (Char.ofNatAux (Text.ofHex digits) h, cursor.skip width)
              else .error (.within .badEscapeCode cursor.mark .quotedText start)

/-- The characters of a quoted scalar up to the next gap or the closing quote, the cursor
behind them, and whether a backslash at the end of the line was the last of them.
-/
def readQuotedRun (isSingle : Bool) (start : Mark) : (fuel : Nat) → (run : List Char) → Cursor →
    Except Fault (List Char × Cursor × Bool)
  | 0, run, cursor => .ok (run, cursor, false)
  | fuel + 1, run, cursor =>
      match cursor.head? with
      | none => .ok (run, cursor, false)
      | some c =>
          if isBlank c || isBreak c then .ok (run, cursor, false)
          else if isSingle then
            if c == '\'' then
              if cursor.ahead? 1 == some '\'' then
                readQuotedRun isSingle start fuel (run ++ ['\'']) (cursor.skip 2)
              else .ok (run, cursor, false)
            else readQuotedRun isSingle start fuel (run ++ [c]) (cursor.skip 1)
          else if c == '"' then .ok (run, cursor, false)
          else if c == '\\' then
            if (cursor.ahead? 1).any isBreak then .ok (run, ((cursor.skip 1).readBreak).2, true)
            else do
              let (c, cursor) ← readEscape start cursor
              readQuotedRun isSingle start fuel (run ++ [c]) cursor
          else readQuotedRun isSingle start fuel (run ++ [c]) (cursor.skip 1)

def readQuotedFrom (isSingle : Bool) (start : Mark) : (fuel : Nat) → (text : List Char) →
    Cursor → Except Fault ScalarRead
  | 0, _, cursor => .error (.within .endOfStream cursor.mark .quotedScalar start)
  | fuel + 1, text, cursor =>
      if cursor.atDocumentIndicator then
        .error (.within .documentIndicator cursor.mark .quotedScalar start)
      else if cursor.rest.isEmpty then
        .error (.within .endOfStream cursor.mark .quotedScalar start)
      else do
        let (run, cursor, escaped) ← readQuotedRun isSingle start cursor.rest.length [] cursor
        let text := text ++ run
        if cursor.head? == some (if isSingle then '\'' else '"') then
          .ok ⟨text, false, cursor.skip 1⟩
        else
          let (gap, cursor) ← Gap.read 0 start cursor.rest.length
            (if escaped then .escapedBreak else .empty) cursor
          readQuotedFrom isSingle start fuel (text ++ gap.text) cursor

def readQuoted (isSingle : Bool) (cursor : Cursor) : Except Fault ScalarRead :=
  readQuotedFrom isSingle cursor.mark (cursor.rest.length + 1) [] (cursor.skip 1)

/-! ### Block scalars -/

/-- What becomes of the line breaks at the end of a block scalar. -/
inductive Chomping where
  | strip
  | clip
  | keep
  deriving DecidableEq, Repr

/-- The header of a block scalar: chomping and, if it is given, the indentation. -/
structure BlockHeader where
  chomping : Chomping
  increment : Option Nat
  deriving DecidableEq, Repr

def chomping? : Option Char → Option Chomping
  | some '+' => some .keep
  | some '-' => some .strip
  | _ => none

/-- An indentation of one digit, if there is one. -/
def readIncrement (start : Mark) (cursor : Cursor) : Except Fault (Option Nat × Cursor) :=
  match cursor.head? with
  | some c =>
      if c == '0' then .error (.within .zeroIndentation cursor.mark .blockScalar start)
      else if c.isDigit then .ok (some (c.toNat - 48), cursor.skip 1)
      else .ok (none, cursor)
  | none => .ok (none, cursor)

/-- The two parts of a header, in either order. -/
def readHeaderParts (start : Mark) (cursor : Cursor) : Except Fault (BlockHeader × Cursor) :=
  match chomping? cursor.head? with
  | some chomping => do
      let (increment, cursor) ← readIncrement start (cursor.skip 1)
      .ok (⟨chomping, increment⟩, cursor)
  | none => do
      let (increment, cursor) ← readIncrement start cursor
      match increment, chomping? cursor.head? with
      | some _, some chomping => .ok (⟨chomping, increment⟩, cursor.skip 1)
      | _, _ => .ok (⟨.clip, increment⟩, cursor)

def endHeader (start : Mark) (cursor : Cursor) : Except Fault Cursor :=
  let cursor := cursor.skipWhile isBlank
  let cursor := if cursor.head? == some '#' then cursor.skipLine else cursor
  if cursor.rest.isEmpty then .ok cursor
  else if cursor.atBreak then .ok cursor.readBreak.2
  else .error (.within .noCommentOrBreak cursor.mark .blockScalar start)

/-- The empty lines at the cursor: their breaks, and the greatest column met. As long as the
indentation is not known, blanks of any number are skipped.
-/
def readEmptyLines (indent : Option Nat) (start : Mark) : (fuel : Nat) → (breaks : List Char) →
    (widest : Nat) → Cursor → Except Fault (List Char × Nat × Cursor)
  | 0, breaks, widest, cursor => .ok (breaks, widest, cursor)
  | fuel + 1, breaks, widest, cursor =>
      let blanks := cursor.rest.takeWhile (· == ' ')
      let count := match indent with
        | none => blanks.length
        | some indent => min blanks.length (indent - cursor.mark.column)
      let cursor := cursor.skip count
      let widest := max widest cursor.mark.column
      if indent.all (cursor.mark.column < ·) && cursor.head? == some '\t' then
        .error (.within .tabInIndentation cursor.mark .blockScalar start)
      else if cursor.atBreak then
        let (lineBreak, cursor) := cursor.readBreak
        readEmptyLines indent start fuel (breaks ++ lineBreak) widest cursor
      else .ok (breaks, widest, cursor)

/-- The lines of a block scalar: the text so far, the break behind its last line, the breaks
of the empty lines after it, and whether the last line started with a blank.
-/
structure BlockLines where
  text : List Char
  lastBreak : List Char
  breaks : List Char
  wasBlank : Bool
  deriving DecidableEq, Repr

/-- The text with a new line about to start. A break folds between two lines that do not
start with a blank.
-/
def BlockLines.joined (lines : BlockLines) (isLiteral isBlankNow : Bool) : List Char :=
  if !isLiteral && lines.lastBreak.head? == some '\n' && !lines.wasBlank && !isBlankNow then
    lines.text ++ (if lines.breaks.isEmpty then [' '] else []) ++ lines.breaks
  else lines.text ++ lines.lastBreak ++ lines.breaks

def readBlockLines (isLiteral : Bool) (indent : Nat) (start : Mark) : (fuel : Nat) →
    BlockLines → Cursor → Except Fault (BlockLines × Cursor)
  | 0, lines, cursor => .ok (lines, cursor)
  | fuel + 1, lines, cursor =>
      if cursor.mark.column ≠ indent || cursor.rest.isEmpty then .ok (lines, cursor)
      else do
        let blankNow := cursor.atBlank
        let text := lines.joined isLiteral blankNow
        let (line, cursor) := cursor.span (!isBreak ·)
        let (lastBreak, cursor) := cursor.readBreak
        let (breaks, _, cursor) ← readEmptyLines (some indent) start cursor.rest.length [] 0 cursor
        readBlockLines isLiteral indent start fuel
          ⟨text ++ line, lastBreak, breaks, blankNow⟩ cursor

def BlockLines.finish (lines : BlockLines) : Chomping → List Char
  | .strip => lines.text
  | .clip => lines.text ++ lines.lastBreak
  | .keep => lines.text ++ lines.lastBreak ++ lines.breaks

/-- The block scalar at the cursor. Its lines are indented by more than the block around it,
which is indented by one less than `least`.
-/
def readBlock (isLiteral : Bool) (least : Nat) (cursor : Cursor) : Except Fault ScalarRead := do
  let start := cursor.mark
  let (header, cursor) ← readHeaderParts start (cursor.skip 1)
  let cursor ← endHeader start cursor
  let given := header.increment.map (least - 1 + ·)
  let (breaks, widest, cursor) ← readEmptyLines given start (cursor.rest.length + 1) [] 0 cursor
  let indent := given.getD (max (max widest least) 1)
  let (lines, cursor) ←
    readBlockLines isLiteral indent start cursor.rest.length ⟨[], [], breaks, false⟩ cursor
  .ok ⟨lines.finish header.chomping, true, cursor⟩

end SatClient.Yaml
