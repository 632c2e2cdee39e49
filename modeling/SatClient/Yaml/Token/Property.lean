import SatClient.Text.Basic
import SatClient.Text.Utf8
import SatClient.Yaml.Cursor
import SatClient.Yaml.Token.Basic

/-! Reading names of nodes, tags and directives. A token is read together with the cursor
behind it.
-/

namespace SatClient.Yaml

abbrev TokenRead := Except Fault (Token × Cursor)

/-- Characters that may stand right behind the name of a node. -/
def endsName (c : Char) : Bool := c ∈ ['?', ':', ',', ']', '\x7d', '%', '@', '`']

/-- The name of a node, or a reference to one. -/
def readName (isAlias : Bool) (cursor : Cursor) : TokenRead :=
  let (name, next) := (cursor.skip 1).span isWord
  if name.isEmpty || !(next.atGap || next.head?.any endsName) then
    .error (.within .noAnchorName next.mark (if isAlias then .reference else .anchor) cursor.mark)
  else .ok (if isAlias then .reference name else .anchor name, next)

/-! ### Tags -/

/-- Whether a tag is read as a tag or as part of a directive. -/
inductive TagPlace where
  | node
  | directive
  deriving DecidableEq, Repr

def TagPlace.handleActivity : TagPlace → Activity
  | node => .tag
  | directive => .tagDirective

/-- What goes on while the rest of a tag is read. -/
def TagPlace.textActivity : TagPlace → Activity
  | node => .tagText
  | directive => .tagDirectiveText

/-- Characters that a tag may hold; some of them only between angles. -/
def isTagChar (inAngles : Bool) (c : Char) : Bool :=
  isWord c || c ∈ [';', '/', '?', ':', '@', '&', '=', '+', '$', '.', '%', '!', '~', '*', '\'',
    '(', ')'] || (inAngles && c ∈ [',', '[', ']'])

/-- The number of octets that a first octet announces. -/
def octetCount? (octet : Nat) : Option Nat :=
  if octet < 0x80 then some 1
  else if octet < 0xC0 then none
  else if octet < 0xE0 then some 2
  else if octet < 0xF0 then some 3
  else if octet < 0xF8 then some 4
  else none

def readOctet (place : TagPlace) (start : Mark) (cursor : Cursor) :
    Except Fault (Nat × Cursor) :=
  match cursor.rest with
  | '%' :: a :: b :: _ =>
      match Text.hexValue? a, Text.hexValue? b with
      | some high, some low => .ok (16 * high + low, cursor.skip 3)
      | _, _ => .error (.within .noOctet cursor.mark place.textActivity start)
  | _ => .error (.within .noOctet cursor.mark place.textActivity start)

def readTrailingOctets (place : TagPlace) (start : Mark) : (count : Nat) → Cursor →
    Except Fault (List Nat × Cursor)
  | 0, cursor => .ok ([], cursor)
  | count + 1, cursor => do
      let (octet, next) ← readOctet place start cursor
      if octet < 0x80 || 0xC0 ≤ octet then
        throw (.within .badTrailingOctet cursor.mark place.textActivity start)
      let (others, next) ← readTrailingOctets place start count next
      return (octet :: others, next)

def readOctets (place : TagPlace) (start : Mark) (cursor : Cursor) :
    Except Fault (List Char × Cursor) := do
  let (octet, next) ← readOctet place start cursor
  match octetCount? octet with
  | none => throw (.within .badLeadingOctet cursor.mark place.textActivity start)
  | some count =>
      let (others, next) ← readTrailingOctets place start (count - 1) next
      let bytes := (octet :: others).map UInt8.ofNat
      return ((Utf8.decode? bytes).getD ['\ufffd'], next)

/-- The characters of a tag. Every round takes a character. -/
def readTagChars (inAngles : Bool) (place : TagPlace) (start : Mark) : (fuel : Nat) →
    (text : List Char) → Cursor → Except Fault (List Char × Cursor)
  | 0, text, cursor => .ok (text, cursor)
  | fuel + 1, text, cursor =>
      match cursor.head? with
      | none => .ok (text, cursor)
      | some c =>
          if c == '%' then do
            let (chars, cursor) ← readOctets place start cursor
            readTagChars inAngles place start fuel (text ++ chars) cursor
          else if isTagChar inAngles c then
            readTagChars inAngles place start fuel (text ++ [c]) (cursor.skip 1)
          else .ok (text, cursor)

/-- The rest of a tag behind its beginning, which may be part of it. -/
def readTagText (inAngles : Bool) (place : TagPlace) (start : Mark) (beginning : List Char)
    (cursor : Cursor) : Except Fault (List Char × Cursor) := do
  let (text, next) ← readTagChars inAngles place start cursor.rest.length [] cursor
  if beginning.isEmpty && next.rest.length = cursor.rest.length then
    throw (.within .noTagUri next.mark place.textActivity start)
  return (beginning.drop 1 ++ text, next)

/-- A handle: an exclamation mark, a word, and another exclamation mark. In a tag the last
two may be missing, in a directive only both.
-/
def readHandle (place : TagPlace) (start : Mark) (cursor : Cursor) :
    Except Fault (List Char × Cursor) :=
  if cursor.head? ≠ some '!' then
    .error (.within .noExclamation cursor.mark place.handleActivity start)
  else
    let (word, next) := (cursor.skip 1).span isWord
    if next.head? == some '!' then .ok ('!' :: word ++ ['!'], next.skip 1)
    else if place == .directive && !word.isEmpty then
      .error (.within .noExclamation next.mark .tagDirectiveText start)
    else .ok ('!' :: word, next)

def isClosedHandle (handle : List Char) : Bool :=
  1 < handle.length && handle.getLast? == some '!'

def readShortTag (start : Mark) (cursor : Cursor) : TokenRead := do
  let (handle, next) ← readHandle .node start cursor
  if isClosedHandle handle then
    let (rest, next) ← readTagText false .node start [] next
    return (.tag handle rest, next)
  else
    let (rest, next) ← readTagText false .node start handle next
    return (if rest.isEmpty then .tag [] ['!'] else .tag ['!'] rest, next)

/-- A tag between angles, behind which nothing is added. -/
def readVerbatimTag (start : Mark) (cursor : Cursor) : TokenRead := do
  let (text, next) ← readTagText true .node start [] (cursor.skip 2)
  if next.head? ≠ some '>' then throw (.within .noClosingAngle next.mark .tag start)
  return (.tag [] text, next.skip 1)

def readTag (inFlow : Bool) (cursor : Cursor) : TokenRead := do
  let (token, next) ←
    if cursor.ahead? 1 == some '<' then readVerbatimTag cursor.mark cursor
    else readShortTag cursor.mark cursor
  if (inFlow && next.head? == some ',') || next.atGap then return (token, next)
  throw (.within .noSpaceOrBreak next.mark .tag cursor.mark)

/-! ### Directives -/

def maxVersionDigits : Nat := 9

def readVersionNumber (start : Mark) (cursor : Cursor) : Except Fault (Nat × Cursor) :=
  let (digits, next) := cursor.span Char.isDigit
  if maxVersionDigits < digits.length then
    .error (.within .longVersion (cursor.mark.advance maxVersionDigits) .versionDirective start)
  else if digits.isEmpty then
    .error (.within .noVersionNumber next.mark .versionDirective start)
  else .ok (digits.foldl (fun n c => 10 * n + (c.toNat - 48)) 0, next)

def readVersion (start : Mark) (cursor : Cursor) : TokenRead := do
  let (major, next) ← readVersionNumber start (cursor.skipWhile isBlank)
  if next.head? ≠ some '.' then throw (.within .noVersionDot next.mark .versionDirective start)
  let (minor, next) ← readVersionNumber start (next.skip 1)
  return (.versionDirective major minor, next)

/-- The handle and the text behind the name of a tag directive. -/
def readTagDirective (start : Mark) (cursor : Cursor) : TokenRead := do
  let (handle, next) ← readHandle .directive start (cursor.skipWhile isBlank)
  if !next.atBlank then throw (.within .noSpace next.mark .tagDirective start)
  let (text, next) ← readTagText true .directive start [] (next.skipWhile isBlank)
  if !next.atGap then throw (.within .noSpaceOrBreak next.mark .tagDirective start)
  return (.tagDirective handle text, next)

def readDirective (cursor : Cursor) : TokenRead := do
  let start := cursor.mark
  let (name, next) := (cursor.skip 1).span isWord
  if name.isEmpty then throw (.within .noDirectiveName next.mark .directive start)
  if !next.atGap then throw (.within .badDirectiveName next.mark .directive start)
  let (token, next) ←
    if name == "YAML".toList then readVersion start next
    else if name == "TAG".toList then readTagDirective start next
    else throw (.within .unknownDirective next.mark .directive start)
  let next := next.skipWhile isBlank
  let next := if next.head? == some '#' then next.skipLine else next
  if !(next.rest.isEmpty || next.atBreak) then
    throw (.within .noCommentOrBreak next.mark .directive start)
  return (token, if next.atBreak then next.readBreak.2 else next)

end SatClient.Yaml
