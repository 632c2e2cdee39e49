import SatClient.Yaml.Token.Property
import SatClient.Yaml.Token.Scalar

/-! Reading a text as tokens. A key shows only by the colon behind it: a token that may turn
out to start a key is kept back until that is settled, and so are all tokens after it. When
the reading fails, the tokens that are not kept back are still good.
-/

namespace SatClient.Yaml

/-- A place where a key may have started: the number of tokens before it, and whether it has
to be one.
-/
structure PossibleKey where
  number : Nat
  required : Bool
  mark : Mark
  deriving DecidableEq, Repr

/-- How many characters a key may take up to its colon. -/
def maxKeyLength : Nat := 1024

structure TokenReader where
  cursor : Cursor
  /-- The tokens read, latest first. -/
  tokens : List PlacedToken
  /-- The columns of the blocks around, innermost first. -/
  blocks : List Nat
  /-- Whether a key may start here. -/
  keyAllowed : Bool
  /-- The key that may have started at the innermost level. -/
  key : Option PossibleKey
  /-- The same for the levels of brackets around. -/
  outer : List (Option PossibleKey)
  deriving Repr

namespace TokenReader

def ofText (text : List Char) : TokenReader := ⟨.ofText text, [], [], true, none, []⟩

/-- Whether the cursor is between brackets. -/
def inFlow (reader : TokenReader) : Bool := !reader.outer.isEmpty

def least (reader : TokenReader) : Nat := reader.blocks.head?.elim 0 (· + 1)

def column (reader : TokenReader) : Nat := reader.cursor.mark.column

def mark (reader : TokenReader) (token : Token) : TokenReader :=
  let here := reader.cursor.mark
  { reader with tokens := ⟨token, here, here⟩ :: reader.tokens }

def add (reader : TokenReader) (token : Token) (next : Cursor) : TokenReader :=
  { reader with
    tokens := ⟨token, reader.cursor.mark, next.mark⟩ :: reader.tokens
    cursor := next }

/-- Add a token of some characters. -/
def take (reader : TokenReader) (token : Token) (count : Nat) : TokenReader :=
  reader.add token (reader.cursor.skip count)

/-- Put tokens in before those from the given number on. -/
def insert (reader : TokenReader) (number : Nat) (mark : Mark) (tokens : List Token) :
    TokenReader :=
  let later := reader.tokens.length - number
  let placed := (tokens.map fun token => (⟨token, mark, mark⟩ : PlacedToken)).reverse
  { reader with tokens := reader.tokens.take later ++ placed ++ reader.tokens.drop later }

/-! ### Keys -/

/-- Give up a key that can no longer be one: its colon is on the same line, and not too far.
-/
def expire (here : Mark) : Option PossibleKey → Except Fault (Option PossibleKey)
  | none => .ok none
  | some key =>
      if key.mark.line < here.line || key.mark.index + maxKeyLength < here.index then
        if key.required then .error (.within .noColon here .simpleKey key.mark) else .ok none
      else .ok (some key)

/-- Give up all keys that can no longer be one, outermost first. -/
def expireAll (reader : TokenReader) : Except Fault TokenReader := do
  let here := reader.cursor.mark
  let outer ← reader.outer.reverse.mapM (expire here)
  let key ← expire here reader.key
  return { reader with key, outer := outer.reverse }

/-- Give up the innermost key, unless it has to be one. -/
def dropKey (reader : TokenReader) : Except Fault TokenReader :=
  match reader.key with
  | some key =>
      if key.required then
        .error (.within .noColon reader.cursor.mark .simpleKey key.mark)
      else .ok { reader with key := none }
  | none => .ok reader

/-- Note that a key may start at the cursor. In the column of a block it has to be one. -/
def saveKey (reader : TokenReader) : Except Fault TokenReader :=
  if reader.keyAllowed then do
    let required := !reader.inFlow && reader.blocks.head? == some reader.column
    let reader ← reader.dropKey
    return { reader with key := some ⟨reader.tokens.length, required, reader.cursor.mark⟩ }
  else .ok reader

def settled (reader : TokenReader) : Nat :=
  ((reader.key :: reader.outer).filterMap id).foldl (fun least key => min least key.number)
    reader.tokens.length

/-! ### Blocks -/

/-- Open a block at a column, unless one is open there or between brackets; its first token
comes before those from the given number on.
-/
def openBlock (reader : TokenReader) (column number : Nat) (mark : Mark) (token : Token) :
    TokenReader :=
  if !reader.inFlow && reader.blocks.head?.all (· < column) then
    { reader.insert number mark [token] with blocks := column :: reader.blocks }
  else reader

/-- Close the blocks that satisfy `p`, innermost first, up to one that does not. -/
def closeBlocks (reader : TokenReader) (p : Nat → Bool) : TokenReader :=
  if reader.inFlow then reader
  else
    let closed := reader.blocks.takeWhile p
    let here := reader.cursor.mark
    { reader with
      blocks := reader.blocks.dropWhile p
      tokens := closed.map (fun _ => ⟨.blockEnd, here, here⟩) ++ reader.tokens }

/-! ### Blanks and comments -/

/-- Skip blanks, comments and line breaks. Outside of brackets a key may start on every new
line; where one may start a tab is no blank. Every round takes a line break.
-/
def skipToToken : (fuel : Nat) → TokenReader → TokenReader
  | 0, reader => reader
  | fuel + 1, reader =>
      let tabs := reader.inFlow || !reader.keyAllowed
      let cursor :=
        if reader.column == 0 && reader.cursor.head? == some byteOrderMark then
          reader.cursor.skip 1
        else reader.cursor
      let cursor := cursor.skipWhile fun c => c == ' ' || (tabs && c == '\t')
      let cursor := if cursor.head? == some '#' then cursor.skipLine else cursor
      if cursor.atBreak then
        skipToToken fuel { reader with
          cursor := cursor.readBreak.2
          keyAllowed := reader.keyAllowed || !reader.inFlow }
      else { reader with cursor }

/-! ### Tokens -/

abbrev Read := Except Fault TokenReader

def refuse (reader : TokenReader) (problem : Problem) : Fault :=
  .malformed problem reader.cursor.mark none

/-- The end of the text closes all blocks, on a line of its own. -/
def readEnd (reader : TokenReader) : Read := do
  let here := reader.cursor.mark
  let reader :=
    if here.column = 0 then reader
    else { reader with cursor := { reader.cursor with mark := ⟨here.index, here.line + 1, 0⟩ } }
  let reader ← (reader.closeBlocks fun _ => true).dropKey
  return { reader with keyAllowed := false }.mark .streamEnd

def readDirectiveLine (reader : TokenReader) : Read := do
  let reader ← (reader.closeBlocks fun _ => true).dropKey
  let (token, next) ← readDirective reader.cursor
  return { reader with keyAllowed := false }.add token next

def readDocumentIndicator (reader : TokenReader) (token : Token) : Read := do
  let reader ← (reader.closeBlocks fun _ => true).dropKey
  return { reader with keyAllowed := false }.take token 3

def readFlowStart (reader : TokenReader) (token : Token) : Read := do
  let reader ← reader.saveKey
  return { reader with
    keyAllowed := true, key := none, outer := reader.key :: reader.outer }.take token 1

/-- A closing bracket or brace. -/
def readFlowEnd (reader : TokenReader) (token : Token) : Read := do
  let reader ← reader.dropKey
  let reader := match reader.outer with
    | key :: outer => { reader with key, outer }
    | [] => reader
  return { reader with keyAllowed := false }.take token 1

/-- A comma between brackets. -/
def readFlowEntry (reader : TokenReader) : Read := do
  let reader ← reader.dropKey
  return { reader with keyAllowed := true }.take .flowEntry 1

def readBlockEntry (reader : TokenReader) : Read := do
  if !reader.inFlow && !reader.keyAllowed then throw (reader.refuse .entryNotAllowed)
  let reader := reader.openBlock reader.column reader.tokens.length reader.cursor.mark
    .blockSequenceStart
  let reader ← reader.dropKey
  return { reader with keyAllowed := true }.take .blockEntry 1

def readKey (reader : TokenReader) : Read := do
  if !reader.inFlow && !reader.keyAllowed then throw (reader.refuse .keyNotAllowed)
  let reader := reader.openBlock reader.column reader.tokens.length reader.cursor.mark
    .blockMappingStart
  let reader ← reader.dropKey
  return { reader with keyAllowed := !reader.inFlow }.take .key 1

/-- A colon before a value. The key before it is marked now. -/
def readValue (reader : TokenReader) : Read := do
  match reader.key with
  | some key =>
      let reader := reader.insert key.number key.mark [.key]
      let reader := reader.openBlock key.mark.column key.number key.mark .blockMappingStart
      return { reader with key := none, keyAllowed := false }.take .value 1
  | none =>
      if !reader.inFlow && !reader.keyAllowed then throw (reader.refuse .valueNotAllowed)
      let reader := reader.openBlock reader.column reader.tokens.length reader.cursor.mark
        .blockMappingStart
      return { reader with keyAllowed := !reader.inFlow }.take .value 1

/-- The name of a node, a reference, or a tag; it may start a key. -/
def readProperty (reader : TokenReader) (read : Cursor → TokenRead) : Read := do
  let reader ← reader.saveKey
  let (token, next) ← read reader.cursor
  return { reader with keyAllowed := false }.add token next

def readBlockScalar (reader : TokenReader) (isLiteral : Bool) : Read := do
  let reader ← reader.dropKey
  let scalar ← readBlock isLiteral reader.least reader.cursor
  let token := Token.scalar scalar.text (if isLiteral then .literal else .folded)
  return { reader with keyAllowed := true }.add token scalar.cursor

def readQuotedScalar (reader : TokenReader) (isSingle : Bool) : Read := do
  let reader ← reader.saveKey
  let scalar ← readQuoted isSingle reader.cursor
  let token := Token.scalar scalar.text (if isSingle then .single else .double)
  return { reader with keyAllowed := false }.add token scalar.cursor

/-- A plain scalar, which may be a key. Behind a line break another may start. -/
def readPlainScalar (reader : TokenReader) : Read := do
  let reader ← reader.saveKey
  let scalar ← readPlain reader.inFlow reader.least reader.cursor
  return { reader with keyAllowed := scalar.broken }.add (.scalar scalar.text .plain)
    scalar.cursor

def isIndicator (c : Char) : Bool :=
  c ∈ ['-', '?', ':', ',', '[', ']', '\x7b', '\x7d', '#', '&', '*', '!', '|', '>', '\'', '"', '%',
    '@', '`']

def startsPlain (inFlow : Bool) (c : Char) (next : Option Char) : Bool :=
  (isSolid (some c) && !isIndicator c) || (c == '-' && !next.any isBlank)
    || (!inFlow && (c == '?' || c == ':') && isSolid next)

def readToken (reader : TokenReader) (c : Char) : Read :=
  let next := reader.cursor.ahead? 1
  let beforeGap := reader.inFlow || !isSolid next
  if reader.column == 0 && c == '%' then reader.readDirectiveLine
  else if reader.cursor.atDocumentIndicator then
    reader.readDocumentIndicator (if c == '-' then .documentStart else .documentEnd)
  else if c == '[' then reader.readFlowStart .flowSequenceStart
  else if c == '\x7b' then reader.readFlowStart .flowMappingStart
  else if c == ']' then reader.readFlowEnd .flowSequenceEnd
  else if c == '\x7d' then reader.readFlowEnd .flowMappingEnd
  else if c == ',' then reader.readFlowEntry
  else if c == '-' && !isSolid next then reader.readBlockEntry
  else if c == '?' && beforeGap then reader.readKey
  else if c == ':' && beforeGap then reader.readValue
  else if c == '*' then reader.readProperty (readName true)
  else if c == '&' then reader.readProperty (readName false)
  else if c == '!' then reader.readProperty (readTag reader.inFlow)
  else if c == '|' && !reader.inFlow then reader.readBlockScalar true
  else if c == '>' && !reader.inFlow then reader.readBlockScalar false
  else if c == '\'' then reader.readQuotedScalar true
  else if c == '"' then reader.readQuotedScalar false
  else if startsPlain reader.inFlow c next then reader.readPlainScalar
  else .error (.within .badStart reader.cursor.mark .nextToken reader.cursor.mark)

/-- The next token or tokens, and whether they are the last. -/
def readNext (reader : TokenReader) : Except Fault (TokenReader × Bool) := do
  let reader ← (skipToToken (reader.cursor.rest.length + 1) reader).expireAll
  let reader := reader.closeBlocks (reader.column < ·)
  match reader.cursor.head? with
  | none => return (← reader.readEnd, true)
  | some c => return (← reader.readToken c, false)

end TokenReader

/-- The tokens of a text that could be read, and why the reading stopped, if it was not the
end.
-/
structure TokenStream where
  tokens : List PlacedToken
  fault : Option Fault
  deriving Repr

namespace TokenStream

/-- Read on. Should the reading fail, the good tokens are those that were settled before the
last one was read. Every round takes a character, or is the last.
-/
def readFrom : (fuel : Nat) → (settled : Nat) → TokenReader → TokenStream
  | 0, _, reader => ⟨reader.tokens.reverse, none⟩
  | fuel + 1, settled, reader =>
      match reader.expireAll with
      | .error fault => ⟨reader.tokens.reverse.take settled, some fault⟩
      | .ok reader =>
          match reader.readNext with
          | .error fault => ⟨reader.tokens.reverse.take reader.settled, some fault⟩
          | .ok (next, false) => readFrom fuel reader.settled next
          | .ok (last, true) =>
              match last.expireAll with
              | .error fault => ⟨last.tokens.reverse.take reader.settled, some fault⟩
              | .ok last => ⟨last.tokens.reverse, none⟩

def controlOffset? (offset : Nat) : List Char → Option Nat
  | [] => none
  | c :: rest => if isAllowed c then controlOffset? (offset + c.utf8Size) rest else some offset

def ofText (text : List Char) : TokenStream :=
  match controlOffset? 0 text with
  | some offset => ⟨[], some (.control offset)⟩
  | none => readFrom (text.length + 1) 0 (.ofText text)

end TokenStream

end SatClient.Yaml
