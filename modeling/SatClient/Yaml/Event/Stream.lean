import SatClient.Yaml.Token.Stream

/-! The events of YAML tell what a document holds, from its start to its end, with collections
opened and closed. Tags are complete in them, and a node may have a name. Tokens are read as events;
a reader adds events to those found so far, and keeps them when it stops with a fault.

The readers that call each other get as fuel three times the number of tokens: every call
takes a token, or is one of at most two that lead to one that does.
-/

namespace SatClient.Yaml

-----------------------------------------------------------------------------------------
-- Events
-----------------------------------------------------------------------------------------

/-- What a node may have in front of it. -/
structure Properties where
  name : Option (List Char)
  tag : Option (List Char)
  deriving DecidableEq, Repr

inductive Event where
  | documentStart
  | documentEnd
  | reference (name : List Char)
  | scalar (properties : Properties) (text : List Char) (style : Style)
  | sequenceStart (properties : Properties)
  | sequenceEnd
  | mappingStart (properties : Properties)
  | mappingEnd
  deriving DecidableEq, Repr

structure PlacedEvent where
  event : Event
  mark : Mark
  deriving DecidableEq, Repr

def Event.nothing : Event := .scalar ⟨none, none⟩ [] .plain

-----------------------------------------------------------------------------------------
-- Reading
-----------------------------------------------------------------------------------------

/-- The tokens that are left, the events found, latest first, and the tags that handles
stand for.
-/
structure EventState where
  tokens : List PlacedToken
  /-- Why there are no more tokens. -/
  fault : Option Fault
  events : List PlacedEvent
  handles : List (List Char × List Char)

abbrev EventReader (α : Type) := ExceptT Fault (StateM EventState) α

namespace EventReader

/-- The end of the tokens. A stream without a fault ends with a token of its own, so that the
second case does not arise.
-/
def endOfTokens (state : EventState) : Fault :=
  state.fault.getD (.malformed .endOfStream .start none)

def peek : EventReader PlacedToken := do
  let state ← get
  match state.tokens with
  | token :: _ => return token
  | [] => throw (endOfTokens state)

def skip : EventReader Unit :=
  modify fun state => { state with tokens := state.tokens.drop 1 }

def emit (event : Event) (mark : Mark) : EventReader Unit :=
  modify fun state => { state with events := ⟨event, mark⟩ :: state.events }

def emitNothing (mark : Mark) : EventReader Unit := emit .nothing mark

/-! ### Directives -/

def defaultHandles : List (List Char × List Char) :=
  [(['!'], ['!']), (['!', '!'], "tag:yaml.org,2002:".toList)]

/-- Read directives up to something else. Every round takes a token. -/
def readDirectives : (fuel : Nat) → (hasVersion : Bool) →
    (handles : List (List Char × List Char)) → EventReader (List (List Char × List Char))
  | 0, _, handles => return handles
  | fuel + 1, hasVersion, handles => do
      let next ← peek
      match next.token with
      | .versionDirective major minor => do
          if hasVersion then throw (.malformed .duplicateVersion next.start none)
          if !(major == 1 && (minor == 1 || minor == 2)) then
            throw (.malformed .incompatibleVersion next.start none)
          skip
          readDirectives fuel true handles
      | .tagDirective handle uri => do
          if handles.any (·.1 == handle) then
            throw (.malformed .duplicateTag next.start none)
          skip
          readDirectives fuel hasVersion (handles ++ [(handle, uri)])
      | _ => return handles

def directives : EventReader Unit := do
  let handles ← readDirectives (← get).tokens.length false []
  modify fun state => { state with handles := handles ++ defaultHandles }

/-! ### Nodes -/

/-- A tag as it stands in front of a node. -/
structure WrittenTag where
  handle : List Char
  rest : List Char
  mark : Mark

/-- The name and the tag in front of a node, in either order. -/
def properties : EventReader (Option (List Char) × Option WrittenTag) := do
  let next ← peek
  match next.token with
  | .anchor name => do
      skip
      let next ← peek
      match next.token with
      | .tag handle rest => do
          skip
          return (some name, some ⟨handle, rest, next.start⟩)
      | _ => return (some name, none)
  | .tag handle rest => do
      skip
      let tag := WrittenTag.mk handle rest next.start
      let next ← peek
      match next.token with
      | .anchor name => do
          skip
          return (some name, some tag)
      | _ => return (none, some tag)
  | _ => return (none, none)

/-- The complete form of a tag, in front of a node that starts at the given place. -/
def completeTag (start : Mark) : Option WrittenTag → EventReader (Option (List Char))
  | none => return none
  | some tag => do
      if tag.handle.isEmpty then return some tag.rest
      match (← get).handles.find? (·.1 == tag.handle) with
      | some (_, uri) => return some (uri ++ tag.rest)
      | none => throw (.within .undefinedHandle tag.mark .node start)

/-- The tag of a scalar as it counts: a lone exclamation mark only says that the scalar is a
text or not, as its style does.
-/
def scalarTag (tag : Option (List Char)) : Option (List Char) :=
  if tag == some ['!'] then none else tag

/-- Where a node stands: in a block or between brackets, and whether a list may start in it
without indentation.
-/
inductive Setting where
  | block
  | blockOrList
  | flow
  deriving DecidableEq, Repr

def Setting.isBlock : Setting → Bool
  | flow => false
  | _ => true

/-- Tokens that end a value of a block mapping before it starts. -/
def endsBlockNode : Token → Bool
  | .key | .value | .blockEnd => true
  | _ => false

/-- Take a comma, unless this is the first entry. -/
def separator (first : Bool) (problem : Problem) (activity : Activity) (opened : Mark) :
    EventReader Unit := do
  if !first then
    let next ← peek
    match next.token with
    | .flowEntry => skip
    | _ => throw (.within problem next.start activity opened)

mutual
/-- A node: an alias, a scalar or a collection. -/
def node : (fuel : Nat) → Setting → EventReader Unit
  | 0, _ => return
  | fuel + 1, setting => do
      let first ← peek
      match first.token with
      | .reference name => do
          skip
          emit (.reference name) first.start
      | _ => do
          let (name, written) ← properties
          let tag ← completeTag first.start written
          content fuel setting first.start name tag

def content : (fuel : Nat) → Setting → Mark → Option (List Char) → Option (List Char) →
    EventReader Unit
  | 0, _, _, _, _ => return
  | fuel + 1, setting, start, name, tag => do
      let next ← peek
      let found : Properties := ⟨name, tag⟩
      match next.token, setting with
      | .blockEntry, .blockOrList => do
          emit (.sequenceStart found) start
          listEntries fuel
      | .scalar text style, _ => do
          skip
          emit (.scalar ⟨name, scalarTag tag⟩ text style) start
      | .flowSequenceStart, _ => do
          skip
          emit (.sequenceStart found) start
          flowSequence fuel true next.start
      | .flowMappingStart, _ => do
          skip
          emit (.mappingStart found) start
          flowMapping fuel true next.start
      | .blockSequenceStart, .block | .blockSequenceStart, .blockOrList => do
          skip
          emit (.sequenceStart found) start
          blockSequence fuel next.start
      | .blockMappingStart, .block | .blockMappingStart, .blockOrList => do
          skip
          emit (.mappingStart found) start
          blockMapping fuel next.start
      | _, _ => do
          if name.isSome || tag.isSome then emit (.scalar found [] .plain) start
          else
            let activity := if setting.isBlock then Activity.blockNode else .flowNode
            throw (.within .noNodeContent next.start activity start)

def blockSequence : (fuel : Nat) → (opened : Mark) → EventReader Unit
  | 0, _ => return
  | fuel + 1, opened => do
      let next ← peek
      match next.token with
      | .blockEntry => do
          skip
          match (← peek).token with
          | .blockEntry | .blockEnd => emitNothing next.stop
          | _ => node fuel .block
          blockSequence fuel opened
      | .blockEnd => do
          skip
          emit .sequenceEnd next.start
      | _ => throw (.within .noDash next.start .blockSequence opened)

def listEntries : (fuel : Nat) → EventReader Unit
  | 0 => return
  | fuel + 1 => do
      let next ← peek
      match next.token with
      | .blockEntry => do
          skip
          match (← peek).token with
          | .blockEntry | .key | .value | .blockEnd => emitNothing next.stop
          | _ => node fuel .block
          listEntries fuel
      | _ => emit .sequenceEnd next.start

def blockMapping : (fuel : Nat) → (opened : Mark) → EventReader Unit
  | 0, _ => return
  | fuel + 1, opened => do
      let next ← peek
      match next.token with
      | .key => do
          skip
          if endsBlockNode (← peek).token then emitNothing next.stop
          else node fuel .blockOrList
          blockValue fuel
          blockMapping fuel opened
      | .blockEnd => do
          skip
          emit .mappingEnd next.start
      | _ => throw (.within .noKey next.start .blockMapping opened)

def blockValue : (fuel : Nat) → EventReader Unit
  | 0 => return
  | fuel + 1 => do
      let next ← peek
      match next.token with
      | .value => do
          skip
          if endsBlockNode (← peek).token then emitNothing next.stop
          else node fuel .blockOrList
      | _ => emitNothing next.start

def flowSequence : (fuel : Nat) → (first : Bool) → (opened : Mark) → EventReader Unit
  | 0, _, _ => return
  | fuel + 1, first, opened => do
      if (← peek).token ≠ .flowSequenceEnd then
        separator first .noCommaOrBracket .flowSequence opened
      let next ← peek
      match next.token with
      | .flowSequenceEnd => do
          skip
          emit .sequenceEnd next.start
      | .key => do
          skip
          emit (.mappingStart ⟨none, none⟩) next.start
          pairKey fuel
          pairValue fuel
          emit .mappingEnd (← peek).start
          flowSequence fuel false opened
      | _ => do
          node fuel .flow
          flowSequence fuel false opened

/-- The key of a single pair in a list. Where it is missing, the token found instead is
passed over.
-/
def pairKey : (fuel : Nat) → EventReader Unit
  | 0 => return
  | fuel + 1 => do
      let next ← peek
      match next.token with
      | .value | .flowEntry | .flowSequenceEnd => do
          skip
          emitNothing next.stop
      | _ => node fuel .flow

def pairValue : (fuel : Nat) → EventReader Unit
  | 0 => return
  | fuel + 1 => do
      let next ← peek
      match next.token with
      | .value => do
          skip
          let next ← peek
          match next.token with
          | .flowEntry | .flowSequenceEnd => emitNothing next.start
          | _ => node fuel .flow
      | _ => emitNothing next.start

def flowMapping : (fuel : Nat) → (first : Bool) → (opened : Mark) → EventReader Unit
  | 0, _, _ => return
  | fuel + 1, first, opened => do
      if (← peek).token ≠ .flowMappingEnd then
        separator first .noCommaOrBrace .flowMapping opened
      let next ← peek
      match next.token with
      | .flowMappingEnd => do
          skip
          emit .mappingEnd next.start
      | .key => do
          skip
          let next ← peek
          match next.token with
          | .value | .flowEntry | .flowMappingEnd => emitNothing next.start
          | _ => node fuel .flow
          flowValue fuel
          flowMapping fuel false opened
      | _ => do
          node fuel .flow
          emitNothing (← peek).start
          flowMapping fuel false opened

def flowValue : (fuel : Nat) → EventReader Unit
  | 0 => return
  | fuel + 1 => do
      let next ← peek
      match next.token with
      | .value => do
          skip
          let next ← peek
          match next.token with
          | .flowEntry | .flowMappingEnd => emitNothing next.start
          | _ => node fuel .flow
      | _ => emitNothing next.start
end

/-! ### Documents -/

def skipDocumentEnds : EventReader Unit :=
  modify fun state => { state with tokens := state.tokens.dropWhile (·.token = .documentEnd) }

/-- Tokens before which a document that was announced has nothing in it. -/
def endsDocument : Token → Bool
  | .versionDirective _ _ | .tagDirective _ _ | .documentStart | .documentEnd
  | .streamEnd => true
  | _ => false

/-- Any node, with fuel enough for the tokens that are left. -/
def anyNode : EventReader Unit := do
  node (3 * (← get).tokens.length + 3) .block

/-- The node of a document that was announced; it may be missing. -/
def announcedNode : EventReader Unit := do
  let next ← peek
  if endsDocument next.token then emitNothing next.start else anyNode

def endDocument : EventReader Unit := do
  let next ← peek
  emit .documentEnd next.start
  if next.token = .documentEnd then skip

/-- Tokens before which a document has to be announced. -/
def announces : Token → Bool
  | .versionDirective _ _ | .tagDirective _ _ | .documentStart => true
  | _ => false

/-- The next document, and whether there is one. Only the first one of a text may start
without being announced.
-/
def document (first : Bool) : EventReader Bool := do
  if !first then skipDocumentEnds
  let start ← peek
  if start.token = .streamEnd then return false
  directives
  if first && !announces start.token then
    emit .documentStart start.start
    anyNode
  else
    let next ← peek
    if next.token ≠ .documentStart then
      throw (.malformed .noDocumentStart next.start none)
    skip
    emit .documentStart start.start
    announcedNode
  endDocument
  return true

end EventReader

end SatClient.Yaml
