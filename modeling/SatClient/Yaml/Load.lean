import SatClient.Yaml.Document
import SatClient.Yaml.Scalar.Plain

/-! Reading documents as records. A record is a mapping whose keys name its fields; other
keys are passed over. Values are read in the order of the text, and the first one that does
not fit stops the reading.
-/

namespace SatClient.Yaml

/-- Why a node does not fit. -/
inductive Mismatch where
  | missingField (name : String)
  | duplicateField (name : String)
  | unknownVariant (found : String) (expected : List String)
  | wrongType (found expected : String)
  | wrongValue (found expected : String)
  deriving DecidableEq, Repr

def backquoted (name : String) : String := "`" ++ name ++ "`"

def Mismatch.message : Mismatch → String
  | missingField name => "missing field " ++ backquoted name
  | duplicateField name => "duplicate field " ++ backquoted name
  | unknownVariant found expected =>
      "unknown variant " ++ backquoted found ++ ", expected "
        ++ " or ".intercalate (expected.map backquoted)
  | wrongType found expected => "invalid type: " ++ found ++ ", expected " ++ expected
  | wrongValue found expected => "invalid value: " ++ found ++ ", expected " ++ expected

/-- Where a node stands: in the text, and under which keys. -/
structure Place where
  mark : Mark
  path : String
  deriving DecidableEq, Repr

inductive LoadFault where
  | document (fault : DocumentFault)
  | endOfDocument
  | mismatch (cause : Mismatch) (place : Option Place)
  | moreDocuments
  deriving DecidableEq, Repr

def LoadFault.message : LoadFault → String
  | document fault => fault.message
  | endOfDocument => "EOF while parsing a value"
  | mismatch cause none => cause.message
  | mismatch cause (some place) =>
      (if place.path.isEmpty then "" else place.path ++ ": ") ++ cause.message
        ++ place.mark.suffix
  | moreDocuments => "deserializing from YAML containing more than one document is not supported"

/-- Give a mismatch its place, unless it has one. -/
def LoadFault.locate (place : Place) : LoadFault → LoadFault
  | mismatch cause none => mismatch cause (some place)
  | fault => fault

/-- The path of a value under a key; a key that is not written out has no name. -/
def childPath (path : String) (key : Option String) : String :=
  (if path.isEmpty then "" else path ++ ".") ++ key.getD "?"

/-- A reader of the node at a position. It hands on the position behind the node. -/
abbrev Loader (α : Type) :=
  Document → (path : String) → (position : Nat) → Except LoadFault (α × Nat)

def Loader.map (f : α → β) (loader : Loader α) : Loader β := fun document path position => do
  let (value, next) ← loader document path position
  return (f value, next)

namespace Document

def item (document : Document) (position : Nat) : Except LoadFault (Item × Mark) :=
  match document.items[position]? with
  | some found => .ok found
  | none =>
      match document.fault with
      | some fault => .error (.document fault)
      | none => .error .endOfDocument

/-- The item that an item stands for, its place, and its position. -/
def follow (document : Document) (position : Nat) : Except LoadFault (Item × Mark × Nat) := do
  let (item, mark) ← document.item position
  match item with
  | .reference number =>
      match document.targets.find? (·.1 == number) with
      | some (_, target) => do
          let (item, mark) ← document.item target
          return (item, mark, target)
      | none => throw .endOfDocument
  | _ => return (item, mark, position)

/-- The position behind the node at a position, when `depth` collections are open. Every
round takes an item.
-/
def skipFrom (document : Document) : (fuel : Nat) → (depth : Nat) → (position : Nat) →
    Except LoadFault Nat
  | 0, _, position => .ok position
  | fuel + 1, depth, position => do
      let (item, _) ← document.item position
      let depth := match item with
        | .sequenceStart _ | .mappingStart _ => depth + 1
        | .sequenceEnd | .mappingEnd => depth - 1
        | _ => depth
      if depth = 0 then return position + 1
      else skipFrom document fuel depth (position + 1)

def skip (document : Document) (position : Nat) : Except LoadFault Nat :=
  document.skipFrom (document.items.length + 1) 0 position

end Document

def coreTag (name : String) : List Char := "tag:yaml.org,2002:".toList ++ name.toList

def textWords (text : List Char) : String := Plain.words (.characters text)

/-- The mismatch of a scalar. A tag decides what it has to be, and a tag of one's own or none
leaves it to the text where it is plain.
-/
def scalarMismatch (text : List Char) (tag : Option (List Char)) (style : Style)
    (expected : String) : Mismatch :=
  let untagged :=
    if style = .plain then Mismatch.wrongType (Plain.ofText text).words expected
    else .wrongType (textWords text) expected
  match tag with
  | none => untagged
  | some tag =>
      if tag = coreTag "bool" then
        match Plain.truth? text with
        | some b => .wrongType (Plain.truth b).words expected
        | none => .wrongValue (textWords text) "a boolean"
      else if tag = coreTag "int" then
        match Plain.whole? text with
        | some (isNegative, n) => .wrongType (Plain.whole isNegative n).words expected
        | none => .wrongValue (textWords text) "an integer"
      else if tag = coreTag "float" then
        match Plain.float? text with
        | some x => .wrongType x.words expected
        | none => .wrongValue (textWords text) "a float"
      else if tag = coreTag "null" then
        if Plain.isNothing text then .wrongType Plain.nothing.words expected
        else .wrongValue (textWords text) "null"
      else if tag.head? == some '!' then untagged
      else .wrongType (textWords text) expected

def misfit (item : Item) (expected : String) : LoadFault :=
  match item with
  | .scalar text tag style => .mismatch (scalarMismatch text tag style expected) none
  | .sequenceStart _ => .mismatch (.wrongType "sequence" expected) none
  | .mappingStart _ => .mismatch (.wrongType "map" expected) none
  | _ => .endOfDocument

/-- A text: any scalar is one. -/
def loadText (expected : String) : Loader String := fun document path position => do
  let (item, mark, _) ← document.follow position
  match item with
  | .scalar text _ _ => return (String.ofList text, position + 1)
  | item => throw ((misfit item expected).locate ⟨mark, path⟩)

def ownTag? : Option (List Char) → Option (List Char)
  | some ('!' :: rest) => some (if rest.isEmpty then ['!'] else rest)
  | _ => none

def checkNothing (item : Item) : Except LoadFault Unit :=
  match item with
  | .scalar text _ style =>
      if style = .plain && (text.isEmpty || Plain.isNothing text) then .ok ()
      else .error (.mismatch (.wrongValue (textWords text) "null") none)
  | item => .error (misfit item "unit")

/-- One of several words, written as a scalar or as a tag in front of nothing. -/
def loadVariant (variants : List (String × α)) : Loader α := fun document path position => do
  let (item, mark, _) ← document.follow position
  let place : Place := ⟨mark, path⟩
  let named (word : List Char) : Except LoadFault α :=
    match variants.find? (·.1.toList == word) with
    | some (_, value) => .ok value
    | none =>
        .error (.mismatch (.unknownVariant (String.ofList word) (variants.map (·.1))) none)
  let tagged (word : List Char) : Except LoadFault (α × Nat) := do
    let value ← named word
    (checkNothing item).mapError (·.locate place)
    return (value, position + 1)
  match item with
  | .scalar text tag _ =>
      match ownTag? tag with
      | some word => tagged word
      | none => do
          let value ← (named text).mapError (·.locate place)
          return (value, position + 1)
  | .mappingStart tag | .sequenceStart tag =>
      match ownTag? tag with
      | some word => tagged word
      | none => throw ((misfit item "a YAML tag starting with '!'").locate place)
  | item => throw (misfit item "a YAML tag starting with '!'")

/-- A field of a record that is being read: its name, whether it has been read, and how to
read it.
-/
structure RecordField (σ : Type) where
  name : String
  isSet : σ → Bool
  load : σ → Loader σ

/-- The entries of a mapping up to its end. Every round takes an item. -/
def loadEntries (fields : List (RecordField σ)) (document : Document) (path : String) :
    (fuel : Nat) → σ → (position : Nat) → Except LoadFault (σ × Nat)
  | 0, found, position => .ok (found, position)
  | fuel + 1, found, position => do
      let (item, _) ← document.item position
      if item = .mappingEnd then return (found, position + 1)
      let (name, next) ← loadText "field identifier" document path position
      match fields.find? (·.name == name) with
      | none => do
          let next ← document.skip next
          loadEntries fields document path fuel found next
      | some field => do
          if field.isSet found then throw (.mismatch (.duplicateField name) none)
          let key := match item with
            | .scalar _ _ _ => some name
            | _ => none
          let (found, next) ← field.load found document (childPath path key) next
          loadEntries fields document path fuel found next

/-- A record. A scalar without any text counts as a mapping without entries. -/
def loadRecord (name : String) (fields : List (RecordField σ)) (start : σ)
    (finish : σ → Except Mismatch α) : Loader α := fun document path position => do
  let (item, mark, target) ← document.follow position
  let complete (found : σ) : Except LoadFault α := (finish found).mapError (.mismatch · none)
  let result : Except LoadFault (α × Nat) :=
    match item with
    | .mappingStart _ => do
        let (found, next) ←
          loadEntries fields document path (document.items.length + 1) start (target + 1)
        return (← complete found, if target = position then next else position + 1)
    | .void => return (← complete start, position + 1)
    | .scalar [] _ _ => return (← complete start, position + 1)
    | item => throw (misfit item ("struct " ++ name))
  result.mapError (·.locate ⟨mark, path⟩)

def require (name : String) : Option α → Except Mismatch α
  | some value => .ok value
  | none => .error (.missingField name)

def load (loader : Loader α) (text : List Char) : Except LoadFault α := do
  let (document, more) := Document.ofText text
  let (value, _) ← loader document "" 0
  match document.fault with
  | some fault => throw (.document fault)
  | none => if more then throw .moreDocuments else return value

end SatClient.Yaml
