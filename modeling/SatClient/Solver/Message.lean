import SatClient.Json.Reader

/-! The messages exchanged with the solver. A request carries the formula, a response an
assignment string or an error. A response is an object or, by position, an array; in an
object other members are passed over, and in either form what is missing counts as null.
-/

namespace SatClient

open Utf8 (Bytes)
open Json (Reader Fault)

def requestBody (prop : Json.Value) : Bytes :=
  Utf8.encode (Json.Value.object [("prop", prop)]).compact

/-- The solver's answer. -/
structure Response where
  assignment : Option String
  error : Option String
  deriving DecidableEq, Repr, Inhabited

namespace Response

def failure (message : String) : Response := ⟨none, some message⟩

def optionJson : Option String → Json.Value
  | none => .null
  | some s => .string s

/-- Both members, always. -/
def toJson (response : Response) : Json.Value :=
  .object [("assignment", optionJson response.assignment), ("error", optionJson response.error)]

def encode (response : Response) : Bytes :=
  Utf8.encode response.toJson.compact

/-- A fault for a value of the wrong type: scalars are read to their end, brackets stay. -/
def wrongType (expected : String) : Bytes → Fault
  | [] => Json.faultAhead .endInValue []
  | b :: rest =>
      if b == Json.byte 'n' then
        found "null" (Json.word ['u', 'l', 'l'] rest)
      else if b == Json.byte 't' then
        found "boolean `true`" (Json.word ['r', 'u', 'e'] rest)
      else if b == Json.byte 'f' then
        found "boolean `false`" (Json.word ['a', 'l', 's', 'e'] rest)
      else if b == Json.byte '-' then number (Json.readNumber true rest)
      else if Json.isDigit b then number (Json.readNumber false (b :: rest))
      else if b == Json.byte '"' then
        match Json.readLiteral rest with
        | .ok (text, rest) =>
            Json.faultAt (.wrongType ("string " ++ Text.quoted text) expected) rest
        | .error fault => fault
      else if b == Json.byte '[' then
        Json.faultAt (.wrongType "sequence" expected) (b :: rest)
      else if b == Json.byte '\x7b' then Json.faultAt (.wrongType "map" expected) (b :: rest)
      else Json.faultAhead .expectedValue (b :: rest)
where
  found (what : String) : Except Fault (Unit × Bytes) → Fault
    | .ok (_, rest) => Json.faultAt (.wrongType what expected) rest
    | .error fault => fault
  number : Except Fault (Json.Number × Bytes) → Fault
    | .ok (.float x, rest) =>
        Json.faultAt (.wrongType ("floating point `" ++ String.ofList (Json.Number.float x).text
          ++ "`") expected) rest
    | .ok (n, rest) =>
        Json.faultAt (.wrongType ("integer `" ++ String.ofList n.text ++ "`") expected) rest
    | .error fault => fault

/-- A text or null. -/
def readOption : Reader (Option String) := fun rest =>
  match Json.skipSpace rest with
  | [] => .error (Json.faultAhead .endInValue [])
  | b :: rest =>
      if b == Json.byte 'n' then do
        let (_, rest) ← Json.word ['u', 'l', 'l'] rest
        .ok (none, rest)
      else if b == Json.byte '"' then do
        let (text, rest) ← Json.readLiteral rest
        .ok (some text, rest)
      else .error (wrongType "a string" (b :: rest))

/-- The end of an array that has no further items to offer. -/
def endOfArray : Reader Unit := fun rest =>
  match Json.skipSpace rest with
  | [] => .error (Json.faultAhead .endInList [])
  | b :: rest =>
      if b == Json.byte ']' then .ok ((), rest)
      else if b == Json.byte ',' then
        match Json.skipSpace rest with
        | [] => .error (Json.faultAhead .trailingCharacters [])
        | b :: rest =>
            if b == Json.byte ']' then .error (Json.faultAhead .trailingComma (b :: rest))
            else .error (Json.faultAhead .trailingCharacters (b :: rest))
      else .error (Json.faultAhead .trailingCharacters (b :: rest))

/-- The items of an array, after its bracket: the assignment, then the error. -/
def readArray : Reader Response := fun rest => do
  let (more, rest) ← Json.nextItem true rest
  if !more then
    let (_, rest) ← endOfArray rest
    return (⟨none, none⟩, rest)
  let (assignment, rest) ← readOption rest
  let (more, rest) ← Json.nextItem false rest
  if !more then
    let (_, rest) ← endOfArray rest
    return (⟨assignment, none⟩, rest)
  let (error, rest) ← readOption rest
  let (_, rest) ← endOfArray rest
  return (⟨assignment, error⟩, rest)

/-- The members met so far: each of the two names with its value. -/
structure Members where
  assignment : Option (Option String)
  error : Option (Option String)
  deriving DecidableEq, Repr

def Members.response (found : Members) : Response :=
  ⟨found.assignment.getD none, found.error.getD none⟩

/-- The fault for a member that occurs again. The reader looks for the end of the object
first, and stops behind it when it is there.
-/
def duplicate (name : String) (rest : Bytes) : Fault :=
  match Json.skipSpace rest with
  | [] => Json.faultAt (.duplicateField name) []
  | b :: rest =>
      Json.faultAt (.duplicateField name) (if b == Json.byte '\x7d' then rest else b :: rest)

/-- The value of a member, put with those met before. -/
def readMember (name : String) (found : Members) : Reader Members := fun rest =>
  if name = "assignment" then
    if found.assignment.isSome then .error (duplicate name rest)
    else do
      let (_, rest) ← Json.colon rest
      let (text, rest) ← readOption rest
      .ok ({ found with assignment := some text }, rest)
  else if name = "error" then
    if found.error.isSome then .error (duplicate name rest)
    else do
      let (_, rest) ← Json.colon rest
      let (text, rest) ← readOption rest
      .ok ({ found with error := some text }, rest)
  else do
    let (_, rest) ← Json.colon rest
    let (_, rest) ← Json.skipValue (Json.fuelFor rest) rest
    .ok (found, rest)

/-- The members of an object up to its end, after its brace. Every member takes a byte of
fuel.
-/
def readMembers : (fuel : Nat) → (first : Bool) → (found : Members) → Reader Members
  | 0, _, _, rest => .error (Json.faultAhead .endInObject rest)
  | fuel + 1, first, found, rest => do
      let (more, rest) ← Json.nextMember first rest
      if more then
        let (name, rest) ← Json.readLiteral rest
        let (found, rest) ← readMember name found rest
        readMembers fuel false found rest
      else .ok (found, rest.drop 1)

def read : Reader Response := fun rest =>
  match Json.skipSpace rest with
  | [] => .error (Json.faultAhead .endInValue [])
  | b :: rest =>
      if b == Json.byte '[' then readArray rest
      else if b == Json.byte '\x7b' then do
        let (found, rest) ← readMembers (rest.length + 1) true ⟨none, none⟩ rest
        .ok (found.response, rest)
      else .error (wrongType "struct SolveResponse" (b :: rest))

def decode (body : Bytes) : Except Fault Response := do
  let (response, rest) ← read body
  Json.endOfText rest
  return response

end Response

end SatClient
