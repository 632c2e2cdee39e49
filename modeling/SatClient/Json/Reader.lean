import SatClient.Json.Value

/-! Reading a JSON text as a value, and passing over one without looking at what it means.
A value may nest only so deep; a text that is passed over may nest at will, its numbers may
be too large and its string literals need not be texts.

Both readers get twice the number of bytes ahead as fuel: every call takes a byte, or is
followed by one that does.
-/

namespace SatClient.Json

open Utf8 (Bytes)

/-- How many levels of brackets a value may open. -/
def maxNesting : Nat := 127

/-- The rest of a word whose first letter was taken. -/
def word : List Char → Reader Unit
  | [], rest => .ok ((), rest)
  | _ :: _, [] => .error (faultAt .endInValue [])
  | c :: letters, b :: rest =>
      if b == byte c then word letters rest else .error (faultAt .expectedWord rest)

def colon : Reader Unit := fun rest =>
  match skipSpace rest with
  | [] => .error (faultAhead .endInObject [])
  | b :: rest =>
      if b == byte ':' then .ok ((), rest) else .error (faultAhead .expectedColon (b :: rest))

/-- Whether another item follows in a list, and the input from there: the bracket that closes
the list stays in place.
-/
def nextItem (first : Bool) : Reader Bool := fun rest =>
  match skipSpace rest with
  | [] => .error (faultAhead .endInList [])
  | b :: rest =>
      if b == byte ']' then .ok (false, b :: rest)
      else if first then .ok (true, b :: rest)
      else if b == byte ',' then
        match skipSpace rest with
        | [] => .error (faultAhead .endInValue [])
        | b :: rest =>
            if b == byte ']' then .error (faultAhead .trailingComma (b :: rest))
            else .ok (true, b :: rest)
      else .error (faultAhead .expectedListCommaOrEnd (b :: rest))

/-- Whether another member follows in an object; if so, its name is next, the quote that
opens it taken. The brace that closes the object stays in place.
-/
def nextMember (first : Bool) : Reader Bool := fun rest =>
  match skipSpace rest with
  | [] => .error (faultAhead .endInObject [])
  | b :: rest =>
      if b == byte '\x7d' then .ok (false, b :: rest)
      else if first then
        if b == byte '"' then .ok (true, rest)
        else .error (faultAhead .keyMustBeString (b :: rest))
      else if b == byte ',' then
        match skipSpace rest with
        | [] => .error (faultAhead .endInValue [])
        | b :: rest =>
            if b == byte '"' then .ok (true, rest)
            else if b == byte '\x7d' then .error (faultAhead .trailingComma (b :: rest))
            else .error (faultAhead .keyMustBeString (b :: rest))
      else .error (faultAhead .expectedObjectCommaOrEnd (b :: rest))

mutual
/-- A value; `room` levels of brackets may still be opened. -/
def value : (fuel room : Nat) → Reader Value
  | 0, _, rest => .error (faultAhead .endInValue rest)
  | fuel + 1, room, rest =>
      match skipSpace rest with
      | [] => .error (faultAhead .endInValue [])
      | b :: rest =>
          if b == byte 'n' then do
            let (_, rest) ← word ['u', 'l', 'l'] rest
            .ok (.null, rest)
          else if b == byte 't' then do
            let (_, rest) ← word ['r', 'u', 'e'] rest
            .ok (.bool true, rest)
          else if b == byte 'f' then do
            let (_, rest) ← word ['a', 'l', 's', 'e'] rest
            .ok (.bool false, rest)
          else if b == byte '-' then do
            let (n, rest) ← readNumber true rest
            .ok (.number n, rest)
          else if isDigit b then do
            let (n, rest) ← readNumber false (b :: rest)
            .ok (.number n, rest)
          else if b == byte '"' then do
            let (text, rest) ← readLiteral rest
            .ok (.string text, rest)
          else if b == byte '[' then
            match room with
            | 0 => .error (faultAhead .tooDeep (b :: rest))
            | room + 1 => do
                let (found, rest) ← items fuel room true rest
                .ok (.array found, rest)
          else if b == byte '\x7b' then
            match room with
            | 0 => .error (faultAhead .tooDeep (b :: rest))
            | room + 1 => do
                let (found, rest) ← members fuel room true [] rest
                .ok (.object found, rest)
          else .error (faultAhead .expectedValue (b :: rest))

def items : (fuel room : Nat) → (first : Bool) → Reader (List Value)
  | 0, _, _, rest => .error (faultAhead .endInList rest)
  | fuel + 1, room, first, rest => do
      let (more, rest) ← nextItem first rest
      if more then
        let (item, rest) ← value fuel room rest
        let (others, rest) ← items fuel room false rest
        .ok (item :: others, rest)
      else .ok ([], rest.drop 1)

/-- The members of an object up to its end, put among those found before. -/
def members : (fuel room : Nat) → (first : Bool) → (found : List (String × Value)) →
    Reader (List (String × Value))
  | 0, _, _, _, rest => .error (faultAhead .endInObject rest)
  | fuel + 1, room, first, found, rest => do
      let (more, rest) ← nextMember first rest
      if more then
        let (name, rest) ← readLiteral rest
        let (_, rest) ← colon rest
        let (member, rest) ← value fuel room rest
        members fuel room false (insertMember name member found) rest
      else .ok (found, rest.drop 1)
end

def skipName : Reader Unit := fun rest =>
  match skipSpace rest with
  | [] => .error (faultAhead .endInObject [])
  | b :: rest =>
      if b == byte '"' then do
        let (_, rest) ← skipLiteral rest
        colon rest
      else .error (faultAhead .keyMustBeString (b :: rest))

mutual
def skipValue : (fuel : Nat) → Reader Unit
  | 0, rest => .error (faultAhead .endInValue rest)
  | fuel + 1, rest =>
      match skipSpace rest with
      | [] => .error (faultAhead .endInValue [])
      | b :: rest =>
          if b == byte 'n' then word ['u', 'l', 'l'] rest
          else if b == byte 't' then word ['r', 'u', 'e'] rest
          else if b == byte 'f' then word ['a', 'l', 's', 'e'] rest
          else if b == byte '-' then skipNumber rest
          else if isDigit b then skipNumber (b :: rest)
          else if b == byte '"' then skipLiteral rest
          else if b == byte '[' then skipItems fuel true rest
          else if b == byte '\x7b' then skipMembers fuel true rest
          else .error (faultAhead .expectedValue (b :: rest))

def skipItems : (fuel : Nat) → (first : Bool) → Reader Unit
  | 0, _, rest => .error (faultAhead .endInList rest)
  | fuel + 1, first, rest =>
      match skipSpace rest with
      | [] => .error (faultAhead .endInList [])
      | b :: rest =>
          if b == byte ']' then .ok ((), rest)
          else if first then do
            let (_, rest) ← skipValue fuel (b :: rest)
            skipItems fuel false rest
          else if b == byte ',' then do
            let (_, rest) ← skipValue fuel rest
            skipItems fuel false rest
          else .error (faultAhead .expectedListCommaOrEnd (b :: rest))

def skipMembers : (fuel : Nat) → (first : Bool) → Reader Unit
  | 0, _, rest => .error (faultAhead .endInObject rest)
  | fuel + 1, first, rest =>
      match skipSpace rest with
      | [] => .error (faultAhead .endInObject [])
      | b :: rest =>
          if b == byte '\x7d' then .ok ((), rest)
          else if first then do
            let (_, rest) ← skipName (b :: rest)
            let (_, rest) ← skipValue fuel rest
            skipMembers fuel false rest
          else if b == byte ',' then do
            let (_, rest) ← skipName rest
            let (_, rest) ← skipValue fuel rest
            skipMembers fuel false rest
          else .error (faultAhead .expectedObjectCommaOrEnd (b :: rest))
end

def fuelFor (input : Bytes) : Nat := 2 * input.length + 2

/-- Only space may follow at the end of a text. -/
def endOfText (rest : Bytes) : Except Fault Unit :=
  match skipSpace rest with
  | [] => .ok ()
  | b :: rest => .error (faultAhead .trailingCharacters (b :: rest))

def parse (input : Bytes) : Except Fault Value := do
  let (found, rest) ← value (fuelFor input) maxNesting input
  endOfText rest
  return found

/-- Whether a whole text is well-formed JSON, as a fault or nothing. -/
def checkText (input : Bytes) : Except Fault Unit := do
  let (_, rest) ← skipValue (fuelFor input) input
  endOfText rest

end SatClient.Json
