/-! The UTF-8 form of a text, and reading it back. Reading accepts only shortest forms and no
surrogates, so that every text has exactly one form.
-/

namespace SatClient.Utf8

abbrev Bytes := List UInt8

def continuation (bits : Nat) : UInt8 := UInt8.ofNat (0x80 + bits % 64)

def encodeChar (c : Char) : Bytes :=
  let n := c.toNat
  if n < 0x80 then [UInt8.ofNat n]
  else if n < 0x800 then [UInt8.ofNat (0xC0 + n / 64), continuation n]
  else if n < 0x10000 then
    [UInt8.ofNat (0xE0 + n / 4096), continuation (n / 64), continuation n]
  else
    [UInt8.ofNat (0xF0 + n / 262144), continuation (n / 4096), continuation (n / 64),
      continuation n]

def encode (text : List Char) : Bytes :=
  text.flatMap encodeChar

def ofString (s : String) : Bytes :=
  encode s.toList

def continuationBits? (b : UInt8) : Option Nat :=
  if 0x80 ≤ b.toNat && b.toNat < 0xC0 then some (b.toNat - 0x80) else none

/-- The character with a code point of at least `least`, unless it is a surrogate or too
great.
-/
def charFrom? (least n : Nat) : Option Char :=
  if least ≤ n then
    if h : n.isValidChar then some (Char.ofNatAux n h) else none
  else none

/-- The first character of some bytes, and the bytes after it. -/
def decodeChar? : Bytes → Option (Char × Bytes)
  | [] => none
  | b :: rest =>
      let n := b.toNat
      if n < 0x80 then (·, rest) <$> charFrom? 0 n
      else if n < 0xC0 then none
      else if n < 0xE0 then
        match rest with
        | b₁ :: rest => do
            let x ← continuationBits? b₁
            (·, rest) <$> charFrom? 0x80 ((n - 0xC0) * 64 + x)
        | _ => none
      else if n < 0xF0 then
        match rest with
        | b₁ :: b₂ :: rest => do
            let x ← continuationBits? b₁
            let y ← continuationBits? b₂
            (·, rest) <$> charFrom? 0x800 ((n - 0xE0) * 4096 + x * 64 + y)
        | _ => none
      else if n < 0xF8 then
        match rest with
        | b₁ :: b₂ :: b₃ :: rest => do
            let x ← continuationBits? b₁
            let y ← continuationBits? b₂
            let z ← continuationBits? b₃
            (·, rest) <$> charFrom? 0x10000 ((n - 0xF0) * 262144 + x * 4096 + y * 64 + z)
        | _ => none
      else none

/-- Reading with the number of bytes as fuel; every character takes at least one. -/
def decodeLoop? : Nat → Bytes → Option (List Char)
  | _, [] => some []
  | 0, _ :: _ => none
  | fuel + 1, bytes => do
      let (c, rest) ← decodeChar? bytes
      (c :: ·) <$> decodeLoop? fuel rest

def decode? (bytes : Bytes) : Option (List Char) :=
  decodeLoop? bytes.length bytes

def toString? (bytes : Bytes) : Option String :=
  String.ofList <$> decode? bytes

end SatClient.Utf8
