/-! Text in letters, digits and hyphens. The ASCII characters of a text come first; after a
hyphen follow numbers that say which other characters are put in, from the least to the
greatest, and where. A number is written with digits of growing weight, and a digit below
the threshold of its place ends it.
-/

namespace SatClient.Idna.Punycode

def threshold (place bias : Nat) : Nat :=
  if place ≤ bias then 1 else min (place - bias) 26

/-- Divide by 35 until at most 455 is left, counting places. -/
def settle (delta place : Nat) : Nat :=
  if 455 < delta then settle (delta / 35) (place + 36)
  else place + 36 * delta / (delta + 38)
termination_by delta
decreasing_by exact Nat.div_lt_self (by omega) (by omega)

/-- The bias after a number, given how many characters there are with the one just put in. -/
def adapt (delta count : Nat) (first : Bool) : Nat :=
  let delta := if first then delta / 700 else delta / 2
  settle (delta + delta / count) 0

/-- A digit below 36: letters, then decimal digits. -/
def digit (n : Nat) : Char :=
  if n < 26 then Char.ofNat (97 + n) else Char.ofNat (22 + n)

def digitValue? (c : Char) : Option Nat :=
  if c.isLower then some (c.toNat - 97)
  else if c.isUpper then some (c.toNat - 65)
  else if c.isDigit then some (c.toNat - 22)
  else none

def number (bias place n : Nat) : List Char :=
  let t := threshold place bias
  if n < t then [digit n]
  else digit (t + (n - t) % (36 - t)) :: number bias (place + 36) ((n - t) / (36 - t))
termination_by n
decreasing_by
  have low : 1 ≤ threshold place bias := by unfold threshold; split <;> omega
  have high : threshold place bias ≤ 26 := by unfold threshold; split <;> omega
  exact Nat.lt_of_le_of_lt (Nat.div_le_self _ _) (by omega)

/-- How far writing has come: the least code point still to come, the steps since the last
number, the bias, and how many characters are written.
-/
structure Writer where
  least : Nat
  delta : Nat
  bias : Nat
  written : Nat

/-- The numbers for one code point, in a pass over the whole text. -/
def writePass (target : Nat) (first : Bool) (writer : Writer) :
    List Char → List Char × Writer
  | [] => ([], { writer with least := target + 1, delta := writer.delta + 1 })
  | c :: rest =>
      if c.toNat < target then
        writePass target first { writer with delta := writer.delta + 1 } rest
      else if c.toNat = target then
        let bias := adapt writer.delta (writer.written + 1) first
        let (digits, after) :=
          let written := writer.written + 1
          writePass target false { writer with delta := 0, bias, written } rest
        (number writer.bias 36 writer.delta ++ digits, after)
      else writePass target first writer rest

/-- The numbers for all code points from the least on. Every pass takes one of them, so that
the length of the text is fuel enough.
-/
def writeFrom : (fuel : Nat) → (ascii : Nat) → Writer → List Char → List Char
  | 0, _, _, _ => []
  | fuel + 1, ascii, writer, text =>
      match ((text.map Char.toNat).filter (writer.least ≤ ·)).min? with
      | none => []
      | some target =>
          let delta := writer.delta + (target - writer.least) * (writer.written + 1)
          let (digits, after) :=
            writePass target (writer.written == ascii) { writer with delta } text
          digits ++ writeFrom fuel ascii after text

def encode (text : List Char) : List Char :=
  let ascii := text.filter (·.toNat < 0x80)
  let start := if ascii.isEmpty then [] else ascii ++ ['-']
  start ++ writeFrom (text.length + 1) ascii.length ⟨0x80, 0, 72, ascii.length⟩ text

def readNumber (bias place weight value : Nat) : List Char → Option (Nat × List Char)
  | [] => none
  | c :: rest => do
      let d ← digitValue? c
      let value := value + d * weight
      let t := threshold place bias
      if d < t then some (value, rest)
      else readNumber bias (place + 36) (weight * (36 - t)) value rest

def charOf? (n : Nat) : Option Char :=
  if h : n.isValidChar then some (Char.ofNatAux n h) else none

def readFrom : (fuel : Nat) → (code place bias : Nat) → (first : Bool) → (found : List Char) →
    List Char → Option (List Char)
  | _, _, _, _, _, found, [] => some found
  | 0, _, _, _, _, _, _ :: _ => none
  | fuel + 1, code, place, bias, first, found, digits => do
      let (delta, rest) ← readNumber bias 36 1 0 digits
      let count := found.length + 1
      let index := place + delta
      let code := code + index / count
      let c ← charOf? code
      let place := index % count
      readFrom fuel code (place + 1) (adapt delta count first) false
        (found.take place ++ c :: found.drop place) rest

def decode? (text : List Char) : Option (List Char) :=
  let digits := (text.reverse.takeWhile (· ≠ '-')).reverse
  let ascii := text.take (text.length - digits.length - 1)
  if digits.length < text.length && ascii.isEmpty then none
  else readFrom text.length 0x80 0 72 true ascii digits

end SatClient.Idna.Punycode
