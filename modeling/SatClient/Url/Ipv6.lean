import SatClient.Text.Basic

/-! Internet addresses of the sixth version: eight groups, of which a run of zeros may be
left out once, and the last two may be written as an address of the fourth version.
-/

namespace SatClient.Url

/-- An address as its eight groups of 16 bits. -/
structure Ipv6 where
  groups : List Nat
  deriving DecidableEq, Repr

namespace Ipv6

def group? (text : List Char) : Option Nat :=
  if text.isEmpty || 4 < text.length || !text.all (Text.hexValue? · |>.isSome) then none
  else some (Text.ofHex text)

/-- A decimal number below 256 without needless zeros. -/
def byte? (text : List Char) : Option Nat :=
  match text with
  | ['0'] => some 0
  | '0' :: _ => none
  | _ =>
      if text.isEmpty || 3 < text.length || !text.all Char.isDigit then none
      else
        let n := text.foldl (fun n c => 10 * n + (c.toNat - 48)) 0
        if n < 256 then some n else none

/-- Two groups written as four bytes with points between. -/
def dotted? (text : List Char) : Option (List Nat) := do
  match ← (text.splitOn '.').mapM byte? with
  | [a, b, c, d] => some [256 * a + b, 256 * c + d]
  | _ => none

/-- Groups with colons between; in the last place two may be written with points. -/
def groups? (lastMayBeDotted : Bool) : List (List Char) → Option (List Nat)
  | [] => some []
  | [last] =>
      if lastMayBeDotted && last.contains '.' then dotted? last else (fun n => [n]) <$> group? last
  | piece :: rest => do
      let n ← group? piece
      (n :: ·) <$> groups? lastMayBeDotted rest

/-- The groups of one side of the gap; nothing at all is no group. -/
def side? (lastMayBeDotted : Bool) (text : List Char) : Option (List Nat) :=
  if text.isEmpty then some [] else groups? lastMayBeDotted (text.splitOn ':')

/-- The texts before and after the first two colons in a row. -/
def gap? : List Char → Option (List Char × List Char)
  | ':' :: ':' :: rest => some ([], rest)
  | c :: rest => (fun (before, after) => (c :: before, after)) <$> gap? rest
  | [] => none

/-- The address that a text stands for, if it is a good one. A gap stands for at least one
group.
-/
def parse? (text : List Char) : Option Ipv6 :=
  match gap? text with
  | none => do
      let groups ← groups? true (text.splitOn ':')
      if groups.length = 8 then some ⟨groups⟩ else none
  | some (before, after) => do
      let first ← side? false before
      let last ← side? true after
      let count := first.length + last.length
      if count < 8 then some ⟨first ++ List.replicate (8 - count) 0 ++ last⟩ else none

def zeros (groups : List Nat) : Nat :=
  (groups.takeWhile (· == 0)).length

/-- Where the longest run of zeros starts, and its length; the first of several. -/
def longestZeros (start : Nat) : List Nat → Nat × Nat
  | [] => (start, 0)
  | group :: rest =>
      let here := zeros (group :: rest)
      let (place, length) := longestZeros (start + 1) rest
      if length ≤ here then (start, here) else (place, length)

def groupsText (groups : List Nat) : List Char :=
  [':'].intercalate (groups.map Text.hexDigits)

/-- An address with its longest run of at least two zeros left out. -/
def text (address : Ipv6) : List Char :=
  let (start, length) := longestZeros 0 address.groups
  if length < 2 then groupsText address.groups
  else
    groupsText (address.groups.take start) ++ [':', ':']
      ++ groupsText (address.groups.drop (start + length))

end Ipv6

end SatClient.Url
