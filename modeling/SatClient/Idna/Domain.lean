import SatClient.Idna.Label
import SatClient.Idna.Punycode
import SatClient.Text.Utf8

/-! Domain names in ASCII. A name is brought into normal form and cut into labels at its
points; a label with characters beyond ASCII is written in letters, digits and hyphens
behind a mark of its own, and a label that comes with this mark has to be one that could
have been written so.
-/

namespace SatClient.Idna

open Text

/-- The mark of a label that stands for one beyond ASCII. -/
def labelMark : List Char := ['x', 'n', '-', '-']

def isAscii (text : List Char) : Bool :=
  text.all (·.toNat < 0x80)

/-- The greatest length of a label that is written out, and of one that is read. -/
def longestLabel : Nat × Nat := (1000, 2000)

/-- A label as it is meant: the one that a marked label stands for, or the label itself. -/
def meant? (label : List Char) : Option (List Char) :=
  if labelMark.isPrefixOf label then do
    let code := label.drop labelMark.length
    if !isAscii code || code.getLast? == some '-' || longestLabel.2 < code.length then none
    else
      let text ← Punycode.decode? code
      if !text.isEmpty && !isAscii text && text.all isKept && normalized text == text then
        some text
      else none
  else some label

def asciiLabel? (label : List Char) : Option (List Char) :=
  if isAscii label then some label
  else if longestLabel.1 < label.length then none
  else some (labelMark ++ Punycode.encode label)

/-- A domain name in ASCII, unless it is none. The directions of all labels count as soon
as one holds a character that runs from right to left.
-/
def toAscii? (name : List Char) : Option (List Char) := do
  let replaced ← replaceAll? name
  let labels := (if isAscii replaced then replaced else normalized replaced).splitOn '.'
  let meanings ← labels.mapM meant?
  if !meanings.all (fun label => isAscii label || isLabel label) then none
  else if (meanings.any (·.any (Direction.ofChar · |>.turns)))
      && !meanings.all keepsDirection then none
  else (['.'].intercalate ·) <$> labels.mapM asciiLabel?

end SatClient.Idna
