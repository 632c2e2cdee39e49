import SatClient.Text.Basic

/-! Sets of characters and tables on characters. Both are written as texts of words. For a set the
words are runs of code points in increasing order, a run as one hexadecimal number or as two with a
hyphen between. For a table they have the form `first=values`, `first-last=values` or
`first-last/step=values`, with hexadecimal numbers and a point between two values.
-/

namespace SatClient.Text

def words (text : List Char) : List (List Char) :=
  (text.splitOnP isBlank).filter (!·.isEmpty)

/-- Runs of code points, each from its first to its last member. -/
structure CharRuns where
  runs : Array (Nat × Nat)

namespace CharRuns

def run (word : List Char) : Nat × Nat :=
  match word.splitOn '-' with
  | [first, last] => (ofHex first, ofHex last)
  | _ => (ofHex word, ofHex word)

def ofTable (table : String) : CharRuns :=
  ⟨((words table.toList).map run).toArray⟩

/-- Whether a code point belongs to one of the runs. -/
def holds (set : CharRuns) (n : Nat) : Bool :=
  set.runs.any fun (first, last) => first ≤ n && n ≤ last

def contains (set : CharRuns) (c : Char) : Bool :=
  set.holds c.toNat

end CharRuns

/-- The characters from the first to the last, at equal steps, and what belongs to the first.
-/
structure CharEntry where
  first : Nat
  last : Nat
  step : Nat
  values : List Nat
  deriving Inhabited

namespace CharEntry

def covers (entry : CharEntry) (n : Nat) : Bool :=
  entry.first ≤ n && n ≤ entry.last && (n - entry.first) % entry.step == 0

/-- The code points before the equals sign. -/
def ofKey (key : List Char) (values : List Nat) : CharEntry :=
  match key.splitOn '/' with
  | [run, step] =>
      let (first, last) := CharRuns.run run
      ⟨first, last, ofHex step, values⟩
  | _ =>
      let (first, last) := CharRuns.run key
      ⟨first, last, 1, values⟩

def ofWord (word : List Char) : CharEntry :=
  match word.splitOn '=' with
  | [key, values] => ofKey key ((values.splitOn '.').map ofHex)
  | _ => ofKey word []

end CharEntry

/-- Entries in increasing order. -/
structure CharTable where
  entries : Array CharEntry

namespace CharTable

def ofTable (table : String) : CharTable :=
  ⟨((words table.toList).map CharEntry.ofWord).toArray⟩

def find? (table : CharTable) (n : Nat) : Option CharEntry :=
  table.entries.find? (·.covers n)

end CharTable

end SatClient.Text
