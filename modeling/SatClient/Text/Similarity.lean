/-! How alike two words are, by Jaro's measure: the share of characters that both have at
nearly the same place, less the half of those that stand in another order.
-/

namespace SatClient.Text

/-- A likeness between none at all and one, as a quotient of natural numbers. -/
structure Likeness where
  numerator : Nat
  denominator : Nat
  deriving DecidableEq, Repr

namespace Likeness

def zero : Likeness := ⟨0, 1⟩

/-- Whether the second likeness is less than the first. -/
def exceeds (a b : Likeness) : Bool :=
  b.numerator * a.denominator < a.numerator * b.denominator

end Likeness

/-- The first free place with a character from a place on, before a bound; taken places are
those in the list.
-/
def freePlace? (c : Char) (text : List Char) (taken : List Nat) (least bound : Nat) :
    Option Nat :=
  (List.range bound).find? fun j => least ≤ j && text[j]? == some c && !taken.contains j

/-- The pairs of places of characters that two texts share, given how far apart they may be.
Each character of the first text takes the first free place.
-/
def matchPlaces (reach : Nat) (a b : List Char) : List (Nat × Nat) :=
  a.zipIdx.foldl (fun found (c, i) =>
    match freePlace? c b (found.map (·.2)) (i - reach) (min b.length (i + reach + 1)) with
    | some j => found ++ [(i, j)]
    | none => found) []

def likeness (a b : List Char) : Likeness :=
  let reach := max a.length b.length / 2 - 1
  let pairs := matchPlaces reach a b
  let m := pairs.length
  if m = 0 then .zero
  else
    let inA := pairs.filterMap fun (i, _) => a[i]?
    let inB := ((List.range b.length).filter (pairs.map (·.2)).contains).filterMap (b[·]?)
    let swapped := ((inA.zip inB).filter fun (x, y) => x ≠ y).length / 2
    ⟨m * m * (a.length + b.length) + (m - swapped) * a.length * b.length,
      3 * m * a.length * b.length⟩

def hintThreshold : Likeness := ⟨7, 10⟩

def insertCandidate (new : Likeness × String) : List (Likeness × String) → List (Likeness × String)
  | [] => [new]
  | old :: rest =>
      if old.1.exceeds new.1 then new :: old :: rest else old :: insertCandidate new rest

/-- The words that are much like a given one, the least alike first. -/
def similarWords (word : String) (words : List String) : List String :=
  (words.foldl (fun found other =>
    let measure := likeness word.toList other.toList
    if measure.exceeds hintThreshold then insertCandidate (measure, other) found else found)
    []).map (·.2)

end SatClient.Text
