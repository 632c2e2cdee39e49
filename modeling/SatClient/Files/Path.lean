import SatClient.Text.Basic

/-! Paths of files: steps with slashes between. A path is shown as it was given, so it keeps
its text; slashes in a row and steps to the same place are passed over.
-/

namespace SatClient.Files

structure Path where
  text : String
  deriving DecidableEq, Repr

namespace Path

def pieces (path : Path) : List String :=
  (path.text.toList.splitOn '/').map String.ofList

def steps (path : Path) : List String :=
  path.pieces.filter (· ≠ "")

/-- Whether a path starts at the top, and not at the working directory. -/
def isAbsolute (path : Path) : Bool :=
  path.text.toList.head? == some '/'

/-- Whether a path is to lead to a directory by its last character. -/
def endsInSlash (path : Path) : Bool :=
  path.text.toList.getLast? == some '/'

/-- Leave out what leads nowhere from the end of pieces in reverse order; the first piece
stays.
-/
def trimPieces : List String → List String
  | [first] => [first]
  | piece :: rest => if piece = "" ∨ piece = "." then trimPieces rest else piece :: rest
  | [] => []

def ofPieces (pieces : List String) : Path :=
  if pieces = [""] then ⟨"/"⟩ else ⟨"/".intercalate pieces⟩

/-- The path without its last step. One step alone has the working directory left, whose
path has no text; that path and the root are without one.
-/
def parent? (path : Path) : Option Path :=
  match trimPieces path.pieces.reverse with
  | [] => none
  | [first] => if first = "" then none else some ⟨""⟩
  | _ :: rest => some (ofPieces (trimPieces rest).reverse)

/-- A path and the ones that it leads through, longest first, as far as they have a name. The
number of characters bounds their number.
-/
def chain : (fuel : Nat) → Path → List Path
  | 0, _ => []
  | fuel + 1, path =>
      match path.parent? with
      | none => []
      | some parent => path :: chain fuel parent

/-- A path and the ones that it leads through, longest first. -/
def ancestors (path : Path) : List Path :=
  chain (path.text.length + 1) path

/-- A path inside of another; one from the root stands for itself. -/
def join (directory path : Path) : Path :=
  if path.isAbsolute ∨ directory.text = "" then path
  else if directory.endsInSlash then ⟨directory.text ++ path.text⟩
  else ⟨directory.text ++ "/" ++ path.text⟩

end Path

end SatClient.Files
