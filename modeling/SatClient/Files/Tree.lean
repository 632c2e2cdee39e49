import SatClient.Files.Path
import SatClient.Text.Utf8

/-! A tree of files, and the directory in it from which paths start. The way up from the top
leads nowhere else.
-/

namespace SatClient.Files

/-- What stands at a place. -/
inductive Entry where
  | file (content : Utf8.Bytes)
  | directory
  deriving DecidableEq, Repr

/-- The names on the way down to a place. -/
abbrev Location := List String

/-- Why a file or directory cannot be used. -/
inductive Fault where
  | missing
  | alreadyThere
  | notDirectory
  | isDirectory
  | nameTooLong
  | nulInName
  | notText
  deriving DecidableEq, Repr

def Fault.message : Fault → String
  | missing => "No such file or directory (os error 2)"
  | alreadyThere => "File exists (os error 17)"
  | notDirectory => "Not a directory (os error 20)"
  | isDirectory => "Is a directory (os error 21)"
  | nameTooLong => "File name too long (os error 36)"
  | nulInName => "file name contained an unexpected NUL byte"
  | notText => "stream did not contain valid UTF-8"

/-- What stands at each place, and the working directory. The top of the tree is always a
directory.
-/
structure Tree where
  entries : List (Location × Entry)
  here : Location
  deriving Repr

/-- A tree after something was tried, and what went wrong if it failed. What was done before
the failure stays done.
-/
structure Attempt (ε : Type) where
  tree : Tree
  fault : Option ε
  deriving Repr

namespace Attempt

/-- What a single step makes of a tree: a step that fails changes nothing. -/
def ofStep (tree : Tree) : Except ε Tree → Attempt ε
  | .ok after => ⟨after, none⟩
  | .error fault => ⟨tree, some fault⟩

/-- Go on, unless something went wrong. -/
def andThen (attempt : Attempt ε) (next : Tree → Attempt ε) : Attempt ε :=
  match attempt.fault with
  | none => next attempt.tree
  | some fault => ⟨attempt.tree, some fault⟩

/-- The same attempt with its fault told differently. -/
def mapFault (f : ε → δ) (attempt : Attempt ε) : Attempt δ :=
  ⟨attempt.tree, attempt.fault.map f⟩

end Attempt

namespace Tree

def empty : Tree := ⟨[], []⟩

def entry? (tree : Tree) (location : Location) : Option Entry :=
  if location = [] then some .directory else tree.entries.lookup location

/-- The tree with an entry at a place, in the place of any other. -/
def put (tree : Tree) (location : Location) (entry : Entry) : Tree :=
  { tree with entries := (location, entry) :: tree.entries.filter (·.1 ≠ location) }

/-- The most bytes that a name has. -/
def nameBound : Nat := 255

/-- The most bytes that a path has. -/
def pathBound : Nat := 4095

/-- The place to which steps lead from another. Each is taken from a directory. -/
def walk (tree : Tree) (here : Location) : List String → Except Fault Location
  | [] => .ok here
  | step :: rest =>
      match tree.entry? here with
      | none => .error .missing
      | some (.file _) => .error .notDirectory
      | some .directory =>
          if step = "." then walk tree here rest
          else if step = ".." then walk tree here.dropLast rest
          else if nameBound < step.utf8ByteSize then .error .nameTooLong
          else walk tree (here ++ [step]) rest

/-- The place from which the steps of a path are taken. -/
def origin (tree : Tree) (path : Path) : Location :=
  if path.isAbsolute then [] else tree.here

/-- Check that a path can be the name of anything. -/
def checkName (path : Path) : Except Fault Unit :=
  if path.text.toList.contains '\x00' then .error .nulInName
  else if path.text.isEmpty then .error .missing
  else if pathBound < path.text.utf8ByteSize then .error .nameTooLong
  else .ok ()

def find (tree : Tree) (path : Path) : Except Fault (Location × Entry) := do
  checkName path
  let location ← tree.walk (tree.origin path) (path.steps ++ if path.endsInSlash then ["."] else [])
  match tree.entry? location with
  | some entry => return (location, entry)
  | none => throw .missing

def holds (tree : Tree) (path : Path) : Bool :=
  (tree.find path).isOk

def isDirectory (tree : Tree) (path : Path) : Bool :=
  match tree.find path with
  | .ok (_, .directory) => true
  | _ => false

def read (tree : Tree) (path : Path) : Except Fault Utf8.Bytes := do
  match ← tree.find path with
  | (_, .file content) => return content
  | (_, .directory) => throw .isDirectory

def readText (tree : Tree) (path : Path) : Except Fault (List Char) := do
  match Utf8.decode? (← tree.read path) with
  | some text => return text
  | none => throw .notText

/-- The directory for the last step of a path, and that step; none where the path leads to a
directory whatever stands there.
-/
def place (tree : Tree) (path : Path) : Except Fault (Option (Location × String)) := do
  checkName path
  match path.steps.reverse with
  | [] => return none
  | last :: before =>
      let location ← tree.walk (tree.origin path) (before.reverse ++ ["."])
      if last = "." ∨ last = ".." then return none
      if nameBound < last.utf8ByteSize then throw .nameTooLong
      return some (location, last)

/-- Make one directory, inside of one that is there. -/
def makeDirectory (tree : Tree) (path : Path) : Except Fault Tree := do
  match ← tree.place path with
  | none => throw .alreadyThere
  | some (location, name) =>
      if (tree.entry? (location ++ [name])).isSome then throw .alreadyThere
      return tree.put (location ++ [name]) .directory

/-- Make one directory unless it is there. -/
def ensureDirectory (tree : Tree) (path : Path) : Attempt Fault :=
  match tree.makeDirectory path with
  | .ok after => ⟨after, none⟩
  | .error fault => ⟨tree, if tree.isDirectory path then none else some fault⟩

/-- Make the first of some directories, and before it the others that are missing; each is
inside of the next.
-/
def makeChain (tree : Tree) : List Path → Attempt Fault
  | [] => ⟨tree, none⟩
  | path :: rest =>
      match tree.makeDirectory path with
      | .error .missing => (makeChain tree rest).andThen (·.ensureDirectory path)
      | _ => tree.ensureDirectory path

/-- Make a directory and those that it is inside of, unless they are there. -/
def makeDirectories (tree : Tree) (path : Path) : Attempt Fault :=
  tree.makeChain path.ancestors

def write (tree : Tree) (path : Path) (content : Utf8.Bytes) : Except Fault Tree := do
  match ← tree.place path with
  | none => throw .isDirectory
  | some (location, name) =>
      if path.endsInSlash then throw .isDirectory
      match tree.entry? (location ++ [name]) with
      | some .directory => throw .isDirectory
      | _ => return tree.put (location ++ [name]) (.file content)

/-- Whether nothing stands below a place. -/
def isBare (tree : Tree) (location : Location) : Bool :=
  tree.entries.all fun (other, _) => other.dropLast ≠ location

/-- The files of a tree, and the directories without anything in them, each with its path. -/
def leaves (tree : Tree) : List (String × Option Utf8.Bytes) :=
  tree.entries.filterMap fun (location, entry) =>
    match entry with
    | .file content => some ("/".intercalate location, some content)
    | .directory =>
        if tree.isBare location then some ("/".intercalate location, none) else none

/-- What stands in a tree otherwise than in an older one, in the order in which it came about. -/
def changes (tree older : Tree) : List (Location × Entry) :=
  tree.entries.reverse.filter fun (location, entry) => older.entry? location ≠ some entry

end Tree

end SatClient.Files
