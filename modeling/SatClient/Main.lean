import Std.Time
import SatClient.Program.Run

/-! The program on a real machine. It looks at the files that the command needs, and writes back
those that the command changes. There is no transport below it, so a request ends as on a
machine without a network.
-/

namespace SatClient.Main

def variableNames : List String :=
  ["NO_COLOR", "TERM", Overrides.baseUrlVariable, "RUST_LOG"]

def environment : IO Environment := do
  let found ← variableNames.filterMapM fun name => do
    return (← IO.getEnv name).map (name, ·)
  return ⟨found⟩

def locationOf (directory : String) : Files.Location :=
  Files.Path.steps ⟨directory⟩

def absolute (location : Files.Location) : String :=
  "/" ++ "/".intercalate location

def look (tree : Files.Tree) (location : Files.Location) : IO Files.Tree := do
  if location.isEmpty then return tree
  let path := (← IO.currentDir) / absolute location
  if ← path.isDir then return tree.put location .directory
  if ← path.pathExists then
    return tree.put location (.file (← IO.FS.readBinFile path).toList)
  return tree

def survey (tree : Files.Tree) (paths : List Files.Path) : IO Files.Tree :=
  (Program.placesOf tree paths).foldlM look tree

def write (change : Files.Location × Files.Entry) : IO Unit := do
  let path := absolute change.1
  match change.2 with
  | .directory => IO.FS.createDirAll path
  | .file content => IO.FS.writeBinFile path ⟨content.toArray⟩

def now : IO Timestamp := do
  let time ← Std.Time.Timestamp.now
  return ⟨time.toMillisecondsSinceUnixEpoch.toInt⟩

def startTree : IO Files.Tree := do
  let here := locationOf (← IO.currentDir).toString
  survey { Files.Tree.empty with here } [⟨absolute here⟩]

def surroundings : IO Surroundings := do
  return ⟨← environment, ← startTree, .down, .unreachable, ← now, 0⟩

def prepare (around : Surroundings) (words : List String) : IO Surroundings := do
  match CommandLine.read words with
  | .error _ => return around
  | .ok invocation =>
      let around := { around with files := ← survey around.files (Program.firstPaths invocation) }
      return { around with files := ← survey around.files (Program.laterPaths around invocation) }

def typedLines (words : List String) : IO (List String) := do
  match CommandLine.read words with
  | .ok (.interactive ..) => return Program.inputLines (← (← IO.getStdin).readToEnd)
  | _ => return []

def run (words : List String) : IO UInt32 := do
  let around ← prepare (← surroundings) words
  let happenings := Program.happeningsOf around.solver (← typedLines words)
  let outside : Program.Outside := ⟨happenings, ⟨[], ""⟩⟩
  match Program.run around outside around.time.text words with
  | .error _ => return 1
  | .ok finished =>
      (finished.files.changes around.files).forM write
      IO.print finished.output
      IO.eprint finished.errors
      return finished.exit.toUInt32

end SatClient.Main

def main (words : List String) : IO UInt32 :=
  SatClient.Main.run words
