import SatClient.Program.Course
import SatClient.Settings.File

/-! The command that prepares a directory: one for settings, one for reports, and a file with
the standard settings. A file that is there already stays as it is unless that is asked for.
-/

namespace SatClient.Program

def configDirectory (directory : Files.Path) : Files.Path := directory.join ⟨"config"⟩

def reportDirectory (directory : Files.Path) : Files.Path :=
  directory.join Settings.standard.reportDirectory

def configFile (directory : Files.Path) : Files.Path :=
  (configDirectory directory).join ⟨"default.yaml"⟩

def need (tree : Files.Tree) (directory : Files.Path) : Files.Attempt Explanation :=
  (tree.makeDirectories directory).mapFault fun fault =>
    ⟨"Failed to create directory " ++ directory.text, [fault.message]⟩

def makePlaces (tree : Files.Tree) (directory : Files.Path) : Files.Attempt Explanation :=
  (need tree (configDirectory directory)).andThen (need · (reportDirectory directory))

def writeStandard (tree : Files.Tree) (directory : Files.Path) : Files.Attempt Explanation :=
  (Settings.standard.write tree (configFile directory)).mapFault fun fault =>
    .within "Failed to create default configuration" fault.explain

def adviceLines (paint : Paint) (directory : Files.Path) : List String :=
  ["\n" ++ paint.success "✅ Setup complete!", "\nNext steps:",
    "1. Point solver.base_url in " ++ (configFile directory).text ++ " at your Marina solver",
    "2. Run: cargo run -- solve \"a & ~b\""]

def concludeSetup (course : Course) (paint : Paint) (directory : Files.Path) (line : String)
    (attempt : Files.Attempt Explanation) : Course :=
  let course := course.keep attempt.tree
  match attempt.fault with
  | some explanation => course.fail explanation
  | none => (course.print line).printIf true (adviceLines paint directory)

def setup (around : Surroundings) (directory : Files.Path) (isForced : Bool) : Course :=
  let paint := around.paint
  let course := (Course.start around.files).print
    (paint.info "🛠️  Setting up project structure...")
  let places := makePlaces around.files directory
  let course := course.keep places.tree
  match places.fault with
  | some explanation => course.fail explanation
  | none =>
      let file := configFile directory
      if places.tree.holds file && !isForced then
        concludeSetup course paint directory ("Skipped: " ++ file.text ++ " (already exists)")
          ⟨places.tree, none⟩
      else
        concludeSetup course paint directory ("Created: " ++ file.text)
          (writeStandard places.tree directory)

end SatClient.Program
