import SatClient.Display.Explanation
import SatClient.Display.Report
import SatClient.Files.Tree

/-! Reports in files. Each gets a name of its own from the time when it is saved. -/

namespace SatClient

inductive ReportFault where
  | noDirectory (path : Files.Path) (fault : Files.Fault)
  | unwritable (path : Files.Path) (fault : Files.Fault)
  deriving DecidableEq, Repr

def ReportFault.explain : ReportFault → Explanation
  | noDirectory path fault => ⟨"Failed to create directory: " ++ path.text, [fault.message]⟩
  | unwritable path fault => ⟨"Failed to write report: " ++ path.text, [fault.message]⟩

def reportPath (directory : Files.Path) (time : Timestamp) : Files.Path :=
  directory.join ⟨"marina-result-" ++ toString time.millis ++ ".txt"⟩

def saveReport (tree : Files.Tree) (directory : Files.Path) (time : Timestamp)
    (content : String) : Files.Attempt ReportFault :=
  ((tree.makeDirectories directory).mapFault (.noDirectory directory)).andThen fun tree =>
    let path := reportPath directory time
    .ofStep tree ((tree.write path (Utf8.ofString content)).mapError (.unwritable path))

end SatClient
