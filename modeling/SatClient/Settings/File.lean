import SatClient.Display.Explanation
import SatClient.Files.Tree
import SatClient.Log
import SatClient.Settings.Yaml

/-! Settings in files. Settings that are read are checked as well. -/

namespace SatClient

/-- Why settings cannot be read or written. -/
inductive SettingsFault where
  | unreadable (path : Files.Path) (fault : Files.Fault)
  | malformed (path : Files.Path) (fault : Yaml.LoadFault)
  | noDirectory (path : Files.Path) (fault : Files.Fault)
  | unwritable (path : Files.Path) (fault : Files.Fault)
  | unusable (cause : BadSettings)
  deriving DecidableEq, Repr

def BadSettings.explain : BadSettings → Explanation
  | baseUrl text fault => ⟨"Invalid solver base URL: " ++ text, [fault.message]⟩
  | scheme name => .plain ("Solver base URL must use http or https, got " ++ name)
  | bindAddress text =>
      ⟨"Invalid proxy bind address: " ++ text, [SocketAddress.badSyntax]⟩

def SettingsFault.explain : SettingsFault → Explanation
  | unreadable path fault => ⟨"Failed to read config file: " ++ path.text, [fault.message]⟩
  | malformed path fault => ⟨"Failed to parse config file: " ++ path.text, [fault.message]⟩
  | noDirectory path fault => ⟨"Failed to create directory: " ++ path.text, [fault.message]⟩
  | unwritable path fault => ⟨"Failed to write config file: " ++ path.text, [fault.message]⟩
  | unusable cause => cause.explain

namespace Settings

def read (tree : Files.Tree) (path : Files.Path) : Except SettingsFault Settings := do
  let text ← (tree.readText path).mapError (.unreadable path)
  let settings ← (ofYaml text).mapError (.malformed path)
  settings.validate.mapError .unusable
  return settings

def noFileEvent (path : Files.Path) : Log.Event :=
  ⟨.debug, .settings, "config file " ++ path.text ++ " not found, using defaults", []⟩

def readOrStandard (tree : Files.Tree) (path : Files.Path) : Except SettingsFault Settings :=
  if tree.holds path then read tree path else .ok standard

/-- What is logged when settings are read from a file if there is one. -/
def readTrail (tree : Files.Tree) (path : Files.Path) : Log.Trail :=
  if tree.holds path then [] else [noFileEvent path]

/-- Write settings to a file, in a directory that is made if it is missing. -/
def write (settings : Settings) (tree : Files.Tree) (path : Files.Path) :
    Files.Attempt SettingsFault :=
  let ready : Files.Attempt SettingsFault :=
    match path.parent? with
    | none => ⟨tree, none⟩
    | some parent => (tree.makeDirectories parent).mapFault (.noDirectory parent)
  ready.andThen fun tree =>
    .ofStep tree
      ((tree.write path (Utf8.encode settings.toYaml)).mapError (.unwritable path))

end Settings

end SatClient
