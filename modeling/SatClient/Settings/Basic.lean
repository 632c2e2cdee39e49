import SatClient.Display.Paint
import SatClient.Files.Path
import SatClient.Http.SocketAddress
import SatClient.Outcome.Basic
import SatClient.Url.Basic

/-! Settings come in layers: a complete one to start with, and others over it that supply some
of the values. A blank base URL counts as not supplied.
-/

namespace SatClient

/-- How results are shown. -/
inductive OutputFormat where
  | text
  | json
  deriving DecidableEq, Repr

def OutputFormat.words : List (String × OutputFormat) :=
  [("text", .text), ("json", .json)]

def OutputFormat.word : OutputFormat → String
  | text => "text"
  | json => "json"

/-- What can be set. -/
structure Settings where
  baseUrl : String
  bindAddress : String
  format : OutputFormat
  reportDirectory : Files.Path
  rule : UnsatRule
  deriving DecidableEq, Repr

/-- Values that replace others. -/
structure Overrides where
  baseUrl : Option String
  bindAddress : Option String
  format : Option OutputFormat
  reportDirectory : Option Files.Path
  rule : Option UnsatRule
  deriving DecidableEq, Repr

inductive BadSettings where
  | baseUrl (text : String) (fault : Url.Fault)
  | scheme (name : String)
  | bindAddress (text : String)
  deriving DecidableEq, Repr

namespace Overrides

def none : Overrides := ⟨.none, .none, .none, .none, .none⟩

def baseUrlVariable : String := "MARINA_API_URL"

def ofEnvironment (env : Environment) : Overrides :=
  { none with baseUrl := env.get? baseUrlVariable }

/-- The base URL, unless it is blank. -/
def usefulBaseUrl (overrides : Overrides) : Option String :=
  overrides.baseUrl.filter (!Text.isBlankString ·)

end Overrides

namespace Settings

def standard : Settings :=
  ⟨"https://marina-solver-sat-rajharit77.onrender.com", "127.0.0.1:3000", .text,
    ⟨"output/reports"⟩, .sentinel⟩

def override (settings : Settings) (overrides : Overrides) : Settings where
  baseUrl := overrides.usefulBaseUrl.getD settings.baseUrl
  bindAddress := overrides.bindAddress.getD settings.bindAddress
  format := overrides.format.getD settings.format
  reportDirectory := overrides.reportDirectory.getD settings.reportDirectory
  rule := overrides.rule.getD settings.rule

/-- Check that the base URL is one of the web, and the address one to listen on. -/
def validate (settings : Settings) : Except BadSettings Unit :=
  match Url.parse settings.baseUrl with
  | .error fault => .error (.baseUrl settings.baseUrl fault)
  | .ok url =>
      if url.schemeText = "http" ∨ url.schemeText = "https" then
        match SocketAddress.parse? settings.bindAddress with
        | some _ => .ok ()
        | none => .error (.bindAddress settings.bindAddress)
      else .error (.scheme url.schemeText)

end Settings

end SatClient
