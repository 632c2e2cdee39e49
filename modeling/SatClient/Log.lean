import SatClient.Display.Paint

/-! Events that the program logs, the lines they are written as, and the filter that selects
them.
-/

namespace SatClient.Log

/-- How important an event is, from the least to the most. -/
inductive Level where
  | trace
  | debug
  | info
  | warn
  | error
  deriving DecidableEq, Repr

namespace Level

def rank : Level → Nat
  | trace => 0
  | debug => 1
  | info => 2
  | warn => 3
  | error => 4

/-- The name of a level, in five places. -/
def text : Level → String
  | trace => "TRACE"
  | debug => "DEBUG"
  | info => " INFO"
  | warn => " WARN"
  | error => "ERROR"

def color : Level → Color
  | trace => .magenta
  | debug => .blue
  | info => .green
  | warn => .yellow
  | error => .red

end Level

inductive Part where
  | program
  | settings
  | client
  | tracker
  | forwarder
  deriving DecidableEq, Repr

def Part.text : Part → String
  | program => "marina_sat"
  | settings => "marina_sat::config::settings"
  | client => "marina_sat::client::transport"
  | tracker => "marina_sat::interpret::session"
  | forwarder => "marina_sat::proxy::server"

/-- Something worth knowing, with named details. -/
structure Event where
  level : Level
  part : Part
  message : String
  details : List (String × String)
  deriving DecidableEq, Repr

def Event.line (event : Event) : String :=
  event.level.text ++ " " ++ event.part.text ++ ": " ++ event.message
    ++ String.join (event.details.map fun (name, value) => " " ++ name ++ "=" ++ value) ++ "\n"

/-- An event as a line with the time before it, in colours where `colored` says so. -/
def Event.timedLine (colored : Bool) (time : String) (event : Event) : String :=
  if colored then
    styled 2 time ++ " " ++ styled event.level.color.code event.level.text ++ " "
      ++ styled 2 event.part.text ++ styled 2 ":" ++ " " ++ event.message
      ++ String.join (event.details.map fun (name, value) =>
        " " ++ styled 3 name ++ styled 2 "=" ++ value) ++ "\n"
  else time ++ " " ++ event.line

/-- Log lines are coloured unless `NO_COLOR` is set to something. -/
def isColored (env : Environment) : Bool :=
  match env.get? "NO_COLOR" with
  | some value => value.isEmpty
  | none => true

/-- One rule of a filter: the parts whose names start so, and the least level that passes. -/
structure Rule where
  target : String
  least : Option Level
  deriving DecidableEq, Repr

structure Filter where
  rules : List Rule
  deriving DecidableEq, Repr

def Filter.everything (least : Option Level) : Filter := ⟨[⟨"", least⟩]⟩

/-- The better of two rules for a part: the one with the longer target, or else the later. -/
def Rule.better (old new : Rule) : Rule :=
  if new.target.length < old.target.length then old else new

def Filter.ruleFor? (filter : Filter) (part : Part) : Option Rule :=
  (filter.rules.filter fun rule => rule.target.toList.isPrefixOf part.text.toList).foldl
    (fun best rule => some (match best with | none => rule | some old => old.better rule)) none

def Filter.passes (filter : Filter) (event : Event) : Bool :=
  match filter.ruleFor? event.part with
  | some ⟨_, some least⟩ => least.rank ≤ event.level.rank
  | _ => false

/-- The level that a word or a digit names; the outer option tells whether it names one. -/
def levelNamed? (word : String) : Option (Option Level) :=
  match String.ofList (word.toList.map Char.toLower) with
  | "off" | "0" => some none
  | "error" | "1" => some (some .error)
  | "warn" | "2" => some (some .warn)
  | "info" | "3" => some (some .info)
  | "debug" | "4" => some (some .debug)
  | "trace" | "5" => some (some .trace)
  | _ => none

/-- A rule as written: a level, a target, or a target and a level with `=` between. -/
def Rule.parse? (word : String) : Option Rule :=
  match levelNamed? word with
  | some least => some ⟨"", least⟩
  | none =>
      match word.splitOn "=" with
      | [target] => some ⟨target, some .trace⟩
      | [target, level] => (⟨target, ·⟩) <$> levelNamed? level
      | _ => none

/-- A filter as written: rules separated by commas. Without any rule only errors pass. -/
def Filter.parse? (text : String) : Option Filter :=
  match (text.splitOn ",").filter (· ≠ "") with
  | [] => some (.everything (some .error))
  | words => Filter.mk <$> words.mapM Rule.parse?

/-- The filter that the environment asks for, or else the given level for everything. -/
def Filter.ofEnvironment (env : Environment) (least : Level) : Filter :=
  ((env.get? "RUST_LOG").bind Filter.parse?).getD (.everything (some least))

abbrev Trail := List Event

/-- The lines of the events, as a test or a reader without a terminal sees them. -/
def plainText (trail : Trail) : String :=
  String.join (trail.map Event.line)

end SatClient.Log
