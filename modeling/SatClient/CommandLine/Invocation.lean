import SatClient.CommandLine.Reading
import SatClient.Settings.Basic

/-! The commands of the program, and what a command line asks for. -/

namespace SatClient.CommandLine

def programName : String := "marina_sat"

def versionText : String := programName ++ " 0.1.0\n"

def helpFlag : Flag := ⟨"help", some 'h', "Print help", .showsHelp⟩

def versionFlag : Flag := ⟨"version", some 'V', "Print version", .showsVersion⟩

def configFlag : Flag :=
  ⟨"config", some 'c', "Configuration file path",
    .takes ⟨"CONFIG", .path, some "config/default.yaml"⟩⟩

def urlFlag : Flag :=
  ⟨"url", some 'u', "Solver base URL (overrides config and MARINA_API_URL)",
    .takes ⟨"URL", .anyText, none⟩⟩

def ruleWords : List (String × UnsatRule) :=
  [("sentinel", .sentinel), ("any-false", .anyFalse)]

def ruleHelp : UnsatRule → String
  | .sentinel => "Only the exact sentinel \x60(,false)\x60 means UNSAT"
  | .anyFalse => "The sentinel, or any pair whose value is \x60false\x60"

def ruleFlag : Flag :=
  ⟨"unsat-rule", none, "How UNSAT answers are recognised (overrides config)",
    .takes ⟨"UNSAT_RULE", .oneOf (ruleWords.map fun (word, rule) => ⟨word, some (ruleHelp rule)⟩),
      none⟩⟩

def formatFlag : Flag :=
  ⟨"format", some 'f', "Output format (overrides config)",
    .takes ⟨"FORMAT", .oneOf (OutputFormat.words.map fun (word, _) => ⟨word, none⟩), none⟩⟩

def switch (long : String) (letter : Option Char) (help : String) : Flag :=
  ⟨long, letter, help, .switches⟩

def solveCommand : Command where
  words := [programName, "solve"]
  about := "Check a formula locally, send it to the solver and show the result"
  operand := some (.value "FORMULA" "Formula, e.g. \"(a & b | ~c) -> d <-> e\"")
  flags := [configFlag, urlFlag, formatFlag, ruleFlag,
    switch "skip-check" none "Send the formula even if it fails the local grammar check",
    switch "save" (some 's') "Save a text report into the report directory",
    switch "verbose" (some 'v') "Verbose output", helpFlag]

def checkCommand : Command where
  words := [programName, "check"]
  about := "Check a formula against the grammar without contacting the solver"
  operand := some (.value "FORMULA" "Formula to check")
  flags := [helpFlag]

def proxyCommand : Command where
  words := [programName, "proxy"]
  about := "Run the proxy forwarder"
  operand := none
  flags := [configFlag,
    ⟨"bind", some 'b', "Address to listen on (overrides config)",
      .takes ⟨"BIND", .anyText, none⟩⟩,
    urlFlag, helpFlag]

def interactiveCommand : Command where
  words := [programName, "interactive"]
  about := "Read formulas from stdin, one per line, showing the latest result"
  operand := none
  flags := [configFlag, urlFlag, ruleFlag, helpFlag]

def setupCommand : Command where
  words := [programName, "setup"]
  about := "Create a default configuration file"
  operand := none
  flags := [
    ⟨"directory", some 'd', "Directory to create files in",
      .takes ⟨"DIRECTORY", .path, some "."⟩⟩,
    switch "force" (some 'f') "Force overwrite existing files", helpFlag]

def helpCommand : Command where
  words := [programName, "help"]
  about := "Print this message or the help of the given subcommand(s)"
  operand := some (.commands "Print help for the subcommand(s)")
  flags := []

def program : Command where
  words := [programName]
  about := "Boolean formula satisfiability via the Marina solver"
  operand := some .command
  flags := [helpFlag, versionFlag]

def commands : List Command :=
  [solveCommand, checkCommand, proxyCommand, interactiveCommand, setupCommand, helpCommand]

inductive Invocation where
  | solve (formula : String) (config : Files.Path) (overrides : Overrides)
      (skipsCheck saves isVerbose : Bool)
  | check (formula : String)
  | proxy (config : Files.Path) (overrides : Overrides)
  | interactive (config : Files.Path) (overrides : Overrides)
  | setup (directory : Files.Path) (isForced : Bool)
  deriving DecidableEq, Repr

def chosen? (words : List (String × α)) (progress : Progress) (flag : Flag) : Option α :=
  (progress.value? flag.long).bind fun word => (words.find? (·.1 == word)).map (·.2)

/-- The file with settings. -/
def configPath (command : Command) (progress : Progress) : Files.Path :=
  ⟨progress.valueOrStandard command configFlag.long⟩

/-- The settings that flags supply. -/
def overridesOf (progress : Progress) : Overrides where
  baseUrl := progress.value? urlFlag.long
  bindAddress := progress.value? "bind"
  format := chosen? OutputFormat.words progress formatFlag
  reportDirectory := none
  rule := chosen? ruleWords progress ruleFlag

def readSolve (words : List String) : Except Stop Invocation := do
  let progress ← solveCommand.read false .start words
  return .solve (progress.operand.getD "") (configPath solveCommand progress)
    (overridesOf progress) (progress.has "skip-check") (progress.has "save")
    (progress.has "verbose")

def readCheck (words : List String) : Except Stop Invocation := do
  let progress ← checkCommand.read false .start words
  return .check (progress.operand.getD "")

def readProxy (words : List String) : Except Stop Invocation := do
  let progress ← proxyCommand.read false .start words
  return .proxy (configPath proxyCommand progress) (overridesOf progress)

def readInteractive (words : List String) : Except Stop Invocation := do
  let progress ← interactiveCommand.read false .start words
  return .interactive (configPath interactiveCommand progress) (overridesOf progress)

def readSetup (words : List String) : Except Stop Invocation := do
  let progress ← setupCommand.read false .start words
  return .setup ⟨progress.valueOrStandard setupCommand "directory"⟩ (progress.has "force")

def unknownCommand (command : Command) (word : String) : Stop :=
  .fault (command.fault (.unknownCommand word) [] (some command.usage))

def readHelp : List String → Stop
  | [] => .help (helpText program commands .long)
  | word :: rest =>
      match commands.find? (·.name == word), rest with
      | none, _ => unknownCommand program word
      | some command, [] => .help (helpText command [] .long)
      | some command, next :: _ => unknownCommand command next

/-- Read the words behind the name of a command, if a word is one. -/
def readCommand? (word : String) (rest : List String) : Option (Except Stop Invocation) :=
  match word with
  | "solve" => some (readSolve rest)
  | "check" => some (readCheck rest)
  | "proxy" => some (readProxy rest)
  | "interactive" => some (readInteractive rest)
  | "setup" => some (readSetup rest)
  | "help" => some (.error (readHelp rest))
  | _ => none

/-- What is wrong with a word that stands where a command has to. -/
def badCommand (isEscaped : Bool) (word : String) : Stop :=
  let names := commands.map (·.name)
  if isEscaped && names.contains word then
    .fault
      (program.fault (.unexpectedArgument word) [.needlessEscape word] (some program.usage))
  else
    match Text.similarWords word names with
    | [] => unknownCommand program word
    | similar =>
        .fault
          (program.fault (.unknownCommand word) [.similarCommands similar] (some program.usage))

def readFrom : (isEscaped : Bool) → List String → Except Stop Invocation
  | _, [] => .error (.noWords (helpText program commands .short))
  | true, word :: _ => .error (badCommand true word)
  | false, word :: rest =>
      match readCommand? word rest with
      | some result => result
      | none =>
          match Word.ofString word with
          | .escape => readFrom true rest
          | .long name value => do
              let _ ← program.readLong commands .start name value rest
              readFrom false rest
          | .letters letters => do
              let _ ← program.readLetters commands .start letters
              readFrom false rest
          | .plain => .error (badCommand false word)

def read (words : List String) : Except Stop Invocation :=
  readFrom false words

end SatClient.CommandLine
