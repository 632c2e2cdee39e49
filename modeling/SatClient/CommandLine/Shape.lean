import SatClient.Text.Basic

/-! The shape of a command: its operand, its flags and the values that they take. Usage lines
and help are derived from it.
-/

namespace SatClient.CommandLine

/-- One of the words that a value may be. -/
structure Choice where
  word : String
  help : Option String
  deriving DecidableEq, Repr

/-- What a value may be. -/
inductive Domain where
  | anyText
  /-- Any text but the empty one. -/
  | path
  | oneOf (choices : List Choice)
  deriving DecidableEq, Repr

/-- The words to choose from, where there is a choice. -/
def Domain.choices : Domain → List Choice
  | oneOf choices => choices
  | _ => []

/-- The value of a flag, and the one that it has if the flag is not given. -/
structure Value where
  name : String
  domain : Domain
  standard : Option String
  deriving DecidableEq, Repr

/-- What a flag does. -/
inductive Effect where
  | takes (value : Value)
  | switches
  | showsHelp
  | showsVersion
  deriving DecidableEq, Repr

/-- A flag with a long name, and perhaps a letter. -/
structure Flag where
  long : String
  letter : Option Char
  help : String
  effect : Effect
  deriving DecidableEq, Repr

namespace Flag

def value? (flag : Flag) : Option Value :=
  match flag.effect with
  | .takes value => some value
  | _ => none

def choices (flag : Flag) : List Choice :=
  (flag.value?.map (·.domain.choices)).getD []

def isOption (flag : Flag) : Bool :=
  match flag.effect with
  | .takes _ | .switches => true
  | _ => false

def text (flag : Flag) : String :=
  match flag.value? with
  | some value => "--" ++ flag.long ++ " <" ++ value.name ++ ">"
  | none => "--" ++ flag.long

def fullText (flag : Flag) : String :=
  (match flag.letter with
    | some letter => "-" ++ String.singleton letter ++ ", "
    | none => "    ") ++ flag.text

/-- Whether there is more to say about a flag than fits in one line. -/
def isDetailed (flag : Flag) : Bool :=
  flag.choices.any (·.help.isSome)

end Flag

inductive Operand where
  | value (name help : String)
  | command
  | commands (help : String)
  deriving DecidableEq, Repr

def Operand.text : Operand → String
  | value name _ => "<" ++ name ++ ">"
  | command => "<COMMAND>"
  | commands _ => "[COMMAND]..."

def Operand.help? : Operand → Option String
  | value _ help => some help
  | command => none
  | commands help => some help

structure Command where
  words : List String
  about : String
  operand : Option Operand
  flags : List Flag
  deriving DecidableEq, Repr

namespace Command

/-- The last word of a command. -/
def name (command : Command) : String :=
  command.words.getLast?.getD ""

def takesValue (command : Command) : Bool :=
  match command.operand with
  | some (.value ..) => true
  | _ => false

def flagNamed? (command : Command) (long : String) : Option Flag :=
  command.flags.find? (·.long == long)

def flagLettered? (command : Command) (letter : Char) : Option Flag :=
  command.flags.find? (·.letter == some letter)

def hasHelpFlag (command : Command) : Bool :=
  command.flags.any (·.effect == .showsHelp)

def usageOf (command : Command) (parts : List String) : String :=
  "Usage: " ++ " ".intercalate (command.words ++ parts ++ (command.operand.map (·.text)).toList)

def usage (command : Command) : String :=
  command.usageOf (if command.flags.any (·.isOption) then ["[OPTIONS]"] else [])

def usageWith (command : Command) (given : List Flag) : String :=
  command.usageOf ((given.map (·.text)).eraseDups)

end Command

end SatClient.CommandLine
