import SatClient.CommandLine.Shape

/-! What can be wrong with a command line, and the hints that go with it. -/

namespace SatClient.CommandLine

/-- What is wrong. -/
inductive Problem where
  | unexpectedArgument (word : String)
  | unexpectedValue (value : String) (flag : Flag)
  | missingValue (flag : Flag)
  | invalidValue (value : String) (flag : Flag)
  | repeatedFlag (flag : Flag)
  | missingOperand (operand : Operand)
  | unknownCommand (word : String)
  deriving DecidableEq, Repr

/-- What may have been meant. -/
inductive Tip where
  | similarFlag (flag : Flag)
  | similarValue (word : String)
  | similarCommands (words : List String)
  | afterEscape (word : String)
  | elsewhere (command : String) (flag : Flag)
  | needlessEscape (command : String)
  deriving DecidableEq, Repr

/-- A problem with its hints, and how the command is used. -/
structure Fault where
  problem : Problem
  tips : List Tip
  usage : Option String
  hasHelpFlag : Bool
  deriving DecidableEq, Repr

def inQuotes (text : String) : String := "'" ++ text ++ "'"

def Problem.message : Problem → String
  | unexpectedArgument word => "unexpected argument " ++ inQuotes word ++ " found"
  | unexpectedValue value flag =>
      "unexpected value " ++ inQuotes value ++ " for " ++ inQuotes flag.text
        ++ " found; no more were expected"
  | missingValue flag =>
      "a value is required for " ++ inQuotes flag.text ++ " but none was supplied"
  | invalidValue value flag =>
      "invalid value " ++ inQuotes value ++ " for " ++ inQuotes flag.text
  | repeatedFlag flag =>
      "the argument " ++ inQuotes flag.text ++ " cannot be used multiple times"
  | missingOperand operand =>
      "the following required arguments were not provided:\n  " ++ operand.text
  | unknownCommand word => "unrecognized subcommand " ++ inQuotes word

/-- The words to choose from, where a value is not one of them. -/
def Problem.choices : Problem → List Choice
  | missingValue flag => flag.choices
  | invalidValue _ flag => flag.choices
  | _ => []

def Tip.message : Tip → String
  | similarFlag flag => "a similar argument exists: " ++ inQuotes ("--" ++ flag.long)
  | similarValue word => "a similar value exists: " ++ inQuotes word
  | similarCommands words =>
      (match words with
        | [_] => "a similar subcommand exists: "
        | _ => "some similar subcommands exist: ") ++ ", ".intercalate (words.map inQuotes)
  | afterEscape word =>
      "to pass " ++ inQuotes word ++ " as a value, use " ++ inQuotes ("-- " ++ word)
  | elsewhere command flag => inQuotes (command ++ " --" ++ flag.long) ++ " exists"
  | needlessEscape command =>
      "subcommand " ++ inQuotes command ++ " exists; to use it, remove the '--' before it"

def tipsText (tips : List Tip) : String :=
  if tips.isEmpty then ""
  else "\n" ++ String.join (tips.map fun tip => "\n  tip: " ++ tip.message)

def Fault.text (fault : Fault) : String :=
  let choices := fault.problem.choices
  "error: " ++ fault.problem.message
    ++ (if choices.isEmpty then ""
      else "\n  [possible values: " ++ ", ".intercalate (choices.map (·.word)) ++ "]")
    ++ tipsText fault.tips
    ++ ((fault.usage.map ("\n\n" ++ ·)).getD "")
    ++ if fault.hasHelpFlag then "\n\nFor more information, try '--help'.\n" else "\n"

end SatClient.CommandLine
