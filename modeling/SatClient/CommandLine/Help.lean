import SatClient.CommandLine.Shape

/-! The help for a command: in short form with one line for each item, or in long form with
one block for each. The long form exists only for commands that have more to say.
-/

namespace SatClient.CommandLine

inductive Detail where
  | short
  | long
  deriving DecidableEq, Repr

namespace Command

/-- Whether a command has more to say than fits in one line for each flag. -/
def isDetailed (command : Command) : Bool :=
  command.flags.any (·.isDetailed)

/-- The help for a flag; the flag for help itself tells about the other form. -/
def flagHelp (command : Command) (detail : Detail) (flag : Flag) : String :=
  if flag.effect = .showsHelp ∧ command.isDetailed then
    match detail with
    | .short => flag.help ++ " (see more with '--help')"
    | .long => flag.help ++ " (see a summary with '-h')"
  else flag.help

end Command

def padTo (width : Nat) (text : String) : String :=
  text.pushn ' ' (width - text.length)

def columns (rows : List (String × String)) : String :=
  let width := (rows.map (·.1.length)).foldl max 0
  String.join (rows.map fun (name, help) => "  " ++ padTo width name ++ "  " ++ help ++ "\n")

/-- What stands in brackets behind the help for a flag. -/
def remarks (flag : Flag) (listsChoices : Bool) : List String :=
  let standard := (flag.value?.bind (·.standard)).map fun text => "[default: " ++ text ++ "]"
  let choices :=
    if listsChoices && !flag.choices.isEmpty then
      ["[possible values: " ++ ", ".intercalate (flag.choices.map (·.word)) ++ "]"]
    else []
  standard.toList ++ choices

def margin : String := "          "

def choiceLines (choices : List Choice) : String :=
  let width := (choices.map (·.word.length)).foldl max 0 + 1
  margin ++ "Possible values:" ++ String.join (choices.map fun choice =>
    "\n" ++ margin ++ "- " ++ padTo width (choice.word ++ ":") ++ " " ++ choice.help.getD "")

def block (name help : String) : String :=
  "  " ++ name ++ "\n" ++ margin ++ help

def flagBlock (command : Command) (flag : Flag) : String :=
  block flag.fullText (command.flagHelp .long flag)
    ++ String.join ((remarks flag (!flag.isDetailed)).map fun remark =>
      "\n" ++ margin ++ "\n" ++ margin ++ remark)
    ++ if flag.isDetailed then "\n\n" ++ choiceLines flag.choices else ""

def titled (title content : String) : String :=
  if content.isEmpty then "" else "\n" ++ title ++ ":\n" ++ content

def operandRows (command : Command) : List (String × String) :=
  (command.operand.bind fun operand => (operand.text, ·) <$> operand.help?).toList

def flagRows (command : Command) : List (String × String) :=
  command.flags.map fun flag =>
    (flag.fullText, " ".intercalate (command.flagHelp .short flag :: remarks flag true))

def blocks (texts : List String) : String :=
  if texts.isEmpty then "" else "\n\n".intercalate texts ++ "\n"

def helpText (command : Command) (below : List Command) (detail : Detail) : String :=
  command.about ++ "\n\n" ++ command.usage ++ "\n"
    ++ titled "Commands" (columns (below.map fun other => (other.name, other.about)))
    ++ if detail = .long ∧ command.isDetailed then
        titled "Arguments" (blocks ((operandRows command).map fun (name, help) => block name help))
          ++ titled "Options" (blocks (command.flags.map (flagBlock command)))
      else
        titled "Arguments" (columns (operandRows command))
          ++ titled "Options" (columns (flagRows command))

end SatClient.CommandLine
