import SatClient.CommandLine.Fault
import SatClient.CommandLine.Help
import SatClient.Text.Similarity

/-! Reading the words behind a command. A value is checked only when the next flag is met or
the words are at their end, so that a word that fits nowhere is found first.
-/

namespace SatClient.CommandLine

inductive Stop where
  | help (text : String)
  | version
  | fault (fault : Fault)
  /-- Help is shown because there are no words. -/
  | noWords (text : String)
  deriving DecidableEq, Repr

/-- What was read last, and is not settled yet. -/
inductive Pending where
  | nothing
  | operand (word : String)
  | flag (flag : Flag) (value : Option String)
  deriving DecidableEq, Repr

/-- What has been read: the flags in order with their values, and the operand. -/
structure Progress where
  flags : List (Flag × String)
  operand : Option String
  pending : Pending
  deriving DecidableEq, Repr

inductive Word where
  | escape
  | long (name : String) (value : Option String)
  | letters (letters : List Char)
  | plain
  deriving DecidableEq, Repr

def longWord (text : List Char) : Word :=
  match text.dropWhile (· != '=') with
  | [] => .long (String.ofList text) none
  | _ :: value =>
      .long (String.ofList (text.takeWhile (· != '='))) (some (String.ofList value))

/-- What a word is, where flags are looked for. -/
def Word.ofString (word : String) : Word :=
  match word.toList with
  | ['-', '-'] => .escape
  | '-' :: '-' :: text => longWord text
  | ['-'] => .plain
  | '-' :: rest => .letters rest
  | _ => .plain

namespace Progress

def start : Progress := ⟨[], none, .nothing⟩

def hasOperand (progress : Progress) : Bool :=
  progress.operand.isSome
    || match progress.pending with
      | .operand _ => true
      | _ => false

def value? (progress : Progress) (long : String) : Option String :=
  (progress.flags.find? (·.1.long == long)).map (·.2)

/-- The value of a flag, or else the one that it has if it is not given. -/
def valueOrStandard (progress : Progress) (command : Command) (long : String) : String :=
  match progress.value? long with
  | some value => value
  | none => ((((command.flagNamed? long).bind (·.value?)).bind (·.standard))).getD ""

def has (progress : Progress) (long : String) : Bool :=
  (progress.value? long).isSome

end Progress

namespace Command

def fault (command : Command) (problem : Problem) (tips : List Tip) (usage : Option String) :
    Fault :=
  ⟨problem, tips, usage, command.hasHelpFlag⟩

def valueFault? (command : Command) (flag : Flag) (value : String) : Option Fault :=
  match flag.value? with
  | some ⟨_, .path, _⟩ =>
      if value.isEmpty then some (command.fault (.missingValue flag) [] none) else none
  | some ⟨_, .oneOf choices, _⟩ =>
      let words := choices.map (·.word)
      if value ∈ words then none
      else if value.isEmpty then some (command.fault (.missingValue flag) [] none)
      else
        let tips := ((Text.similarWords value words).getLast?.map Tip.similarValue).toList
        some (command.fault (.invalidValue value flag) tips none)
  | _ => none

/-- Note a flag with its value, and what is wrong with that. A flag given twice counts as not
given.
-/
def store (command : Command) (progress : Progress) (flag : Flag) (value : String) :
    Progress × Option Fault :=
  let others := progress.flags.filter (·.1.long != flag.long)
  if others.length < progress.flags.length then
    ({ progress with flags := others },
      some (command.fault (.repeatedFlag flag) [] (some command.usage)))
  else
    ({ progress with flags := progress.flags ++ [(flag, value)] },
      command.valueFault? flag value)

def settle (command : Command) (progress : Progress) : Progress × Option Fault :=
  let settled := { progress with pending := .nothing }
  match progress.pending with
  | .nothing => (settled, none)
  | .operand word => ({ settled with operand := some word }, none)
  | .flag flag none => (settled, some (command.fault (.missingValue flag) [] none))
  | .flag flag (some value) => command.store settled flag value

def accept : Progress × Option Fault → Except Stop Progress
  | (progress, none) => .ok progress
  | (_, some fault) => .error (.fault fault)

def takeValue (command : Command) (progress : Progress) (flag : Flag) (value : String) :
    Except Stop Progress := do
  accept (command.store (← accept (command.settle progress)) flag value)

def takeSwitch (command : Command) (below : List Command) (progress : Progress) (flag : Flag)
    (detail : Detail) : Except Stop Progress := do
  let progress ← accept (command.settle progress)
  match flag.effect with
  | .takes _ => return { progress with pending := .flag flag none }
  | .switches => accept (command.store progress flag "")
  | .showsHelp => throw (.help (helpText command below detail))
  | .showsVersion => throw .version

def usageSoFar (command : Command) (progress : Progress) (more : List Flag) : String :=
  let given := progress.flags.map (·.1) ++ more
  if given.isEmpty && progress.operand.isNone then command.usage else command.usageWith given

def placeOf? (word : String) (words : List String) : Option Nat :=
  words.findIdx? (· == word)

/-- The flag most like a name. -/
def similarFlag? (command : Command) (name : String) : Option Flag :=
  (Text.similarWords name (command.flags.map (·.long))).getLast?.bind command.flagNamed?

/-- A flag much like a name, of a command that is called later: of several such commands the
one called first.
-/
def laterFlag? (below : List Command) (name : String) (rest : List String) :
    Option (String × Flag) :=
  let found := below.filterMap fun other => do
    let flag ← other.similarFlag? name
    let place ← placeOf? other.name rest
    some (place, other.name, flag)
  let first := found.foldl (fun best candidate =>
    match best with
    | none => some candidate
    | some old => if candidate.1 < old.1 then some candidate else some old) none
  first.map (·.2)

def unknownLong (command : Command) (below : List Command) (progress : Progress)
    (name : String) (rest : List String) : Fault :=
  let (progress, _) := command.settle progress
  let problem := Problem.unexpectedArgument ("--" ++ name)
  match command.similarFlag? name with
  | some flag =>
      let more := if progress.flags.any (·.1.long == flag.long) then [] else [flag]
      command.fault problem [.similarFlag flag] (some (command.usageSoFar progress more))
  | none =>
      let usage := some (command.usageSoFar progress [])
      match laterFlag? below name rest with
      | some (other, flag) => command.fault problem [.elsewhere other flag] usage
      | none =>
          let tips := if command.takesValue then [Tip.afterEscape ("--" ++ name)] else []
          command.fault problem tips usage

def readLong (command : Command) (below : List Command) (progress : Progress) (name : String)
    (value : Option String) (rest : List String) : Except Stop Progress :=
  match command.flagNamed? name with
  | none => .error (.fault (command.unknownLong below progress name rest))
  | some flag =>
      match flag.value?, value with
      | some _, some value => command.takeValue progress flag value
      | none, some value =>
          let given := progress.flags.map (·.1) ++ [flag]
          .error (.fault
            (command.fault (.unexpectedValue value flag) [] (some (command.usageWith given))))
      | _, none => command.takeSwitch below progress flag .long

def unknownLetter (command : Command) (letter : Char) : Fault :=
  let word := "-" ++ String.singleton letter
  command.fault (.unexpectedArgument word)
    (if command.takesValue then [.afterEscape word] else []) (some command.usage)

/-- Read letters of flags. The value of a flag may follow its letter at once, or behind `=`. -/
def readLetters (command : Command) (below : List Command) (progress : Progress) :
    List Char → Except Stop Progress
  | [] => .ok progress
  | letter :: rest =>
      match command.flagLettered? letter with
      | none => .error (.fault (command.unknownLetter letter))
      | some flag =>
          match flag.value?, rest with
          | some _, '=' :: value => command.takeValue progress flag (String.ofList value)
          | some _, c :: value => command.takeValue progress flag (String.ofList (c :: value))
          | _, _ => do
              let progress ← command.takeSwitch below progress flag .short
              readLetters command below progress rest

def readOperand (command : Command) (progress : Progress) (word : String) :
    Except Stop Progress := do
  if command.takesValue && !progress.hasOperand then
    let progress ← accept (command.settle progress)
    return { progress with pending := .operand word }
  else throw (.fault (command.fault (.unexpectedArgument word) [] (some command.usage)))

def complete (command : Command) (progress : Progress) : Except Stop Progress := do
  let progress ← accept (command.settle progress)
  match command.operand, progress.operand with
  | some operand, none =>
      throw (.fault
        (command.fault (.missingOperand operand) []
          (some (command.usageWith (progress.flags.map (·.1))))))
  | _, _ => return progress

/-- Read the words behind a command. Behind the escape every word is an operand. -/
def read (command : Command) : (isEscaped : Bool) → Progress → List String → Except Stop Progress
  | _, progress, [] => command.complete progress
  | true, progress, word :: rest => do
      let progress ← command.readOperand progress word
      read command true progress rest
  | false, progress, word :: rest =>
      match Word.ofString word with
      | .escape => read command true progress rest
      | .long name value => do
          let progress ← command.readLong [] progress name value rest
          read command false progress rest
      | .letters letters => do
          let progress ← command.readLetters [] progress letters
          read command false progress rest
      | .plain =>
          match progress.pending with
          | .flag flag none =>
              read command false { progress with pending := .flag flag (some word) } rest
          | _ => do
              let progress ← command.readOperand progress word
              read command false progress rest

end Command

end SatClient.CommandLine
