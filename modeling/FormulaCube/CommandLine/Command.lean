import FormulaCube.Cell.Settings
import FormulaCube.CommandLine.Arguments
import FormulaCube.Files
import FormulaCube.World.Event

/-!
# Commands

A command line names one of three commands, after options that hold for all of them.

* `Command` — what can be asked for.
* `Ending` — why a command line asks for nothing.
* `readCommandLine` — what a command line asks for, and how urgent reports must be to be shown.
-/

namespace FormulaCube.CommandLine

/-- What can be asked for. -/
inductive Command where
  /-- The source in a file with its shortcuts expanded. -/
  | expand (file : Text)
  /-- The cubes that the source in a file refers to, and its imports. -/
  | references (file : Text) (asJson : Bool)
  /-- Whether the sources in files can be compiled, with settings from another file if one is named. -/
  | check (files : List Text) (kind : CellKind) (settings : Option Text) (isVerbose : Bool)
  deriving Repr

/-- Why a command line asks for nothing. -/
inductive Ending where
  /-- It asks for help instead. -/
  | help
  /-- It cannot be understood. -/
  | misuse
  deriving DecidableEq, Repr

/-- The exit code for a command line that asks for nothing. -/
def Ending.code : Ending → Nat
  | .help => 0
  | .misuse => 2

/-! ## What is given -/

/-- The ways to ask for help. -/
def helpNames : List Text := ["-h".toList, "--help".toList]

/-- The option that asks for help. -/
def helpSwitch : Switch := ⟨helpNames, false⟩

/-- An option without a value. -/
def flag (names : List String) : Switch := ⟨names.map String.toList, false⟩

/-- An option with a value. -/
def valued (name : String) : Switch := ⟨[name.toList], true⟩

/-- Why reading ends at an option, where `accepts` tells which values an option may have. -/
def optionEnding? (accepts : Text → Text → Bool) (name value : Text) : Option Ending :=
  if helpNames.contains name then some .help
  else if accepts name value then none
  else some .misuse

/-- What words give. Reading may end at each thing that is given, and no word may be left over. -/
def readAll (form : Form) (ending? : Given → Option Ending) (words : List Text) :
    Except Ending (List Given) :=
  let reading := readWords form words
  match reading.given.findSome? ending? with
  | some ending => .error ending
  | none =>
    if reading.isWrong || !reading.extra.isEmpty then .error .misuse else .ok reading.given

/-- The value that was given last for an option. -/
def valueOf? (given : List Given) (name : String) : Option Text :=
  given.reverse.findSome? fun g =>
    match g with
    | .option written value => if written = name.toList then some value else none
    | .placed _ => none

/-- Whether an option was given in one of these ways. -/
def isGiven (given : List Given) (names : List String) : Bool :=
  names.any fun name => (valueOf? given name).isSome

/-- The words in the place, which must be filled. -/
def placedIn (given : List Given) : Except Ending (List Text) :=
  match given.findSome? fun g => match g with | .placed words => some words | .option .. => none with
  | some words => .ok words
  | none => .error .misuse

/-! ## The commands -/

/-- Reads the words of a command, whose options may have the values that `accepts` tells. -/
def readOwn (form : Form) (accepts : Text → Text → Bool) (words : List Text) :
    Except Ending (List Given) :=
  readAll form (fun g =>
    match g with
    | .option name value => optionEnding? accepts name value
    | .placed _ => none) words

/-- Where a single file is placed. -/
def placedFile (given : List Given) : Except Ending Text := do
  match ← placedIn given with
  | [file] => .ok (plainPath file)
  | _ => .error .misuse

/-- What the words after the name of the first command ask for. -/
def readExpand (words : List Text) : Except Ending Command := do
  let given ← readOwn ⟨[helpSwitch], .one⟩ (fun _ _ => true) words
  return .expand (← placedFile given)

/-- What the words after the name of the second command ask for. -/
def readReferences (words : List Text) : Except Ending Command := do
  let given ← readOwn ⟨[helpSwitch, flag ["--json"]], .one⟩ (fun _ _ => true) words
  return .references (← placedFile given) (isGiven given ["--json"])

/-- What the words after the name of the third command ask for. -/
def readCheck (words : List Text) : Except Ending Command := do
  let accepts (name value : Text) : Bool :=
    name != "--kind".toList || (CellKind.ofLabel? value).isSome
  let form : Form :=
    ⟨[helpSwitch, valued "--kind", valued "--config", flag ["-v", "--verbose"]], .several⟩
  let given ← readOwn form accepts words
  let files ← placedIn given
  let kind := ((valueOf? given "--kind").bind CellKind.ofLabel?).getD .expression
  return .check (files.map plainPath) kind ((valueOf? given "--config").map plainPath)
    (isGiven given ["-v", "--verbose"])

/-- What the name of a command and the words after it ask for. -/
def readCommand : List Text → Except Ending Command
  | [] => .error .misuse
  | name :: words =>
    if name = "expand".toList then readExpand words
    else if name = "deps".toList then readReferences words
    else if name = "check".toList then readCheck words
    else .error .misuse

/-! ## The command line -/

/-- The form of a command line: its own options, then a command. -/
def wholeForm : Form := ⟨[helpSwitch, valued "--log-level"], .rest⟩

/-- Why reading a command line ends at something given. The words of its command are read when they are
reached, before anything that is wrong with the whole. -/
def lineEnding? : Given → Option Ending
  | .option name value =>
    optionEnding? (fun name value =>
      name != "--log-level".toList || (LogLevel.ofUpper? value.upper).isSome) name value
  | .placed words =>
    match readCommand words with
    | .error ending => some ending
    | .ok _ => none

/-- What a command line asks for, and the least urgent level that is shown. -/
def readCommandLine (words : List Text) : Except Ending (LogLevel × Command) := do
  let given ← readAll wholeForm lineEnding? words
  let level := ((valueOf? given "--log-level").bind fun t => LogLevel.ofUpper? t.upper).getD .warning
  return (level, ← readCommand (← placedIn given))

end FormulaCube.CommandLine
