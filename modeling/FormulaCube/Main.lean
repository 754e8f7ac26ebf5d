import FormulaCube.CommandLine.Report

/-!
# The program

The outer layer: files and the environment are read here, and what is to be printed is printed.
-/

namespace FormulaCube.CommandLine

/-- The files that a command reads. -/
def filesNamed : Command → List Text
  | .expand file => [file]
  | .references file _ => [file]
  | .check files _ settings _ => settings.toList ++ files

/-- The files with these paths, as far as they can be read. -/
def readFiles (paths : List Text) : IO Files :=
  paths.filterMapM fun path => do
    try
      return some (path, (← IO.FS.readFile (String.ofList path)).toList)
    catch _ => return none

/-- The variables of the environment that hold settings. -/
def readEnvironment : IO (List (Text × Text)) :=
  settingNames.filterMapM fun name => do
    let key := environmentLead ++ name.upper
    return (← IO.getEnv (String.ofList key)).map fun value => (key, value.toList)

/-- A report on one line: its level and name, then its details. -/
def eventLine (e : Event) : String :=
  String.ofList (Text.join [' '] (e.level.label :: e.name ::
    e.details.map fun (name, value) => name ++ '=' :: value.display))

/-- How to use the program. -/
def usage : String :=
  "usage: [-h] [--log-level LEVEL] COMMAND\n" ++
  "  expand [-h] FILE\n" ++
  "  deps [-h] [--json] FILE\n" ++
  "  check [-h] [--kind expression|method] [--config FILE] [-v] FILE..."

/-- What is said at the end of a command line that is not carried out. -/
def lastWords : Outcome → List String
  | .done _ => []
  | .ended _ => [usage]
  | .failed f => [String.ofList f.description]
  | .refused (.fault f) => [String.ofList (Failure.fault f).description]
  | .refused (.settings errors) =>
    errors.map fun e => String.ofList (e.setting ++ ": ".toList ++ e.problem.message)

/-- The exit code. -/
def exitCode : Outcome → Nat
  | .done code => code
  | .ended e => e.code
  | .failed _ => 1
  | .refused _ => 1

/-- Answers a command line; the result is the exit code. -/
def run (arguments : List String) : IO UInt32 := do
  let words := arguments.map String.toList
  let paths :=
    match readCommandLine words with
    | .ok (_, command) => filesNamed command
    | .error _ => []
  let answer := report (← readFiles paths) (← readEnvironment) words
  for e in answer.events do IO.eprintln (eventLine e)
  IO.print (String.ofList answer.printed)
  for line in lastWords answer.outcome do IO.eprintln line
  return UInt32.ofNat (exitCode answer.outcome)

end FormulaCube.CommandLine

/-- The program. -/
def main (arguments : List String) : IO UInt32 := FormulaCube.CommandLine.run arguments
