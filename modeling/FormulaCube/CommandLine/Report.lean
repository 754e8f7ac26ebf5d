import FormulaCube.CommandLine.Command
import FormulaCube.Config
import FormulaCube.Run.Loading
import FormulaCube.Source.Imports
import FormulaCube.Source.References

/-!
# What commands print

* `Outcome`, `Report` — how a command line ends, what it has printed by then, and what was reported.
* `expandFile`, `listReferences`, `checkFiles` — the commands.
* `report` — the whole answer to a command line. What was printed before a failure stays.
-/

namespace FormulaCube.CommandLine

open Run

/-- How a command line ends. -/
inductive Outcome where
  /-- Its command was carried out, with an exit code. -/
  | done (code : Nat)
  /-- It asked for nothing. -/
  | ended (e : Ending)
  /-- A failure stopped it. -/
  | failed (f : Failure)
  /-- The settings were refused. -/
  | refused (e : ConfigError)
  deriving Repr

/-- The answer to a command line. -/
structure Report where
  /-- How it ends. -/
  outcome : Outcome
  /-- What was printed. -/
  printed : Text
  /-- What was reported and is shown. -/
  events : List Event
  deriving Repr

/-- The answer of a command that compiles nothing. -/
def plainReport (result : Except Failure Text) : Report :=
  match result with
  | .ok printed => ⟨.done 0, printed, []⟩
  | .error f => ⟨.failed f, [], []⟩

/-! ## Looking at sources -/

/-- Prints the source in a file with its shortcuts expanded. -/
def expandFile (files : Files) (file : Text) : Except Failure Text := do
  let source ← (files.read file).mapError Failure.fault
  expandIn expansionLevels Rule.all source

/-- A line with two blanks in front. -/
def indentedLine (t : Text) : Text := ' ' :: ' ' :: t ++ ['\n']

/-- A field of an object in JSON, which holds texts and is indented. -/
def jsonField (name : String) (items : List Text) : Text :=
  let lead := "  ".toList ++ Text.quotedJson name.toList ++ ": [".toList
  match items with
  | [] => lead ++ [']']
  | items =>
    lead ++ Text.join [','] (items.map fun item => "\n    ".toList ++ Text.quotedJson item) ++
      "\n  ]".toList

/-- The cubes that a source refers to and its imports, as an object in JSON. -/
def referencesJson (source : Text) : Text :=
  "\x7b\n".toList ++ jsonField "references" (references source) ++ ",\n".toList ++
    jsonField "imports" (extractImports source).imports ++ "\n\x7d\n".toList

/-- The cubes that a source refers to and its imports, one on a line. -/
def referencesList (source : Text) : Text :=
  "References:\n".toList ++ (references source).flatMap indentedLine ++
    "Imports:\n".toList ++ (extractImports source).imports.flatMap indentedLine

/-- Prints the cubes that the source in a file refers to, and its imports. -/
def listReferences (files : Files) (file : Text) (asJson : Bool) : Except Failure Text := do
  let source ← (files.read file).mapError Failure.fault
  return if asJson then referencesJson source else referencesList source

/-! ## Checking sources -/

/-- How far a check has come. -/
structure Progress where
  /-- The compiler and its cells. -/
  world : World
  /-- What was printed. -/
  printed : Text
  /-- How many sources could not be compiled. -/
  failures : Nat

/-- The artifact of a fresh cell, whose cube has the name of the file. -/
def compileFile (path source : Text) (kind : CellKind) : Eval Artifact := do
  artifactOf machine 0 (← makeCell (stem path) [] kind source)

/-- Checks a file. Only a failure about its cell counts as a result; any other one stops the check. -/
def checkFile (files : Files) (kind : CellKind) (isVerbose : Bool) (p : Progress) (path : Text) :
    Option Failure × Progress :=
  match files.read path with
  | .error f => (some (.fault f), p)
  | .ok source =>
    match Eval.runIn p.world (compileFile path source kind) with
    | (.ok _, w) =>
      let line := if isVerbose then "  OK    ".toList ++ path ++ ['\n'] else []
      (none, ⟨w, p.printed ++ line, p.failures⟩)
    | (.error f, w) =>
      if f.isAboutCells then
        let line := "  FAIL  ".toList ++ path ++ ": ".toList ++ f.message ++ ['\n']
        (none, ⟨w, p.printed ++ line, p.failures + 1⟩)
      else (some f, { p with world := w })

/-- Checks files one after the other, as far as the first failure that stops the check. -/
def checkEach (files : Files) (kind : CellKind) (isVerbose : Bool) (p : Progress) :
    List Text → Option Failure × Progress
  | [] => (none, p)
  | path :: paths =>
    match checkFile files kind isVerbose p path with
    | (none, p) => checkEach files kind isVerbose p paths
    | stopped => stopped

/-- What is printed after all files were checked. -/
def summary (total failures : Nat) : Text :=
  "\n  ".toList ++ Text.ofNat (total - failures) ++ " ok, ".toList ++ Text.ofNat failures ++
    " failed\n".toList

/-- A compiler that has compiled nothing yet. -/
def freshWorld (settings : Settings) : World :=
  { World.empty with
    compilers := #[.fresh settings Rule.all (.sequential IdSource.defaultStart) .interpreter] }

/-- Checks files. The exit code tells whether all of them could be compiled. -/
def checkFiles (files : Files) (settings : Settings) (kind : CellKind) (isVerbose : Bool)
    (paths : List Text) : Report :=
  match checkEach files kind isVerbose ⟨freshWorld settings, [], 0⟩ paths with
  | (some f, p) => ⟨.failed f, p.printed, p.world.log.reverse⟩
  | (none, p) =>
    ⟨.done (if p.failures = 0 then 0 else 1), p.printed ++ summary paths.length p.failures,
      p.world.log.reverse⟩

/-! ## Commands -/

/-- The answer to a command, with everything that was reported. -/
def perform (files : Files) (environment : List (Text × Text)) : Command → Report
  | .expand file => plainReport (expandFile files file)
  | .references file asJson => plainReport (listReferences files file asJson)
  | .check paths kind path isVerbose =>
    match Settings.load files path environment with
    | .error e => ⟨.refused e, [], []⟩
    | .ok settings => checkFiles files settings kind isVerbose paths

/-- The answer to a command line. -/
def report (files : Files) (environment : List (Text × Text)) (words : List Text) : Report :=
  match readCommandLine words with
  | .error e => ⟨.ended e, [], []⟩
  | .ok (level, command) =>
    let whole := perform files environment command
    { whole with events := whole.events.filter fun e => e.passes level.number }

end FormulaCube.CommandLine
