import FormulaCube.Run.Machine
import FormulaCube.Run.Registered

/-!
# Sessions

A session works with cubes and cells under names of its own, one command after the other.

* `Command` — what can be asked for.
* `Reply` — what is answered.
* `perform` — one command.
* `begin` — a world with one compiler and an empty registry.
-/

namespace FormulaCube.Session

open Run Eval

/-- What can be asked for. -/
inductive Command where
  /-- A cube is made. It is known under `handle`, and may be registered, know the registry, answer a
  default where no cell matches, and have a compiler of its own. -/
  | cube (name handle : Text) (default : Option Value) (registers knows ownCompiler : Bool)
  /-- A cell is made. -/
  | cell (handle source cube : Text) (coordinate : Value) (kind : Text)
  /-- Something is kept at a coordinate of a cube. -/
  | set (cube : Text) (coordinate value : Value)
  /-- What is kept at a coordinate is taken out. -/
  | remove (cube : Text) (coordinate : Value)
  /-- What is kept at the coordinate that matches best. -/
  | find (cube : Text) (coordinate : Value)
  /-- The value of a cube at a coordinate. -/
  | get (cube : Text) (coordinate output : Value)
  /-- The value of a cell in given surroundings. -/
  | evaluate (cell : Text) (input output : Value) (cube : Option Text) (knowsRegistry : Bool)
      (stack : Option (List (Value × Value)))
  /-- The artifact of a cell. -/
  | compile (cell : Text)
  /-- A new source for a cell. -/
  | edit (cell source : Text)
  /-- Everything about a cell. -/
  | info (cell : Text)
  /-- What was counted. -/
  | counters
  /-- The names in the registry. -/
  | names
  /-- Whether a name is in the registry. -/
  | has (name : Text)
  /-- The registered cubes whose names begin with a text. -/
  | list (lead : Option Text)
  /-- A name is taken out of the registry. -/
  | unregister (name : Text)
  /-- All names are taken out of the registry. -/
  | clear
  /-- Which cubes the cells of each registered cube refer to. -/
  | graph
  /-- What was reported since the last time. -/
  | logs

/-- Everything about a cell. -/
structure Description where
  /-- The source of its current version. -/
  source : Text
  /-- The number of its current version. -/
  version : Nat
  /-- How far its compilation is. -/
  state : CompileState
  /-- How its source is read. -/
  kind : CellKind
  /-- The words for a failure to compile it. -/
  words : Option Text
  /-- Its place. -/
  identity : Text
  /-- The cell as it is described. -/
  text : Text
  /-- Its artifact. -/
  artifact : Option Artifact
  /-- The cubes that its source refers to. -/
  references : List Text

/-- What was counted. -/
structure Counters where
  /-- How many compilations were begun. -/
  compiles : Nat
  /-- How many of them failed. -/
  failures : Nat
  /-- How many modules were handed to the back end. -/
  calls : Nat
  /-- The states that playbooks noted. -/
  seen : List Text

/-- What is answered. -/
inductive Reply where
  | value (v : Value)
  | text (t : Text)
  | number (n : Nat)
  | coordinates (keys : List Value)
  | removed (v : Value) (left : Nat)
  | got (outcome : Except Failure Value) (input output : Value) (depth : Nat)
  | evaluated (outcome : Except Failure Value) (input output : Value)
  | described (d : Description)
  | counted (c : Counters)
  | names (names : List Text)
  | membership (isThere : Bool) (cube : Value)
  | texts (ts : List Text)
  | graph (edges : List (Text × List Text))
  | events (events : List Event)
  | failed (f : Failure)

/-! ## Names -/

/-- The number that a name stands for. -/
def numberOf (names : List (Text × Nat)) (name : Text) : Eval Nat := do
  match names.lookup name with
  | some number => return number
  | none => fault (.missingKey (Text.quoted name))

/-- The cube that a name stands for. -/
def cubeOf (name : Text) : Eval Nat := do numberOf (← get).cubeNames name

/-- The cell that a name stands for. -/
def cellOf (name : Text) : Eval Nat := do numberOf (← get).cellNames name

/-! ## Commands -/

/-- A compiler for a cube that brings its own. -/
def ownCompiler : CompilerRecord :=
  .fresh {} Rule.all (.sequential IdSource.defaultStart) .interpreter

/-- The number of the compiler of the session. -/
def mainCompiler : Nat := 0

/-- Makes a cube. -/
def makeCube (name handle : Text) (default : Option Value)
    (registers knows brings : Bool) : Eval Reply := do
  let default ← default.mapM load
  let w ← MonadState.get
  let compilers := if brings then w.compilers.push ownCompiler else w.compilers
  let compiler := if brings then w.compilers.size else mainCompiler
  let number := w.cubes.size
  set { w with
    compilers := compilers
    cubes := w.cubes.push ⟨some name, compiler, knows, default, []⟩
    cubeNames := (handle, number) :: w.cubeNames }
  if registers then register name number
  return .text ((← MonadState.get).cubeText number)

/-- Makes a cell under a name. -/
def nameCell (handle source cube : Text) (coordinate : Value) (kind : Text) : Eval Reply := do
  let coordinate ← load coordinate
  let entries ←
    if (← view coordinate).isEmptyValue then pure [] else coordinateCopy coordinate
  let kind ← ofExcept (CellKind.read kind)
  let number ← makeCell cube entries kind source
  modify fun w => { w with cellNames := (handle, number) :: w.cellNames }
  let w ← MonadState.get
  return .text (← ofExcept (w.cellText w.view number))

/-- The value of a cube at a coordinate, and what became of the coordinate, the output and the stack. -/
def getFrom (machine : Machine) (cube : Text) (coordinate output : Value) : Eval Reply := do
  let coordinate ← load coordinate
  let output ← load output
  let outcome ← (do view (← lookUp machine (← cubeOf cube) coordinate output)).attempt
  let depth := (← members (.ref (← MonadState.get).stack)).length
  return .got outcome (← view coordinate) (← view output) depth

/-- The levels of nested evaluation that a cell is told to be in. -/
def stackOf (levels : List (Value × Value)) : Eval Datum := do
  let frames ← levels.mapM fun (cube, coordinate) => do
    let cube ← load cube
    add (.frame cube (← load coordinate))
  add (.list frames)

/-- The surroundings in which a cell is evaluated. -/
def surroundingsOf (input output : Datum) (cube : Option Text) (knowsRegistry : Bool)
    (stack : Option (List (Value × Value))) : Eval Surroundings := do
  let cube ← cube.mapM cubeOf
  let stack ← stackOf (stack.getD [])
  let input ← match input with
    | .none => add (.dict [])
    | input => pure input
  let output ← match output with
    | .none => add (.dict [])
    | output => pure output
  return ⟨input, output, stack, (cube.map Datum.cube).getD .none,
    if knowsRegistry then .registry else .none⟩

/-- The value of a cell, and what became of the input and the output. -/
def evaluateCell (machine : Machine) (cell : Text) (input output : Value) (cube : Option Text)
    (knowsRegistry : Bool) (stack : Option (List (Value × Value))) : Eval Reply := do
  let input ← load input
  let output ← load output
  let outcome ← (do
    let number ← cellOf cell
    let s ← surroundingsOf input output cube knowsRegistry stack
    view (← evaluate machine mainCompiler number s)).attempt
  return .evaluated outcome (← view input) (← view output)

/-- Everything about a cell. -/
def describe (cell : Text) : Eval Reply := do
  let number ← cellOf cell
  let record ← cellRecord number
  let w ← MonadState.get
  match w.currentVersion? number with
  | none => fault (.missingKey (Text.quoted cell))
  | some version =>
    let place ← ofExcept (w.viewCoordinate record.coordinate).formatted
    return .described {
      source := version.source
      version := version.number
      state := version.state
      kind := record.kind
      words := version.words
      identity := record.cube ++ '[' :: (place ++ [']'])
      text := ← ofExcept (w.cellText w.view number)
      artifact := version.artifact
      references := references version.source }

/-- What was counted. -/
def count : Eval Reply := do
  let compiler ← compilerRecord mainCompiler
  return .counted ⟨compiler.compiles, compiler.failures, compiler.calls,
    (← MonadState.get).seen.reverse⟩

/-- What was reported since the last time. -/
def takeLogs : Eval (List Event) := do
  let w ← MonadState.get
  set { w with log := [] }
  return w.log.reverse

/-- One command. -/
def perform (machine : Machine) : Command → Eval Reply
  | .cube name handle default registers knows brings =>
    makeCube name handle default registers knows brings
  | .cell handle source cube coordinate kind => nameCell handle source cube coordinate kind
  | .set cube coordinate value => do
    let number ← cubeOf cube
    let coordinate ← load coordinate
    setCell number coordinate (← load value)
    let w ← MonadState.get
    return .coordinates ((← cubeRecord number).table.map fun slot =>
      .dict (slot.shown.map fun entry => (w.view entry.1, w.view entry.2)))
  | .remove cube coordinate => do
    let number ← cubeOf cube
    let d ← removeCell number (← load coordinate)
    return .removed (← view d) (← cubeRecord number).table.length
  | .find cube coordinate => do
    let number ← cubeOf cube
    let d ← findCell number (← load coordinate)
    return .value (← view d)
  | .get cube coordinate output => getFrom machine cube coordinate output
  | .evaluate cell input output cube knowsRegistry stack =>
    evaluateCell machine cell input output cube knowsRegistry stack
  | .compile cell => do
    return .text (← artifactOf machine mainCompiler (← cellOf cell)).description
  | .edit cell source => do return .number (← edit (← cellOf cell) source)
  | .info cell => describe cell
  | .counters => count
  | .names => do return .names (← MonadState.get).directory.names
  | .has name => do
    let found := (← MonadState.get).directory.find? name
    return .membership found.isSome (← view ((found.map Datum.cube).getD .none))
  | .list lead => do
    let w ← MonadState.get
    return .texts ((listed w lead).map fun entry => w.cubeText entry.2)
  | .unregister name => do return .value (← view (← unregister name))
  | .clear => do
    clearRegistry
    return .value .none
  | .graph => do
    let w ← MonadState.get
    return .graph (w.directory.map fun entry => (entry.1, cubeReferences w entry.2))
  | .logs => do return .events (← takeLogs)

/-! ## Sessions -/

/-- A world with one compiler and an empty registry. -/
def begin (compiler : CompilerRecord) (playbooks : List Playbook) : World :=
  { World.empty with compilers := #[compiler], playbooks := playbooks }

/-- The reply to a command in a world, and the world after it. -/
def replyTo (machine : Machine) (w : World) (command : Command) : Reply × World :=
  match runIn w (perform machine command) with
  | (.ok reply, w) => (reply, w)
  | (.error f, w) => (.failed f, w)

/-- The replies to commands, one after the other. -/
def replies (machine : Machine) : World → List Command → List Reply
  | _, [] => []
  | w, command :: commands =>
    let (reply, w) := replyTo machine w command
    reply :: replies machine w commands

end FormulaCube.Session
