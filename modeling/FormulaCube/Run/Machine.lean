import FormulaCube.Cell.Job
import FormulaCube.Run.Reach

/-!
# Compiling and running cells

* `Machine` — how modules are compiled and artifacts run; everything here is over a machine.
* `artifactOf` — the artifact of a cell, compiled at most once for each version.
* `execute` — a cell in its surroundings. Failures about cells pass unchanged, and other failures name
  the cell in which they arose.
* `getCell` — the value of a cube at a coordinate. `answer` bounds how deep cells refer to cells.
-/

namespace FormulaCube.Run

open Eval

/-- How modules are compiled and artifacts run. -/
structure Machine where
  /-- Compiles a module. -/
  compile : BackEnd → GeneratedModule → Eval (Except Failure Artifact)
  /-- Runs a method of an artifact in its surroundings; the first argument asks other cells. -/
  invoke : Ask → Artifact → Surroundings → (method : Datum) → Eval Datum

/-! ## Compiling -/

/-- The compiler of a number. -/
def compilerRecord (number : Nat) : Eval CompilerRecord := do
  match (← get).compilers[number]? with
  | some compiler => return compiler
  | none => fault (.typeMisuse "no compiler".toList)

/-- Changes the compiler of a number. -/
def changeCompiler (number : Nat) (f : CompilerRecord → CompilerRecord) : Eval Unit :=
  modify fun w => { w with compilers := w.compilers.modify number f }

/-- What the calls of a compiler share. -/
def recordsOf (compiler : Nat) : Eval (Records Artifact Failure) := do
  let record ← compilerRecord compiler
  return ⟨(← get).versions, record.holder, record.compiles, record.failures⟩

/-- Puts what the calls of a compiler share back. -/
def setRecords (compiler : Nat) (s : Records Artifact Failure) : Eval Unit := do
  changeCompiler compiler
    ({ · with holder := s.holder, compiles := s.compiles, failures := s.failures })
  modify ({ · with versions := s.versions })

/-- The words for a failure to compile a version of a cell, if they can be formed. -/
def failureWords (compiler cell version : Nat) (cause : Failure) : Eval (Except Failure Text) := do
  let record ← cellRecord cell
  let settings := (← compilerRecord compiler).settings
  let w ← get
  let source := (w.versions[version]?.map (·.source)).getD []
  return (compilationWords record.cube (w.viewCoordinate record.coordinate)
    (settings.quote source) cause).mapError .fault

/-- The steps of a call for the artifact of a cell until it has none left. -/
def advance (compiler cell me : Nat) (phase : Phase Artifact Failure) :
    Eval (Phase Artifact Failure) := do
  let current := (← cellRecord cell).current
  let words ←
    match phase with
    | .countingFailure version cause => failureWords compiler cell version cause
    | _ => pure (.ok [])
  let (phase, s) :=
    phase.run me current (fun _ _ => words) Phase.stepBound (← recordsOf compiler)
  setRecords compiler s
  return phase

/-- The compilation of a version of a cell, with a fresh number. The place of the cell is written first;
where it cannot be, no number is drawn. -/
def jobFor (compiler cell version : Nat) : Eval (Except Fault Job) := do
  let record ← cellRecord cell
  let compilerRecord ← compilerRecord compiler
  let w ← get
  match (w.viewCoordinate record.coordinate).formatted with
  | .error f => return .error f
  | .ok place =>
    changeCompiler compiler fun c => { c with ids := c.ids.rest }
    let source := w.versions[version]?
    return .ok {
      settings := compilerRecord.settings
      rules := compilerRecord.rules
      kind := record.kind
      cube := record.cube
      coordinate := place
      number := compilerRecord.ids.text
      version := (source.map (·.number)).getD 0
      source := (source.map (·.source)).getD [] }

/-- Hands a module to the back end of a compiler. -/
def handOver (machine : Machine) (compiler : Nat) (backEnd : BackEnd) (module : GeneratedModule) :
    Eval (Except Failure Artifact) := do
  changeCompiler compiler fun c => { c with calls := c.calls + 1 }
  machine.compile backEnd module

/-- What a call for a cell gives when it ends: the artifact, or a failure that names the cell and the
source of the version, or the failure to put that in words. -/
def resultOf {α : Type} (cube : Text) (coordinate : Value) (sourceOf : Nat → Text) :
    Outcome α Failure → Except Failure α
  | .artifact artifact => .ok artifact
  | .failed version words cause =>
    .error (.compilation words cube coordinate (sourceOf version)
      (cause.getD (.fault .syntaxError)))
  | .raised cause => .error cause

/-- The artifact with which a call for a cell ends, or its failure. -/
def outcomeOf (cell : Nat) (phase : Phase Artifact Failure) : Eval Artifact := do
  match phase with
  | .done outcome =>
    let record ← cellRecord cell
    let w ← get
    let sourceOf v := (w.versions[v]?.map (·.source)).getD []
    match resultOf record.cube (w.viewCoordinate record.coordinate) sourceOf outcome with
    | .ok artifact => return artifact
    | .error f => fail f
  | _ => fault (.typeMisuse "no outcome".toList)

/-- Compiles a version of a cell. -/
def compileVersion (machine : Machine) (compiler cell version : Nat) :
    Eval (Except Failure Artifact) := do
  match ← jobFor compiler cell version with
  | .error f => return .error (.fault f)
  | .ok job =>
    let backEnd := (← compilerRecord compiler).backEnd
    job.run report (handOver machine compiler backEnd)

/-- The artifact of a cell. -/
def artifactOf (machine : Machine) (compiler cell : Nat) : Eval Artifact := do
  let phase ← advance compiler cell 0 .start
  match phase with
  | .compiling version =>
    let result ← compileVersion machine compiler cell version
    let phase ← advance compiler cell 0 (Phase.compiled version result)
    outcomeOf cell phase
  | phase => outcomeOf cell phase

/-! ## Running -/

/-- The method that a cell is asked for: cells with methods are told by their input. -/
def methodOf (cell : Nat) (s : Surroundings) : Eval Datum := do
  match (← cellRecord cell).kind with
  | .expression => return .word "run".toList
  | .methods =>
    match ← entriesOf? s.input with
    | some entries => return (entries.find? (.str "method".toList)).getD (.word "run".toList)
    | none => fault (.noAttribute (← typeName s.input) "get".toList)

/-- Runs a cell in its surroundings. -/
def execute (machine : Machine) (ask : Ask) (compiler cell : Nat) (s : Surroundings) :
    Eval Datum := do
  let artifact ← artifactOf machine compiler cell
  let method ← methodOf cell s
  match ← (machine.invoke ask artifact s method).attempt with
  | .ok value => return value
  | .error f =>
    if f.isAboutCells then fail f
    else
      let record ← cellRecord cell
      fail (.invocationOf record.cube ((← get).viewCoordinate record.coordinate) f)

/-- Puts a level of nested evaluation on the stack. -/
def pushFrame (frame : Datum) : Eval Unit := do
  let address := (← get).stack
  match ← read address with
  | .list items => write address (.list (items ++ [frame]))
  | _ => pure ()

/-- The world without the last level of nested evaluation. -/
def popFrame (w : World) : World :=
  match w.memory.read w.stack with
  | some (.list items) => { w with memory := w.memory.write w.stack (.list items.dropLast) }
  | _ => w

/-- The value of a cube at a coordinate, where `ask` asks other cells. The coordinate is the input of
the cell if it is a dictionary, and is copied into one otherwise. -/
def getCell (machine : Machine) (ask : Ask) : Ask := fun cube coordinate output => do
  match ← findCell cube coordinate with
  | .cell cell =>
    let record ← cubeRecord cube
    let input ←
      match ← entriesOf? coordinate with
      | some _ => pure coordinate
      | none => copyOfEntries coordinate
    let snapshot ← copyOfEntries input
    let frame ← add (.frame (.word (record.name.getD [])) snapshot)
    pushFrame frame
    ensuring (do
      let output ←
        match output with
        | .none => add (.dict [])
        | output => pure output
      let known := if record.hasRegistry then Datum.registry else .none
      execute machine ask record.compiler cell
        ⟨input, output, .ref (← get).stack, .cube cube, known⟩) popFrame
  | value => return value

/-- Asks cubes whose cells refer to other cells at most `depth` deep. -/
def answer (machine : Machine) : (depth : Nat) → Ask
  | 0 => fun _ _ _ => fault .tooDeep
  | depth + 1 => getCell machine (answer machine depth)

/-- How deep cells may refer to cells. -/
def depthLimit : Nat := 300

/-- The value of a cube at a coordinate. -/
def lookUp (machine : Machine) : Ask := answer machine depthLimit

/-- The value of a cell in given surroundings. -/
def evaluate (machine : Machine) (compiler cell : Nat) (s : Surroundings) : Eval Datum :=
  execute machine (lookUp machine) compiler cell s

/-- The name of the state of the current version of a cell. -/
def currentState (cell : Nat) : Eval Text := do
  return (((← get).currentVersion? cell).map (·.state.label)).getD []

/-- Makes a cell, whose first version of a source begins. -/
def makeCell (cube : Text) (coordinate : Entries Datum Datum) (kind : CellKind) (source : Text) :
    Eval Nat := do
  let w ← get
  let number := w.cells.size
  set { w with
    versions := w.versions.push (Version.blank source 1)
    cells := w.cells.push ⟨cube, coordinate, kind, w.versions.size⟩ }
  return number

/-- Edits a cell: a new version of its source begins. -/
def edit (cell : Nat) (source : Text) : Eval Nat := do
  let w ← get
  let number := ((w.currentVersion? cell).map (·.number)).getD 0 + 1
  set { w with versions := w.versions.push (Version.blank source number) }
  changeCell cell ({ · with current := w.versions.size })
  return number

end FormulaCube.Run
