import FormulaCube.Cell.Compilation
import FormulaCube.Cell.Ids
import FormulaCube.Cube.Registry
import FormulaCube.Cube.Table
import FormulaCube.Value.Order
import FormulaCube.World.Datum
import FormulaCube.World.Event
import FormulaCube.World.Playbook

/-!
# The world of cells and cubes

* `Artifact`, `CellRecord`, `CubeRecord`, `CompilerRecord` — what exists.
* `World` — all of it, with the memory and what has been reported.
* `World.view`, `World.load` — from what is held to values and back.
* `Eval` — computations that change the world and may fail.
-/

namespace FormulaCube

/-- What can be run. -/
inductive Program where
  /-- The methods of a playbook. -/
  | playbook (methods : List (Text × List Action))
  /-- A class, in the sense of the source that was run. -/
  | code (type : Datum)
  deriving Repr

/-- What a source is compiled to. -/
structure Artifact where
  /-- The name of the class. -/
  className : Text
  /-- The text of the module. -/
  text : Text
  /-- What can be run. -/
  program : Program
  deriving Repr

/-- An artifact as it is described. -/
def Artifact.description (artifact : Artifact) : Text :=
  "CompiledArtifact(".toList ++ artifact.className ++ [')']

/-- A cell. -/
structure CellRecord where
  /-- The name of its cube. -/
  cube : Text
  /-- Where it stands in the cube. -/
  coordinate : Entries Datum Datum
  /-- How its source is read. -/
  kind : CellKind
  /-- The number of its current version. -/
  current : Nat

/-- A cube. -/
structure CubeRecord where
  /-- Its name, if it has one. -/
  name : Option Text
  /-- The compiler that its cells are compiled by. -/
  compiler : Nat
  /-- It knows the registry. -/
  hasRegistry : Bool
  /-- What it answers where no cell matches. -/
  default : Option Datum
  /-- Its cells. -/
  table : Table (List (Datum × Datum)) Datum

/-- How a compiler turns modules into artifacts. -/
inductive BackEnd where
  /-- By the playbooks. -/
  | playbooks
  /-- By running the module. -/
  | interpreter
  deriving DecidableEq, Repr

/-- A compiler. -/
structure CompilerRecord where
  /-- Its settings. -/
  settings : Settings
  /-- The forms of shortcuts that it expands. -/
  rules : List Rule
  /-- The numbers of its compilations. -/
  ids : IdSource
  /-- Its back end. -/
  backEnd : BackEnd
  /-- The call that holds its lock. -/
  holder : Option Nat
  /-- How many compilations were begun. -/
  compiles : Nat
  /-- How many of them failed. -/
  failures : Nat
  /-- How many modules were handed to its back end. -/
  calls : Nat

/-- A compiler that has done nothing yet. -/
def CompilerRecord.fresh (settings : Settings) (rules : List Rule) (ids : IdSource)
    (backEnd : BackEnd) : CompilerRecord :=
  ⟨settings, rules, ids, backEnd, none, 0, 0, 0⟩

/-- The texts of the modules that were compiled last. -/
structure SourceCache where
  /-- The texts by the names of their files: the number of characters and the lines. -/
  files : Directory (Nat × List Text)
  /-- The names in the order in which they were entered. -/
  queue : List Text
  /-- How many names are kept. -/
  limit : Int

/-- Cells, cubes, compilers, and everything they share. -/
structure World where
  /-- What can be changed in place. -/
  memory : Memory
  /-- The versions of all sources. -/
  versions : Array (Version Artifact Failure)
  /-- The cells. -/
  cells : Array CellRecord
  /-- The names under which cells are known to playbooks and to whoever works with them. -/
  cellNames : List (Text × Nat)
  /-- The cubes. -/
  cubes : Array CubeRecord
  /-- The names under which cubes are known to whoever works with them. -/
  cubeNames : List (Text × Nat)
  /-- The registry. -/
  directory : Directory Nat
  /-- The compilers. -/
  compilers : Array CompilerRecord
  /-- What has been reported, the last first. -/
  log : List Event
  /-- The address of the stack of nested evaluations. -/
  stack : Nat
  /-- The playbooks. -/
  playbooks : List Playbook
  /-- The states that playbooks noted, the last first. -/
  seen : List Text
  /-- What modules find beside the names that are always there. -/
  surroundings : List (Text × Datum)
  /-- The texts of modules. -/
  sources : SourceCache
  /-- The coordinates at which recorded cubes were asked, the last first. -/
  lookups : List (Nat × Value)

/-- How many texts of modules are kept where nothing else is said. -/
def defaultSourceLimit : Int := 256

namespace World

/-- A world without cells. -/
def empty : World where
  memory := .ofObjects [.list []]
  versions := #[]
  cells := #[]
  cellNames := []
  cubes := #[]
  cubeNames := []
  directory := []
  compilers := #[]
  log := []
  stack := 0
  playbooks := []
  seen := []
  surroundings := []
  sources := ⟨[], [], defaultSourceLimit⟩
  lookups := []

/-! ## Views -/

/-- The current version of a cell. -/
def currentVersion? (w : World) (cell : Nat) : Option (Version Artifact Failure) := do
  let record ← w.cells[cell]?
  w.versions[record.current]?

/-- The entries of a coordinate as a value. -/
def viewEntries (view : Datum → Value) (entries : Entries Datum Datum) : Value :=
  .dict (entries.map fun entry => (view entry.2.1, view entry.2.2))

/-- A class as it is shown: its module and its path. -/
def classText (c : ClassRecord) : Text :=
  let module :=
    match c.members.lookup "__module__".toList with
    | some (.str t _) => t ++ ['.']
    | _ => []
  "<class '".toList ++ module ++ c.path ++ "'>".toList

/-- The text of an exception: its type and what it was made with. -/
def exceptionText (m : Memory) (type : Datum) (arguments : List Value) : Except Fault Text := do
  let shown ← match arguments with
    | [a] => (do return '(' :: ((← a.written) ++ [')']))
    | arguments => (Value.tuple arguments).written
  return type.className m ++ shown

/-- The text of a part of a sequence: its bounds and its step. -/
def sliceText (bounds : List Value) : Except Fault Text := do
  return "slice(".toList ++ Text.join ", ".toList (← bounds.mapM Value.written) ++ [')']

/-- The members of a view of a dictionary. -/
def dictMembers (part : DictPart) (entries : Entries Datum Datum) : List Datum :=
  entries.map fun entry =>
    match part with
    | .keys => entry.2.1
    | .values => entry.2.2
    | .items => .tuple [entry.2.1, entry.2.2] 0

/-- An object in the memory as a value. -/
def viewObject (m : Memory) (view : Datum → Value) (object : Object) : Value :=
  let type := Datum.objectTypeName m object
  match object with
  | .list items => .list (items.map view)
  | .dict entries => viewEntries view entries
  | .set members => .set (members.map fun entry => view entry.2.1)
  | .frame cube coordinate => .frame (view cube) (view coordinate)
  | .classRecord c => .object type (.ok (classText c))
  | .exception cls arguments _ => .object type (exceptionText m cls (arguments.map view))
  | .procedure p => .object type (.ok ("<function ".toList ++ p.path ++ ['>']))
  | .instance _ .none _ => .object type (.ok (Datum.plainText type))
  | .instance _ core _ => view core
  | .slice lower upper step => .object type (sliceText ([lower, upper, step].map view))
  | .module name _ =>
    .object type (.ok ("<module '".toList ++ name ++ "' (built-in)>".toList))
  | .dictView part address =>
    .object type (do
      let shown ← match m.read address with
        | some (.dict entries) => (Value.list ((dictMembers part entries).map view)).written
        | _ => .ok []
      return type ++ '(' :: (shown ++ [')']))
  | _ => .object type (.ok (Datum.plainText type))

/-- What stands for an object where it contains itself. -/
def elided (m : Memory) (object : Object) : Value :=
  .object (Datum.objectTypeName m object)
    (.ok (match object with
    | .list _ => "[...]".toList
    | .dict _ => "\x7b...\x7d".toList
    | _ => "...".toList))

/-- A cell as it is described: its place, its version and its state. -/
def cellText (w : World) (view : Datum → Value) (number : Nat) : Except Fault Text :=
  match w.cells[number]?, w.currentVersion? number with
  | some cell, some version => do
    return "Cell(".toList ++ cell.cube ++ '[' :: ((← (viewEntries view cell.coordinate).formatted) ++
      "], v".toList ++ Text.ofNat version.number ++ ", ".toList ++ version.state.label ++ [')'])
  | _, _ => .ok "Cell()".toList

/-- A cell as a value. One that cannot be described is an object of its type. -/
def viewCell (w : World) (view : Datum → Value) (number : Nat) : Value :=
  match w.cellText view number with
  | .ok text => .cell text
  | .error f => .object "Cell".toList (.error f)

/-- A cube as it is described: its name and how many cells it has. -/
def cubeText (w : World) (number : Nat) : Text :=
  match w.cubes[number]? with
  | some cube =>
    "Cube(".toList ++ Text.quoted (cube.name.getD []) ++ ", ".toList ++
      Text.ofNat cube.table.length ++ " cells)".toList
  | none => "Cube()".toList

/-- What is held as a value; objects are nested at most `depth` deep. `above` are the objects that are
being viewed. -/
def viewWithin (w : World) : (depth : Nat) → (above : List Nat) → Datum → Value
  | 0, _, d => d.viewWith (fun _ => .none) (fun _ => .cell []) (fun n => .cube (w.cubeText n))
  | depth + 1, above, d =>
    d.viewWith
      (fun address =>
        match w.memory.read address with
        | some object =>
          if above.contains address then elided w.memory object
          else viewObject w.memory (w.viewWithin depth (address :: above)) object
        | none => .none)
      (fun n => w.viewCell (w.viewWithin depth above) n)
      (fun n => .cube (w.cubeText n))

/-- What is held as a value. Objects are nested less deeply than there are objects. -/
def view (w : World) (d : Datum) : Value :=
  w.viewWithin (w.memory.objects.size + w.cells.size + 1) [] d

/-- Equality of what is held: objects are equal if they are the same or have equal values. -/
def same (w : World) (a b : Datum) : Bool :=
  Datum.equalBy (fun a b => a.identical b || (w.view a).same (w.view b)) a b

/-- The place of a cell as a value. -/
def viewCoordinate (w : World) (entries : Entries Datum Datum) : Value :=
  viewEntries w.view entries

/-! ## Loading -/

/-- Entries with their keys. -/
def keyed (m : Memory) (entries : List (Datum × Datum)) : Except Fault (Entries Datum Datum) :=
  entries.foldlM (fun table entry => do
    let k ← entry.1.key m
    return Entries.insert table k entry.1 entry.2) []

mutual

/-- A value as it is held, with fresh objects for everything that can be changed. -/
def loadInto (cells : List (Text × Nat)) : Value → Memory → Datum × Memory
  | .none, m => (.none, m)
  | .bool b, m => (.bool b, m)
  | .int i, m =>
    let (mark, m) := m.fresh
    (.ofInt i mark, m)
  | .float x, m =>
    let (mark, m) := m.fresh
    (.float x mark, m)
  | .str t, m =>
    let (mark, m) := m.fresh
    (.ofText t mark, m)
  | .list items, m =>
    let (items, m) := loadAll cells items m
    let (address, m) := m.add (.list items)
    (.ref address, m)
  | .tuple items, m =>
    let (items, m) := loadAll cells items m
    let (mark, m) := m.fresh
    (.ofItems items mark, m)
  | .dict entries, m =>
    let (entries, m) := loadEntries cells entries m
    let (address, m) := m.add (.dict ((keyed m entries).toOption.getD []))
    (.ref address, m)
  | .set items, m =>
    let (items, m) := loadAll cells items m
    let members := (keyed m (items.map fun item => (item, .none))).toOption.getD []
    let (address, m) := m.add (.set (members.map fun entry => (entry.1, entry.2.1, ())))
    (.ref address, m)
  | .cell name, m =>
    match cells.lookup name with
    | some number => (.cell number, m)
    | Option.none => (.none, m)
  | .cube _, m => (.none, m)
  | .frame cube coordinate, m =>
    let (cube, m) := loadInto cells cube m
    let (coordinate, m) := loadInto cells coordinate m
    let (address, m) := m.add (.frame cube coordinate)
    (.ref address, m)
  | .bytes data, m => (.bytes data, m)
  | .object type shown, m =>
    (.other type (.tuple [.object 8 0, .str type, .str (Value.object type shown).shown]) shown, m)

/-- Several values as they are held. -/
def loadAll (cells : List (Text × Nat)) : List Value → Memory → List Datum × Memory
  | [], m => ([], m)
  | item :: items, m =>
    let (d, m) := loadInto cells item m
    let (ds, m) := loadAll cells items m
    (d :: ds, m)

/-- Entries of a dictionary as they are held. -/
def loadEntries (cells : List (Text × Nat)) :
    List (Value × Value) → Memory → List (Datum × Datum) × Memory
  | [], m => ([], m)
  | (key, value) :: entries, m =>
    let (key, m) := loadInto cells key m
    let (value, m) := loadInto cells value m
    let (entries, m) := loadEntries cells entries m
    ((key, value) :: entries, m)

end

end World

/-! ## Computations -/

/-- Computations that change the world and may fail. What was changed before stays changed. -/
abbrev Eval := ExceptT Failure (StateM World)

namespace Eval

/-- Ends with a failure. -/
def fail {α : Type} (f : Failure) : Eval α := throw f

/-- Ends with a fault. -/
def fault {α : Type} (f : Fault) : Eval α := fail (.fault f)

/-- The result, or the fault as a failure. -/
def ofExcept {α : Type} (result : Except Fault α) : Eval α :=
  match result with
  | .ok a => pure a
  | .error f => fault f

/-- What a computation comes to. -/
def attempt {α : Type} (x : Eval α) : Eval (Except Failure α) := fun w =>
  let (result, w) := x w
  (.ok result, w)

/-- Does something after a computation, however that ends. -/
def ensuring {α : Type} (x : Eval α) (after : World → World) : Eval α := fun w =>
  let (result, w) := x w
  (result, after w)

/-- Adds an object to the memory. -/
def add (object : Object) : Eval Datum := do
  let w ← get
  let (address, memory) := w.memory.add object
  set { w with memory := memory }
  return .ref address

/-- A mark that was not given before. -/
def fresh : Eval Mark := do
  let w ← get
  let (mark, memory) := w.memory.fresh
  set { w with memory := memory }
  return mark

/-- An integer that has come about. -/
def newInt (i : Int) : Eval Datum := return .ofInt i (← fresh)

/-- A double that has come about. -/
def newFloat (x : Binary64) : Eval Datum := return .float x (← fresh)

/-- A text that has come about. -/
def newText (t : Text) : Eval Datum := return .ofText t (← fresh)

/-- A tuple that has come about. -/
def newTuple (items : List Datum) : Eval Datum := return .ofItems items (← fresh)

/-- The object at an address. -/
def read (address : Nat) : Eval Object := do
  match (← get).memory.read address with
  | some object => return object
  | none => fault (.typeMisuse "no object".toList)

/-- Changes the object at an address. -/
def write (address : Nat) (object : Object) : Eval Unit :=
  modify fun w => { w with memory := w.memory.write address object }

/-- Adds an object with a dictionary of these attributes. -/
def addWith (attributes : List (Text × Datum)) (object : Nat → Object) : Eval Datum := do
  match ← add (.dict (attributes.map fun a => (.str a.1, .word a.1, a.2))) with
  | .ref address => add (object address)
  | d => return d

/-- The key of what is held. -/
def keyOf (d : Datum) : Eval Key := do ofExcept (d.key (← get).memory)

/-- The name of the type of what is held. -/
def typeName (d : Datum) : Eval Text := return d.typeName (← get).memory

/-- What is held, as a value. -/
def view (d : Datum) : Eval Value := return (← get).view d

/-- A value as it is held. -/
def load (value : Value) : Eval Datum := do
  let w ← get
  let (d, memory) := World.loadInto w.cellNames value w.memory
  set { w with memory := memory }
  return d

/-- Adds a report. -/
def report (event : Event) : Eval Unit := modify fun w => { w with log := event :: w.log }

/-- A computation in a world, and the world after it. -/
def runIn {α : Type} (w : World) (x : Eval α) : Except Failure α × World := x w

end Eval

end FormulaCube
