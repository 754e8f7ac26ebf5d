import FormulaCube.Run.Arguments
import FormulaCube.Run.Reach
import FormulaCube.Run.Registered
import FormulaCube.Run.Standard

/-!
# Looking at cubes and cells

Running cells may look at what they belong to: the cube, its cells, its compiler with the settings, and
the registry.

* `ownAttribute?` — an attribute of a cube, a cell, a compiler, settings or the registry.
* `callOwnMethod` — a call of a method of a cube, of the registry or of a compiler.
-/

namespace FormulaCube.Run

open Eval Code

/-! ## Attributes -/

/-- Something about which only its type is known. -/
def plainThing (type : String) : Datum := .plain type.toList (Datum.plainText type.toList)

/-- The cells of a cube as a fresh dictionary: coordinates as tuples of axes and values. -/
def cellsOf (cube : CubeRecord) : Eval Datum := do
  let entries ← cube.table.mapM fun slot => do
    let pairs ← slot.shown.mapM fun (axis, value) => newTuple [axis, value]
    let key ← newTuple pairs
    return (← keyOf key, key, slot.value)
  add (.dict entries)

/-- An attribute of a cube. -/
def cubeAttribute? (number : Nat) (name : String) : Eval (Option Datum) := do
  let cube ← cubeRecord number
  match name with
  | "name" => return cube.name.map Datum.word
  | "compiler" => return some (.compiler cube.compiler)
  | "registry" => return some (if cube.hasRegistry then .registry else .none)
  | "default" => return some (cube.default.getD (plainThing "object"))
  | "cells" => return some (← cellsOf cube)
  | _ => return none

/-- An attribute of a compiler. -/
def compilerAttribute? (number : Nat) (name : String) : Option Datum :=
  match name with
  | "config" => some (.settings number)
  | "backend" => some (plainThing "PythonBackend")
  | "id_source" => some (plainThing "SequentialIdSource")
  | "expander" => some (plainThing "ShortcutExpander")
  | "cache" => some (plainThing "CompiledArtifactCache")
  | _ => none

/-- An attribute of the settings of a compiler. -/
def settingsAttribute? (number : Nat) (name : String) : Eval (Option Datum) := do
  let settings := ((← get).compilers[number]?.map (·.settings)).getD {}
  match name with
  | "class_prefix" => return some (.word settings.classLead)
  | "hoist_imports" => return some (.bool settings.hoistImports)
  | "include_source_in_errors" => return some (.bool settings.quotesSource)
  | "max_error_source_length" => return some (← newInt settings.quoteLimit)
  | _ => return none

/-- An attribute of a cell. -/
def cellAttribute? (number : Nat) (name : String) : Eval (Option Datum) := do
  let cell ← cellRecord number
  let w ← get
  match w.currentVersion? number with
  | none => return none
  | some version =>
    match name with
    | "cube" => return some (.word cell.cube)
    | "coordinate" => return some (← add (.dict cell.coordinate))
    | "kind" => return some (.word cell.kind.label)
    | "source" => return some (.word version.source)
    | "version" => return some (← newInt version.number)
    | "state" => return some (.word version.state.label)
    | "identity" =>
      let place ← ofExcept (w.viewCoordinate cell.coordinate).formatted
      return some (← newText (cell.cube ++ '[' :: (place ++ [']'])))
    | "current" => return some (plainThing "CellVersion")
    | "compile_error" => return some ((version.words.map Datum.word).getD .none)
    | "compiled_artifact" =>
      return some ((version.artifact.map fun a =>
        Datum.plain "CompiledArtifact".toList a.description).getD .none)
    | _ => return none

/-- An attribute of a cube, a cell, a compiler, settings or the registry. -/
def ownAttribute? (d : Datum) (name : Text) : Eval (Option Datum) := do
  match d with
  | .cube number => cubeAttribute? number (String.ofList name)
  | .cell number => cellAttribute? number (String.ofList name)
  | .compiler number => return compilerAttribute? number (String.ofList name)
  | .settings number => settingsAttribute? number (String.ofList name)
  | .registry =>
    if name = "names".toList then
      return some (← add (.list ((← get).directory.names.map Datum.word)))
    else return none
  | _ => return none

/-! ## Methods -/

/-- The parameters of a method of a cube, of the registry or of a compiler. -/
def ownSignature (type name : Text) : Signature :=
  let path := type ++ '.' :: name
  let signature (parameters : List String) (defaults : List (Text × Datum)) : Signature :=
    ⟨path, ("self" :: parameters).map fun p => (.plain, p.toList), defaults⟩
  match String.ofList name with
  | "get_cell" => signature ["coordinate", "output"] [("output".toList, .none)]
  | "find_cell" | "remove_cell" => signature ["coordinate"] []
  | "set_cell" => signature ["coordinate", "value"] []
  | "get_cube" | "remove" => signature ["name"] []
  | "register" => signature ["cube"] []
  | "list_cubes" => signature ["prefix"] [("prefix".toList, .none)]
  | "references" => signature ["cell"] []
  | _ => signature [] []

/-- A method of a cube. -/
def callCubeMethod (ask : Ask) (number : Nat) (name : String) (argument : String → Datum) :
    Eval Datum := do
  match name with
  | "get_cell" => ask number (argument "coordinate") (argument "output")
  | "find_cell" => findCell number (argument "coordinate")
  | "remove_cell" => removeCell number (argument "coordinate")
  | "set_cell" => do
    setCell number (argument "coordinate") (argument "value")
    return .none
  | _ => fault (.notImplemented "cells do not make cubes".toList)

/-- Which cubes the cells of each registered cube refer to, as a dictionary of sets. -/
def graphDatum : Eval Datum := do
  let w ← get
  let entries ← w.directory.mapM fun (name, number) => do
    let names := (cubeReferences w number).map Datum.word
    let members ← names.mapM fun d => do return (← keyOf d, d, ())
    return (Key.str name, Datum.word name, ← add (.set members))
  add (.dict entries)

/-- A method of the registry. -/
def callRegistryMethod (name : String) (argument : String → Datum) : Eval Datum := do
  match name with
  | "get_cube" => return (← registered? .registry (argument "name")).getD .none
  | "remove" =>
    let _ ← keyOf (argument "name")
    match argument "name" with
    | .str t _ => unregister t
    | _ => return .none
  | "register" =>
    match argument "cube" with
    | .cube number =>
      register ((← cubeRecord number).name.getD []) number
      return .cube number
    | other => fault (.noAttribute (← typeName other) "name".toList)
  | "clear" =>
    clearRegistry
    return .none
  | "list_cubes" =>
    let lead ← match argument "prefix" with
      | .none => pure none
      | .str t _ => pure (some t)
      | other =>
        fault (.typeMisuse ("startswith first arg must be str or a tuple of str, not ".toList ++
          (← typeName other)))
    add (.iterator "generator".toList ((listed (← get) lead).map fun entry => .cube entry.2))
  | "dependency_graph" => graphDatum
  | _ => fault (.notImplemented "cells do not make registries".toList)

/-- A method of a compiler. -/
def callCompilerMethod (call : Caller) (argument : String → Datum) : Eval Datum := do
  match argument "cell" with
  | .cell number =>
    let names := (((← get).currentVersion? number).map fun v => references v.source).getD []
    setOf call (names.map Datum.word)
  | other => fault (.noAttribute (← typeName other) "source".toList)

/-- A call of a method of a cube, of the registry or of a compiler, whose own type is named. -/
def callOwnMethod (ask : Ask) (call : Caller) (type name : Text) (ds : List Datum)
    (named : List (Text × Datum)) : Eval Datum := do
  let received ← ofExcept ((ownSignature type name).receive ds named)
  let argument (name : String) : Datum := (received.values.lookup name.toList).getD .none
  match argument "self" with
  | .cube number => callCubeMethod ask number (String.ofList name) argument
  | .registry => callRegistryMethod (String.ofList name) argument
  | .compiler _ => callCompilerMethod call argument
  | other => fault (.noAttribute (← typeName other) name)

end FormulaCube.Run
