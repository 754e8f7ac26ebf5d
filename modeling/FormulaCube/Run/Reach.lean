import FormulaCube.Run.Cubes

/-!
# Reaching other cells

A running cell sees its surroundings and reaches other cells by three calls. A reference to a cube that
is not registered fails; it never gives an empty value. Relative references change the input in place,
before anything is looked up.

* `Surroundings` — what a running cell sees.
* `fixedCell`, `relativeCell`, `relativeCubeCell` — the calls, over how cubes are asked.
-/

namespace FormulaCube.Run

open Eval

/-- What a running cell sees. -/
structure Surroundings where
  /-- The coordinate it was asked for, with what was merged into it. -/
  input : Datum
  /-- Where it may leave results. -/
  output : Datum
  /-- The nested evaluations. -/
  stack : Datum
  /-- The cube it belongs to. -/
  cube : Datum
  /-- The registry. -/
  registry : Datum

/-- How a cube is asked for its cell at a coordinate, with an output. -/
abbrev Ask := (cube : Nat) → (coordinate output : Datum) → Eval Datum

/-- The name of a cube; what has no name has an empty one. -/
def nameOf (cube : Datum) : Eval Text := do
  match cube with
  | .cube number => return ((← cubeRecord number).name).getD []
  | _ => return []

/-- The cube that a name stands for in a registry, if there is one. -/
def registered? (known name : Datum) : Eval (Option Datum) := do
  match known with
  | .none => return none
  | .registry =>
    let _ ← keyOf name
    match name with
    | .str t _ => return ((← get).directory.find? t).map .cube
    | _ => return none
  | other => fault (.noAttribute (← typeName other) "get_cube".toList)

/-- The cube that a name stands for. -/
def findCube (s : Surroundings) (name coordinate : Datum) (kind : Text) : Eval Datum := do
  match ← registered? s.registry name with
  | some cube => return cube
  | none =>
    fail (.unresolvedAt (← nameOf s.cube) (← view name) (← view coordinate) kind)

/-- Asks a cube for its cell at a coordinate. -/
def askCube (ask : Ask) (cube coordinate output : Datum) : Eval Datum := do
  match cube with
  | .cube number => ask number coordinate output
  | other => fault (.noAttribute (← typeName other) "get_cell".toList)

/-- Merges a coordinate into the input. -/
def mergeInput (s : Surroundings) (coordinate : Datum) : Eval Unit := do
  match s.input, ← entriesOf? s.input with
  | .ref address, some _ => updateWith address coordinate
  | input, _ => fault (.noAttribute (← typeName input) "update".toList)

/-- The value of a cell of the named cube at exactly this coordinate. -/
def fixedCell (ask : Ask) (s : Surroundings) (name coordinate : Datum) : Eval Datum := do
  let cube ← findCube s name coordinate "fixed ($)".toList
  askCube ask cube coordinate s.output

/-- The value of a cell of the same cube at the input with the coordinate merged into it. -/
def relativeCell (ask : Ask) (s : Surroundings) (coordinate : Datum) : Eval Datum := do
  mergeInput s coordinate
  match s.cube with
  | .none =>
    fail (.unresolvedAt [] (.str "<current>".toList) (← view coordinate) "relative".toList)
  | cube => askCube ask cube s.input s.output

/-- The value of a cell of the named cube at the input with the coordinate merged into it. -/
def relativeCubeCell (ask : Ask) (s : Surroundings) (name coordinate : Datum) : Eval Datum := do
  mergeInput s coordinate
  let cube ← findCube s name coordinate "relative (@)".toList
  askCube ask cube s.input s.output

end FormulaCube.Run
