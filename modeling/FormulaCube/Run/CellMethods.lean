import FormulaCube.Run.Giving

/-!
# What every cell has

* `callCallback` — a call of a method that every cell has, for a cell.
-/

namespace FormulaCube.Run

open Eval

/-- An attribute of a cell, called. -/
def callAttributeOf (call : Caller) (d : Datum) (name : String) (ds : List Datum) : Eval Datum := do
  call (← attributeOf call d name.toList) ds []

/-- The cube that a name stands for, as the registry of a cell says. -/
def findTarget (call : Caller) (self name coordinate kind : Datum) : Eval Datum := do
  let target ← match ← attributeOf call self "registry".toList with
    | .none => pure Datum.none
    | known => callAttributeOf call known "get_cube" [name]
  match target with
  | .none =>
    let owner ← textOf call (← attributeOf call self "cube_name".toList)
    fail (.unresolvedAt owner (← view name) (← view coordinate) (← textOf call kind))
  | target => return target

/-- Asks a cube for its cell at a coordinate, with the output of a cell. -/
def askTarget (call : Caller) (self target coordinate : Datum) : Eval Datum := do
  let get ← attributeOf call target "get_cell".toList
  call get [coordinate, ← attributeOf call self "output".toList] []

/-- Merges a coordinate into the input of a cell. -/
def mergeInto (call : Caller) (self coordinate : Datum) : Eval Unit := do
  discard <| callAttributeOf call (← attributeOf call self "input".toList) "update" [coordinate]

/-- A call for a cell, whose class may say itself how cubes are found and asked. -/
def performFor (call : Caller) (c : Callback) (self : Datum) (argument : String → Datum) :
    Eval Datum := do
  let find (kind : String) : Eval Datum :=
    callAttributeOf call self "_find_cube" [argument "name", argument "coord", .word kind.toList]
  match c with
  | .fixed => askTarget call self (← find "fixed ($)") (argument "coord")
  | .relative =>
    mergeInto call self (argument "coord")
    match ← attributeOf call self "cube".toList with
    | .none =>
      fail (.unresolvedAt [] (.str "<current>".toList) (← view (argument "coord")) "relative".toList)
    | cube =>
      let get ← attributeOf call cube "get_cell".toList
      let input ← attributeOf call self "input".toList
      call get [input, ← attributeOf call self "output".toList] []
  | .relativeCube =>
    mergeInto call self (argument "coord")
    let target ← find "relative (@)"
    let get ← attributeOf call target "get_cell".toList
    let input ← attributeOf call self "input".toList
    call get [input, ← attributeOf call self "output".toList] []
  | .find => findTarget call self (argument "name") (argument "coord") (argument "kind")
  | .create =>
    let bindings := argument "bindings"
    let given ← ["input", "output", "stack", "cube", "registry"].mapM fun name => do
      return (name.toList, ← attributeOf call bindings name.toList)
    call self [] given
  | .run => fault Callback.withoutRun
  | .setUp => return .none

/-- Gives a cell its surroundings, in the order in which they are named. -/
def setUpCell (call : Caller) (self : Datum) (argument : Text → Datum) : Eval Unit :=
  Callback.setUp.parameters.forM fun name => setAttribute call self name (argument name)

/-- A method that every cell has, called for a cell. -/
def callCallback (call : Caller) (c : Callback) (ds : List Datum) (named : List (Text × Datum)) :
    Eval Datum := do
  let received ← ofExcept (c.signature.receive ds named)
  let given (name : String) : Option Datum := received.values.lookup name.toList
  let self := ((given "self").orElse fun _ => given "cls").getD .none
  match c with
  | .setUp =>
    setUpCell call self fun name => (received.values.lookup name).getD .none
    return .none
  | c => performFor call c self fun name => (given name).getD .none

end FormulaCube.Run
