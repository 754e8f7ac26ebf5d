import FormulaCube.Run.Collections

/-!
# The cells of a cube

* `coordinateKey` — the coordinate by which a table is searched.
* `setCell`, `removeCell`, `findCell` — the cells of a cube by their coordinates.
-/

namespace FormulaCube.Run

open Eval

/-- The keys of axes and values, one after the other. -/
def pairKeys : List (Datum × Datum) → Eval CoordinateKey
  | [] => return []
  | (axis, value) :: pairs => do
    let axisKey ← keyOf axis
    let valueKey ← keyOf value
    return (axisKey, valueKey) :: (← pairKeys pairs)

/-- The entries of a coordinate in the order of their axes. -/
def sortedAxes (coordinate : Datum) : Eval (List (Datum × Datum)) := do
  match ← entriesOf? coordinate with
  | none => fault (.noAttribute (← typeName coordinate) "items".toList)
  | some entries =>
    let w ← get
    let sorted ← ofExcept (sortEntries (entries.map fun entry =>
      (w.view entry.2.1, (entry.2.1, entry.2.2))))
    return sorted.map (·.2)

/-- The coordinate by which a table is searched, and how it is shown. -/
def coordinateKey (coordinate : Datum) : Eval (CoordinateKey × List (Datum × Datum)) := do
  let pairs ← sortedAxes coordinate
  return (← pairKeys pairs, pairs)

/-- The cube of a number. -/
def cubeRecord (number : Nat) : Eval CubeRecord := do
  match (← get).cubes[number]? with
  | some cube => return cube
  | none => fault (.typeMisuse "no cube".toList)

/-- Changes the cube of a number. -/
def changeCube (number : Nat) (f : CubeRecord → CubeRecord) : Eval Unit :=
  modify fun w => { w with cubes := w.cubes.modify number f }

/-- The cell of a number. -/
def cellRecord (number : Nat) : Eval CellRecord := do
  match (← get).cells[number]? with
  | some cell => return cell
  | none => fault (.typeMisuse "no cell".toList)

/-- Changes the cell of a number. -/
def changeCell (number : Nat) (f : CellRecord → CellRecord) : Eval Unit :=
  modify fun w => { w with cells := w.cells.modify number f }

/-- A copy of the entries of a coordinate. -/
def coordinateCopy (coordinate : Datum) : Eval (Entries Datum Datum) := do
  return (← entriesOf? (← copyOfEntries coordinate)).getD []

/-- Makes a cell one of a cube, at a coordinate. -/
def adopt (cube : Nat) (coordinate : Datum) (cell : Nat) : Eval Unit := do
  let name := (← cubeRecord cube).name.getD []
  changeCell cell ({ · with cube := name })
  let copy ← coordinateCopy coordinate
  changeCell cell ({ · with coordinate := copy })

/-- Keeps something at a coordinate of a cube. A cell takes the name of the cube and the coordinate
first, whether or not the coordinate can be used. -/
def setCell (cube : Nat) (coordinate value : Datum) : Eval Unit := do
  match value with
  | .cell number => adopt cube coordinate number
  | _ => pure ()
  let (key, shown) ← coordinateKey coordinate
  changeCube cube fun c => { c with table := c.table.insert key shown value }

/-- Takes what is kept at a coordinate out of a cube. In a cube without cells the values of the
coordinate are not even looked at. -/
def removeCell (cube : Nat) (coordinate : Datum) : Eval Datum := do
  let pairs ← sortedAxes coordinate
  let table := (← cubeRecord cube).table
  if table.isEmpty then return .none
  let key ← pairKeys pairs
  match table.find? key with
  | some value =>
    changeCube cube fun c => { c with table := c.table.erase key }
    return value
  | none => return .none

/-- Whether a coordinate has these values on these axes. -/
def agrees (coordinate : Datum) : List (Datum × Datum) → Eval Bool
  | [] => return true
  | (axis, value) :: pairs => do
    if ← contains coordinate axis then
      if ← same (← itemAt coordinate axis) value then agrees coordinate pairs
      else return false
    else return false

/-- What is kept at the coordinate that matches best; the default of the cube if none matches. -/
def findCell (cube : Nat) (coordinate : Datum) : Eval Datum := do
  let record ← cubeRecord cube
  match ← record.table.best fun slot => agrees coordinate slot.shown with
  | some value => return value
  | none =>
    match record.default with
    | some value => return value
    | none => fail (.notFoundAt (record.name.getD []) (← view coordinate))

end FormulaCube.Run
