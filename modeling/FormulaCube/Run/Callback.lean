import FormulaCube.Run.Arguments
import FormulaCube.Run.Reach

/-!
# What every cell has

The class of a cell extends one that brings its surroundings as attributes and the calls that reach
other cells as methods.

* `Callback` — the methods.
* `Callback.call` — a call of one.
* `Surroundings.attributes` — the surroundings as attributes.
-/

namespace FormulaCube.Run

open Eval

/-- The name of the class that the classes of cells extend. -/
def baseName : Text := "ExecutionShim".toList

/-- A method that every cell has. -/
inductive Callback where
  | fixed | relative | relativeCube | run | find | setUp | create
  deriving DecidableEq, Repr

namespace Callback

/-- All of them. -/
def all : List Callback := [.fixed, .relative, .relativeCube, .run, .find, .setUp, .create]

/-- The name by which cells call it. -/
def label : Callback → Text
  | .fixed => "get_fixed_cell".toList
  | .relative => "get_relative_cell".toList
  | .relativeCube => "get_relative_cube_cell".toList
  | .run => "run".toList
  | .find => "_find_cube".toList
  | .setUp => "__init__".toList
  | .create => "from_bindings".toList

/-- The method of a name. -/
def ofLabel? (name : Text) : Option Callback := all.find? fun c => c.label = name

/-- The names of its parameters, after the cell itself. -/
def parameters : Callback → List Text
  | .fixed | .relativeCube => ["name".toList, "coord".toList]
  | .relative => ["coord".toList]
  | .run => []
  | .find => ["name".toList, "coord".toList, "kind".toList]
  | .setUp =>
    ["input".toList, "output".toList, "stack".toList, "cube".toList, "registry".toList]
  | .create => ["bindings".toList]

/-- Its parameters. -/
def signature (c : Callback) : Signature :=
  ⟨baseName ++ '.' :: c.label,
    (.plain, (if c = .create then "cls" else "self").toList) ::
      c.parameters.map fun name => (.plain, name), []⟩

/-- The fault of a cell that does not say what it computes. -/
def withoutRun : Fault := .notImplemented "generated cell classes override run()".toList

/-- A call with arguments that fit, for the cell `self`. -/
def perform (c : Callback) (ask : Ask) (s : Surroundings) (values : List (Text × Datum)) :
    Eval Datum := do
  let argument (name : String) : Datum := (values.lookup name.toList).getD .none
  match c with
  | .fixed => fixedCell ask s (argument "name") (argument "coord")
  | .relative => relativeCell ask s (argument "coord")
  | .relativeCube => relativeCubeCell ask s (argument "name") (argument "coord")
  | .run => fault withoutRun
  | .find =>
    findCube s (argument "name") (argument "coord") (← view (argument "kind")).display
  | .setUp => return .none
  | .create =>
    fault (.noAttribute (← typeName (argument "bindings")) "input".toList)

/-- A call for the cell `self`. -/
def call (c : Callback) (ask : Ask) (s : Surroundings) (self : Datum) (positional : List Datum)
    (named : List (Text × Datum)) : Eval Datum := do
  let received ← ofExcept (c.signature.receive (self :: positional) named)
  c.perform ask s received.values

end Callback

/-- The surroundings as attributes with their names. -/
def Surroundings.attributes (s : Surroundings) : List (Text × Datum) :=
  [("input".toList, s.input), ("output".toList, s.output), ("stack".toList, s.stack),
    ("cube".toList, s.cube), ("registry".toList, s.registry)]

end FormulaCube.Run
