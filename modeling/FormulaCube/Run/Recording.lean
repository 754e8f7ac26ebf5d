import FormulaCube.Run.Playing

/-!
# Recorded requests

A cell's requests can be tried without other cells: every cube then answers its default, and the
coordinates at which it was asked are recorded.

* `recordAnswer` — how such cubes are asked.
* `Request` — what a cell can ask.
* `respondAll` — the answers to several requests, with the input after each.
-/

namespace FormulaCube.Run

open Eval

/-- Records the coordinate at which a cube is asked, and answers its default. -/
def recordAnswer : Ask := fun cube coordinate _ => do
  let seen ← view coordinate
  modify fun w => { w with lookups := (cube, seen) :: w.lookups }
  return ((← cubeRecord cube).default).getD .none

/-- The coordinates at which a cube was asked, from the first to the last. -/
def lookupsOf (w : World) (cube : Nat) : List Value :=
  (w.lookups.reverse.filter fun lookup => lookup.1 == cube).map (·.2)

/-- What a cell can ask. -/
inductive Request where
  /-- The result of an action. -/
  | action (a : Action)
  /-- The value of a cell that does not say what it computes. -/
  | run

/-- The answer to a request. -/
def respond (s : Surroundings) : Request → Eval Value
  | .action a => do
    let results ← perform recordAnswer s a
    view (results.head?.getD .none)
  | .run => do view (← Callback.run.call recordAnswer s .none [] [])

/-- The answers to several requests, with the input after each. -/
def respondAll (s : Surroundings) : List Request → Eval (List (Except Failure Value × Value))
  | [] => return []
  | request :: requests => do
    let first ← (respond s request).attempt
    let input ← view s.input
    return (first, input) :: (← respondAll s requests)

/-- A cube that answers a value. -/
def recorded (name : Option Text) (value : Value) : Eval Nat := do
  let d ← load value
  let w ← get
  set { w with cubes := w.cubes.push ⟨name, 0, false, some d, []⟩ }
  return w.cubes.size

/-- The answers to the requests of a cell and the coordinates at which cubes were asked: first those of
the registry, in the order in which they were registered, then the cell's own. -/
def rehearse (input : Value) (own : Option (Option Text × Value))
    (registered : Option (List (Text × Value))) (requests : List Request) :
    Eval (List (Except Failure Value × Value) × List (List Value)) := do
  let input ← load input
  let entered ← (registered.getD []).mapM fun (name, value) => do
    let number ← recorded (some name) value
    modify fun w => { w with directory := (Change.register name number).apply w.directory }
    return number
  let cube ← own.mapM fun (name, value) => recorded name value
  let output ← add (.dict [])
  let s : Surroundings :=
    { input := input
      output := output
      stack := .ref (← get).stack
      cube := (cube.map Datum.cube).getD .none
      registry := if registered.isSome then .registry else .none }
  let answers ← respondAll s requests
  let w ← get
  return (answers, (entered ++ cube.toList).map (lookupsOf w))

end FormulaCube.Run
