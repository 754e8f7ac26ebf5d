import FormulaCube.Run.Loading

/-!
# Trying a module

* `tryModule` — a module loaded by itself, and perhaps one attribute of its class called.
-/

namespace FormulaCube.Run

open Eval

/-- A world without cells, whose modules find further names and of whose modules so many texts are
kept. -/
def surrounded (names : List (Text × Value)) (limit : Int) : World :=
  let (entries, memory) := names.foldl (fun (entries, m) (entry : Text × Value) =>
    let (d, m) := World.loadInto [] entry.2 m
    (entries ++ [(entry.1, d)], m)) (([] : List (Text × Datum)), World.empty.memory)
  { World.empty with memory := memory, surroundings := entries, sources := ⟨[], [], limit⟩ }

/-- A module loaded by itself. If a method is given, the value of that attribute of a fresh object,
which is called, is answered too. -/
def tryModule (module : GeneratedModule) (input : Value) (method : Option Value) :
    Eval (Artifact × Option Value) := do
  let nobody : Ask := fun _ _ _ => fault .tooDeep
  let artifact ← loadModule nobody module
  match method with
  | none => return (artifact, none)
  | some method =>
    let s : Surroundings :=
      { input := ← load input
        output := ← add (.dict [])
        stack := ← add (.list [])
        cube := .none
        registry := .none }
    let d ← machine.invoke nobody artifact s (← load method)
    return (artifact, some (← view d))

end FormulaCube.Run
