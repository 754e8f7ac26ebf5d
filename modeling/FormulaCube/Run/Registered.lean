import FormulaCube.Run.Cubes
import FormulaCube.Source.References

/-!
# Changing the registry

* `register`, `unregister`, `clearRegistry` — the changes, with what is reported of them.
* `listed` — the cubes of the registry, perhaps only some.
* `cubeReferences` — the cubes that the cells of a cube refer to.
-/

namespace FormulaCube.Run

open Eval

/-- Changes the registry; what had the name before is answered. -/
def change (c : Change Nat) : Eval (Option Nat) := do
  let w ← get
  set { w with directory := c.apply w.directory }
  return c.found? w.directory

/-- Enters a cube under a name. -/
def register (name : Text) (cube : Nat) : Eval Unit := do
  let replaced ← change (.register name cube)
  report ⟨"cube_registered".toList, .info,
    [("cube".toList, .str name), ("replaced".toList, .bool replaced.isSome)]⟩

/-- Takes a name out. -/
def unregister (name : Text) : Eval Datum := do
  match ← change (.remove name) with
  | some cube =>
    report ⟨"cube_removed".toList, .info, [("cube".toList, .str name)]⟩
    return .cube cube
  | none => return .none

/-- The cubes that the cells of a cube refer to. -/
def cubeReferences (w : World) (number : Nat) : List Text :=
  match w.cubes[number]? with
  | some cube =>
    Text.sorted (cube.table.flatMap fun slot =>
      match slot.value with
      | .cell cell => ((w.currentVersion? cell).map fun v => references v.source).getD []
      | _ => []).eraseDups
  | none => []

/-- Takes all names out. -/
def clearRegistry : Eval Unit := do
  let _ ← change .clear

/-- The registered cubes whose names begin with a text. -/
def listed (w : World) (lead : Option Text) : Directory Nat :=
  w.directory.filter fun entry => (lead.getD []).isPrefixOf entry.1

end FormulaCube.Run
