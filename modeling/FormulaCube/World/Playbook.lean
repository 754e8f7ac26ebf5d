import FormulaCube.Cell.Module
import FormulaCube.Value.Basic

/-!
# Playbooks

A playbook stands in for the code of a cell: it says what each method does, action by action. A back
end that is given playbooks chooses one by what occurs in the generated module.

* `Action` — what a method does.
* `Playbook` — what happens when a module is compiled, and the methods that come of it.
* `choose` — the playbook for a module.
-/

namespace FormulaCube

/-- What a method does; those with a result add it to the results of the method. -/
inductive Action where
  /-- The value of a cell of a named cube at a coordinate. -/
  | fixed (cube coordinate : Value)
  /-- The value of a cell of the same cube at the input overlaid with a coordinate. -/
  | relative (coordinate : Value)
  /-- The value of a cell of a named cube at the input overlaid with a coordinate. -/
  | relativeCube (cube coordinate : Value)
  /-- A value. -/
  | value (v : Value)
  /-- An entry of the input. -/
  | input (key : Value)
  /-- The value of a cell of a named cube at the input. -/
  | fixedInput (cube : Value)
  /-- An entry of the input is set. -/
  | setInput (key value : Value)
  /-- An entry of the output is set. -/
  | setOutput (key value : Value)
  /-- A copy of the stack. -/
  | stack
  /-- The name of the cube. -/
  | cubeName
  /-- A fault of the given kind, perhaps with an argument. -/
  | raise (kind : Text) (argument : Option Value)
  deriving Repr

/-- What happens when a module is compiled, and the methods that come of it. -/
structure Playbook where
  /-- What has to occur in the module. -/
  occurs : Text
  /-- A cell whose state is noted. -/
  watch : Option Text
  /-- A cell that is edited in the middle, and its new source. -/
  edit : Option (Text × Text)
  /-- The kind of fault with which the module is rejected, perhaps with an argument. -/
  reject : Option (Text × Option Value)
  /-- The methods by their names. -/
  methods : List (Text × List Action)
  deriving Repr

/-- The playbook for modules in which nothing occurs: a run without results. -/
def Playbook.plain : Playbook := ⟨[], none, none, none, [("run".toList, [])]⟩

/-- The first playbook whose text occurs in the module. -/
def choose (playbooks : List Playbook) (module : Text) : Playbook :=
  (playbooks.find? fun p => p.occurs.occursIn module).getD .plain

/-- The kinds of faults that stand for improper sources. -/
def sourceFaultKinds : List String := ["SyntaxError", "IndentationError", "TabError"]

/-- The text of an argument of a fault. The argument of a missing key is shown as it would be written; a
text stands for itself otherwise. Without an argument there are no words, but a fault of a source says that
it has none. -/
def argumentText (kind : Text) (argument : Option Value) : Except Fault Text :=
  match argument with
  | none => .ok (if sourceFaultKinds.contains (String.ofList kind) then "None".toList else [])
  | some value => if kind = "KeyError".toList then value.written else value.displayed

/-- The fault of a kind with an argument. -/
def faultOf (kind : Text) (argument : Option Value) : Fault :=
  match argumentText kind argument with
  | .error reason => .wordless kind reason
  | .ok words =>
    if sourceFaultKinds.contains (String.ofList kind) then .raisedSyntax kind words
    else .raised kind words

end FormulaCube
