import FormulaCube.Run.Callback
import FormulaCube.Run.Machine

/-!
# Playing playbooks

* `compilePlaybook` — what happens when a module is handed to a back end with playbooks.
* `perform` — one action. Its arguments are fresh objects each time.
* `playMethod` — a method: its actions in order, and a list of their results.
* `invokePlaybook` — the attribute that a cell is asked for, called without arguments.
-/

namespace FormulaCube.Run

open Eval

/-! ## Compiling -/

/-- The cell that playbooks know by a name. -/
def cellNamed (name : Text) : Eval Nat := do
  match (← get).cellNames.lookup name with
  | some number => return number
  | none => fault (.missingKey (Text.quoted name))

/-- Notes the state of a cell. -/
def note (name : Text) : Eval Unit := do
  let state ← currentState (← cellNamed name)
  modify fun w => { w with seen := state :: w.seen }

/-- The artifact that a playbook makes of a module, after what happens meanwhile. -/
def stage (p : Playbook) (module : GeneratedModule) : Eval Artifact := do
  p.watch.forM note
  match p.edit with
  | some (name, source) => discard <| edit (← cellNamed name) source
  | none => pure ()
  match p.reject with
  | some (kind, argument) => fault (faultOf kind argument)
  | none => return ⟨module.className, module.text, .playbook p.methods⟩

/-- Hands a module to the back end with playbooks. -/
def compilePlaybook (module : GeneratedModule) : Eval (Except Failure Artifact) := do
  let p := choose (← get).playbooks module.text
  (stage p module).attempt

/-! ## Running -/

/-- One action: a list with its result, or an empty one. -/
def perform (ask : Ask) (s : Surroundings) : Action → Eval (List Datum)
  | .fixed cube coordinate => do
    let name ← load cube
    return [← fixedCell ask s name (← load coordinate)]
  | .relative coordinate => do return [← relativeCell ask s (← load coordinate)]
  | .relativeCube cube coordinate => do
    let name ← load cube
    return [← relativeCubeCell ask s name (← load coordinate)]
  | .value v => do return [← load v]
  | .input key => do return [← itemAt s.input (← load key)]
  | .fixedInput cube => do return [← fixedCell ask s (← load cube) s.input]
  | .setInput key value => do
    let key ← load key
    setItem s.input key (← load value)
    return []
  | .setOutput key value => do
    let key ← load key
    setItem s.output key (← load value)
    return []
  | .stack => do return [← add (.list (← members s.stack))]
  | .cubeName => do return [.word (← nameOf s.cube)]
  | .raise kind argument => fault (faultOf kind argument)

/-- The results of actions, one after the other. -/
def performAll (ask : Ask) (s : Surroundings) : List Action → Eval (List Datum)
  | [] => return []
  | action :: actions => do
    let first ← perform ask s action
    return first ++ (← performAll ask s actions)

/-- A method: its actions in order, and a list of their results. -/
def playMethod (ask : Ask) (s : Surroundings) (actions : List Action) : Eval Datum := do
  add (.list (← performAll ask s actions))

/-- An attribute that is no method of a playbook, called without arguments. -/
def callAttribute (ask : Ask) (s : Surroundings) (className name : Text) : Eval Datum := do
  match Callback.ofLabel? name with
  | some c => c.call ask s .none [] []
  | none =>
    if name = "cube_name".toList then fault (.notCallable "str".toList)
    else fault (.noAttribute className name)

/-- The attribute of a cell that is asked for, called without arguments. The surroundings come before
the methods of the playbook, and those before what every cell has. -/
def invokePlaybook (ask : Ask) (s : Surroundings) (className : Text)
    (methods : List (Text × List Action)) (method : Datum) : Eval Datum := do
  match method with
  | .str name _ =>
    match s.attributes.lookup name, methods.lookup name with
    | some d, _ => fault (.notCallable (← typeName d))
    | none, some actions => playMethod ask s actions
    | none, none => callAttribute ask s className name
  | other => fault (.attributeName (← typeName other))

end FormulaCube.Run
