import FormulaCube.Code.WellFormed
import FormulaCube.Run.Execution
import FormulaCube.Run.Playing

/-!
# Loading modules

A module is compiled, its text is remembered, its code is run, and the class that it is to define is
looked up. Only the texts of the modules compiled last are kept.

* `SourceCache.remember` — the texts with one more.
* `runModule` — the code of a module is run. It has no access to the remembered texts.
* `loadModule` — the artifact of a module.
* `invokeClass` — a fresh object of the class of a cell, asked for one of its attributes.
* `machine` — both back ends.
-/

namespace FormulaCube

namespace SourceCache

/-- The name of the file that a module seems to come from. -/
def fileName (className : Text) : Text := "<cell ".toList ++ className ++ ['>']

/-- Takes the oldest names out until no more than the limit are left. If even none are too many, that
is a fault. -/
def trimmed (limit : Int) (files : Directory (Nat × List Text)) :
    List Text → SourceCache × Option Fault
  | [] =>
    (⟨files, [], limit⟩,
      if limit < 0 then some (.rangeWords "pop from an empty deque".toList) else none)
  | name :: queue =>
    if limit < ((name :: queue).length : Int) then trimmed limit (files.erase name) queue
    else (⟨files, name :: queue, limit⟩, none)

/-- The texts with that of one more module. A name that is there already keeps its place among them
but is entered once more. -/
def remember (cache : SourceCache) (name text : Text) : SourceCache × Option Fault :=
  trimmed cache.limit (cache.files.insert name (text.length, Text.linesWithEndings text))
    (cache.queue ++ [name])

end SourceCache

namespace Run

open Eval Code

/-- Remembers the text of a module. -/
def rememberSource (name text : Text) : Eval Unit := do
  let w ← get
  let (cache, f) := w.sources.remember name text
  set { w with sources := cache }
  match f with
  | some f => fault f
  | none => return

/-- The variables with which a module begins. -/
def initialVariables (w : World) (className : Text) : List (Text × Option Datum) :=
  let own : Directory Datum :=
    [("__builtins__".toList, .plain "dict".toList (Datum.plainText "dict".toList)),
      ("__name__".toList, .word ("cubecell.generated.".toList ++ className)),
      (baseName, .type baseName)]
  (w.surroundings.foldl (fun table entry => table.insert entry.1 entry.2) own).map fun entry =>
    (entry.1, some entry.2)

/-- The class that a module defines, if its cells can be run. -/
def definedClass (own : Nat) (className : Text) : Eval Datum := do
  let found := ((← variableAt own className).join).getD .none
  if (← isType found) && (← isKindOf found (.type baseName)) then return found
  else
    fault (.typeMisuse ("generated source does not define ".toList ++ className ++
      "(ExecutionShim)".toList))

/-- Runs something that has no access to the remembered texts. -/
def withoutSources {α : Type} (x : Eval α) : Eval α := fun w =>
  let (result, after) := x w
  (result, { after with sources := w.sources })

/-- Runs the code of a module and looks up the class that it is to define. -/
def runModule (ask : Ask) (module : GeneratedModule) (program : List Stmt) : Eval Artifact :=
  withoutSources do
    match ← add (.variables (initialVariables (← get) module.className)) with
    | .ref own =>
      let scope := Scope.ofModule own (← fresh)
      let r := runner ask codeDepth
      discard <| withWords r.call (r.block scope program)
      let type ← definedClass own module.className
      return ⟨type.className (← get).memory, module.text, .code type⟩
    | _ => fault .syntaxError

/-- The artifact of a module. -/
def loadModule (ask : Ask) (module : GeneratedModule) : Eval Artifact := do
  if module.text.contains '\x00' then fault .nullCharacter
  match compilable? module.text with
  | none => fault .syntaxError
  | some program =>
    rememberSource (SourceCache.fileName module.className) module.text
    runModule ask module program

/-- What a class is made an object of from: the surroundings of the cell. -/
def bindingsOf (s : Surroundings) : Eval Datum :=
  addWith s.attributes (.instance (.type "Bindings".toList) .none)

/-- A fresh object of the class of a cell. The class may say itself how it is made. -/
def objectFor (r : Runner) (type : Datum) (s : Surroundings) : Eval Datum := do
  match ← inheritedMember? type "from_bindings".toList with
  | some (.member ..) => construct r.call type [] s.attributes
  | some member => r.call (← memberOfClass type member) [← bindingsOf s] []
  | none => noTypeAttribute (type.className (← get).memory) "from_bindings".toList

/-- A fresh object of the class of a cell, asked for one of its attributes, which is called. -/
def invokeClass (ask : Ask) (type : Datum) (s : Surroundings) (method : Datum) : Eval Datum := do
  let r := runner ask codeDepth
  withWords r.call do
    let self ← objectFor r type s
    r.call (← attributeOf r.call self (← attributeNameOf method)) [] []

/-- Both back ends: playbooks are played, and classes are run. A module that is being loaded reaches no
cubes, because it is given none. -/
def machine : Machine where
  compile backEnd module :=
    match backEnd with
    | .playbooks => compilePlaybook module
    | .interpreter => (loadModule (fun _ _ _ => fault .tooDeep) module).attempt
  invoke ask artifact s method :=
    match artifact.program with
    | .playbook methods => invokePlaybook ask s artifact.className methods method
    | .code type => invokeClass ask type s method

end Run

end FormulaCube
