import FormulaCube.Cell.Module
import FormulaCube.World.Event

/-!
# One compilation

* `Job` — what is compiled, and for which cell.
* `Job.run` — generates the module and hands it to a back end, with a report before and after. A source
  from which no module can be generated is not reported.
-/

namespace FormulaCube

/-- What is compiled, and for which cell. -/
structure Job where
  /-- The settings of the compiler. -/
  settings : Settings
  /-- The forms of shortcuts that are expanded. -/
  rules : List Rule
  /-- How the source is read. -/
  kind : CellKind
  /-- The name of the cube. -/
  cube : Text
  /-- The place of the cell in the cube. -/
  coordinate : Text
  /-- The number of the compilation. -/
  number : Text
  /-- The number of the version. -/
  version : Nat
  /-- The source of that version. -/
  source : Text

namespace Job

/-- The module that is generated. -/
def module (job : Job) : Except Failure GeneratedModule :=
  generate job.settings job.rules job.kind job.cube job.number job.source

/-- A report about the cell. -/
def event (job : Job) (name : String) (level : LogLevel) (more : List (Text × Value)) : Event :=
  ⟨name.toList, level,
    ("cube".toList, .str job.cube) :: ("coordinate".toList, .str job.coordinate) :: more⟩

/-- The report that a module was generated. -/
def started (job : Job) (m : GeneratedModule) : Event :=
  job.event "cell_compile_started" .debug
    [("class_name".toList, .str m.className), ("version".toList, .int job.version)]

/-- The report that a module was compiled. -/
def compiled (job : Job) (m : GeneratedModule) : Event :=
  job.event "cell_compiled" .info
    [("class_name".toList, .str m.className), ("version".toList, .int job.version)]

/-- The words of a failure in a report, if it can be put in words. -/
def failureWords : Failure → Except Fault Text
  | .fault .syntaxError => .ok Fault.syntaxError.kind
  | f => f.words

/-- The report that a module could not be compiled, with the words of the failure. -/
def failed (job : Job) (words : Text) : Event :=
  job.event "cell_compile_failed" .warning
    [("error".toList, .str words), ("source".toList, .str (job.settings.quote job.source))]

/-- What comes after the module was generated: the back end's result, with a report of it. A failure that
cannot be put in words is not reported, and the fault of the attempt comes in its place. -/
def finish {m : Type → Type} [Monad m] {α : Type} (emit : Event → m Unit) (job : Job)
    (module : GeneratedModule) (result : Except Failure α) : m (Except Failure α) := do
  match result with
  | .error f =>
    match failureWords f with
    | .ok words =>
      emit (job.failed words)
      return .error f
    | .error reason => return .error (.fault reason)
  | .ok artifact =>
    emit (job.compiled module)
    return .ok artifact

/-- Generates the module and hands it to the back end. -/
def run {m : Type → Type} [Monad m] {α : Type} (emit : Event → m Unit)
    (backEnd : GeneratedModule → m (Except Failure α)) (job : Job) : m (Except Failure α) := do
  match job.module with
  | .error f => return .error f
  | .ok module =>
    emit (job.started module)
    job.finish emit module (← backEnd module)

end Job

end FormulaCube
