import FormulaCube.Proofs.Nesting.Script

/-!
# The moments of an evaluation

When a cube is asked, the code of a cell may run, and while it does so the code of others. The moments
of the evaluation are those at which one of them is about to be compiled, to start, to change
something, to refer to another cell, or to end.

* `Level` — a cell that is being evaluated.
* `Moment` — a moment: which cells are being evaluated, what the innermost sees and does, in which
  world.
* `moments` — all moments of an evaluation, in order.
* `execute_eq` — running a cell, step by step; `answer_world` — the world after an evaluation.
-/

namespace FormulaCube

open Run Eval

/-- A cell that is being evaluated: the name of its cube, and its input as it was when that began. -/
structure Level where
  /-- The name. -/
  cube : Text
  /-- The input. -/
  input : Entries Datum Datum

/-- What is about to happen. -/
inductive Act where
  /-- A back end compiles a source, and changes the world to this one. -/
  | compile (after : World)
  /-- Code changes the world to this one. -/
  | change (after : World)
  /-- A method of an artifact starts. -/
  | start (artifact : Artifact) (method : Datum)
  /-- Code refers to another cell. -/
  | call (reference : Reference) (coordinate : Datum)
  /-- Code ends. -/
  | done

/-- A moment while code runs. -/
structure Moment where
  /-- The cells that are being evaluated, the outermost first. -/
  levels : List Level
  /-- Whether the innermost was reached from the outermost by relative references only. -/
  isDirect : Bool
  /-- What the innermost sees. -/
  surroundings : Surroundings
  /-- The world. -/
  world : World
  /-- What is about to happen. -/
  act : Act

/-- The code that starts is that of the artifact, whichever cells it refers to. -/
def Moment.Runs (machine : Machine) (codes : Codes) (moment : Moment) : Prop :=
  match moment.act with
  | .start artifact method => ∀ ask, machine.invoke ask artifact moment.surroundings method =
      (codes artifact moment.surroundings method).run ask moment.surroundings
  | _ => True

/-- The moments of the evaluation of one cube within that of others, by whether the cube was reached
by relative references only. -/
abbrev Below := (isDirect : Bool) → (cube : Nat) → (coordinate output : Datum) → World → List Moment

/-- The moments while a reference is resolved and its target is asked. -/
def Reference.moments (below : Below) (isDirect : Bool) (s : Surroundings) (coordinate : Datum)
    (r : Reference) (w : World) : List Moment :=
  match r.resolve s coordinate w with
  | (.ok (.cube number, target), w) =>
    below (isDirect && r.isRelative) number target s.output w
  | _ => []

/-- The moments while code runs. -/
def Script.moments {α : Type} (ask : Ask) (below : Below) (levels : List Level) (isDirect : Bool)
    (s : Surroundings) : Script α → World → List Moment
  | .done _, w => [⟨levels, isDirect, s, w, .done⟩]
  | .look next, w => (next w).moments ask below levels isDirect s w
  | .change f next, w =>
    ⟨levels, isDirect, s, w, .change (f w)⟩ :: next.moments ask below levels isDirect s (f w)
  | .call r coordinate next, w =>
    ⟨levels, isDirect, s, w, .call r coordinate⟩ ::
      (r.moments below isDirect s coordinate w ++
        (next (r.perform ask s coordinate w).1).moments ask below levels isDirect s
          (r.perform ask s coordinate w).2)

/-- What has to be there before the code of a cell runs: its artifact, and the method. -/
def prepare (machine : Machine) (entered : Entered) : Eval (Artifact × Datum) := do
  let artifact ← artifactOf machine entered.compiler entered.cell
  return (artifact, ← methodOf entered.cell entered.surroundings)

/-- The level of a cell of a cube that is about to run. -/
def Entered.level (entered : Entered) (cube : Nat) (w : World) : Level :=
  ⟨((w.cubes[cube]?).bind (·.name)).getD [],
    (w.memory.entries? entered.surroundings.input).getD []⟩

/-- The moment at which the source of a cell is compiled, if it is. -/
def Entered.compiling (machine : Machine) (levels : List Level) (isDirect : Bool)
    (entered : Entered) (w : World) : List Moment :=
  match compilation? machine entered.compiler entered.cell w with
  | some (w, after) => [⟨levels, isDirect, entered.surroundings, w, .compile after⟩]
  | none => []

/-- The moments from the start of the code of a cell, if there is any. -/
def Entered.running (machine : Machine) (codes : Codes) (ask : Ask) (below : Below)
    (levels : List Level) (isDirect : Bool) (entered : Entered) (w : World) : List Moment :=
  match prepare machine entered w with
  | (.ok (artifact, method), w) =>
    ⟨levels, isDirect, entered.surroundings, w, .start artifact method⟩ ::
      (codes artifact entered.surroundings method).moments ask below levels isDirect
        entered.surroundings w
  | _ => []

/-- **The moments of an evaluation.** -/
def moments (machine : Machine) (codes : Codes) : (depth : Nat) → List Level → Below
  | 0, _, _, _, _, _, _ => []
  | depth + 1, levels, isDirect, cube, coordinate, output, w =>
    match enter cube coordinate output w with
    | (.ok (.inr entered), w) =>
      let levels := levels ++ [entered.level cube w]
      entered.compiling machine levels isDirect w ++
        entered.running machine codes (answer machine depth) (moments machine codes depth levels)
          levels isDirect w
    | _ => []

/-! ## The world after an evaluation -/

/-- The world after a reference: after its target was resolved and, if it is a cube, asked. -/
lemma Reference.perform_world (ask : Ask) (s : Surroundings) (coordinate : Datum) (r : Reference)
    (w : World) : (r.perform ask s coordinate w).2 =
      match r.resolve s coordinate w with
      | (.ok (.cube number, target), w) => (ask number target s.output w).2
      | (_, w) => w := by
  rw [r.perform_eq]
  rcases hrun : r.resolve s coordinate w with ⟨result, w'⟩
  cases result with
  | ok target =>
      rw [bind_of_ok hrun]
      obtain ⟨cube, target⟩ := target
      cases cube <;> rfl
  | error e => rw [bind_of_error hrun]

/-- What becomes of the code of a cell: failures that are not about cells name it. -/
def wordFailure (cell : Nat) : Except Failure Datum → Eval Datum
  | .ok value => pure value
  | .error f =>
    if f.isAboutCells then fail f
    else do
      let record ← cellRecord cell
      fail (.invocationOf record.cube ((← get).viewCoordinate record.coordinate) f)

/-- Wording a failure reads the cell and changes nothing. -/
lemma wordFailure_preserves {I : World → Prop} (cell : Nat) (outcome : Except Failure Datum) :
    Preserves I (wordFailure cell outcome) := by
  cases outcome with
  | ok value => exact .pure value
  | error f =>
      rw [wordFailure]
      split
      · exact .fail f
      · exact .bind (Tolerant.cellRecord cell) fun _ => .bind .get fun _ => .fail _

/-- A cell runs after what comes before its code, and what becomes of the code is worded. -/
lemma execute_eq (machine : Machine) (ask : Ask) (entered : Entered) :
    execute machine ask entered.compiler entered.cell entered.surroundings =
      prepare machine entered >>= fun found =>
        (machine.invoke ask found.1 entered.surroundings found.2).attempt >>=
          wordFailure entered.cell := by
  simp only [execute, prepare, bind_assoc, pure_bind]
  refine bind_congr fun artifact => bind_congr fun method => bind_congr fun outcome => ?_
  cases outcome <;> rfl

lemma execute_world (machine : Machine) (ask : Ask) (entered : Entered) (w : World) :
    (execute machine ask entered.compiler entered.cell entered.surroundings w).2 =
      match prepare machine entered w with
      | (.ok (artifact, method), w) =>
        (machine.invoke ask artifact entered.surroundings method w).2
      | (_, w) => w := by
  rw [execute_eq]
  rcases hprepare : prepare machine entered w with ⟨result, w₁⟩
  cases result with
  | error e => rw [bind_of_error hprepare]
  | ok found =>
      rw [bind_of_ok hprepare]
      exact eq_of_preserves (wordFailure_preserves entered.cell _) rfl

theorem answer_world (machine : Machine) (depth cube : Nat) (coordinate output : Datum) (w : World) :
    (answer machine (depth + 1) cube coordinate output w).2 =
      match enter cube coordinate output w with
      | (.ok (.inr entered), w) =>
        popFrame (match prepare machine entered w with
          | (.ok (artifact, method), w) =>
            (machine.invoke (answer machine depth) artifact entered.surroundings method w).2
          | (_, w) => w)
      | (_, w) => w := by
  rw [answer, getCell_eq]
  rcases henter : enter cube coordinate output w with ⟨result, w₁⟩
  cases result with
  | error e => rw [bind_of_error henter]
  | ok found =>
      rw [bind_of_ok henter]
      cases found with
      | inl value => rfl
      | inr entered => exact congrArg popFrame (execute_world machine _ entered w₁)

/-- What holds of a level holds before its code starts, if the back end preserves it. -/
lemma prepare_preserves {I : World → Prop} (hI : Robust I) {machine : Machine} {entered : Entered}
    {w : World} (h : I w)
    (hcompile : ∀ w₁ after, compilation? machine entered.compiler entered.cell w =
      some (w₁, after) → I w₁ → I after) : I (prepare machine entered w).2 :=
  Preserves.bind_world (hI.artifactOf h hcompile) fun _ w' _ h' =>
    (Preserves.bind (Tolerant.methodOf _ _) fun _ => .pure _) w' h'

/-! ## Cubes with one cell each -/

/-- An empty stack, an empty dictionary, and registered cubes of these names: each has one cell, for
all coordinates, and its playbook consists of these actions. -/
def soloWorld (cells : List (Text × List Action)) : World :=
  { World.empty with
    memory := .ofObjects [.list [], .dict []]
    versions := (cells.map fun cell =>
      ⟨[], 1, some ⟨cell.1, [], .playbook [("run".toList, cell.2)]⟩, none, none, false⟩).toArray
    cells := (cells.zipIdx.map fun cell => ⟨cell.1.1, [], .expression, cell.2⟩).toArray
    cubes := (cells.zipIdx.map fun cell =>
      ⟨some cell.1.1, 0, true, none, [⟨[], [], .cell cell.2⟩]⟩).toArray
    directory := (cells.map (·.1)).zipIdx
    compilers := #[.fresh {} [] (.sequential 0) .playbooks] }

/-- A coordinate with one axis. -/
def axis (name : Text) (i : Int) : Value := .dict [(.str name, .int i)]

end FormulaCube
