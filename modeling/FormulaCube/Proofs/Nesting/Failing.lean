import FormulaCube.Proofs.Outcome
import FormulaCube.Proofs.Nesting.Compiled
import FormulaCube.Proofs.Nesting.Playbook

/-!
# How failures come out

A failure is raised while a cube is looked up, while a source is compiled, by a reference to another cell
or by the code of a cell. Code that does not handle it passes it on, so it comes out of all cells that are
being evaluated.

**What is seen.** `Incident` is a compilation or a failure that is raised, `incidents` are those of an
evaluation in order, and `Evaluation` is a cube that is asked or a cell that is run.

**How a failure comes out.** `Raised.ComesOut` compares the failure of an evaluation with the one that was
raised first: it names the innermost cell whose code was running, once, unless it is about cells. That is so
where the failure can be put in words, `Raised.IsTold`; a fault of the attempt comes out otherwise.
`Reported` is what an evaluation shows of that and of compilations, and is put together step by step.

**Results.** `Evaluation.reported` holds of code that does not handle failures, and
`failures_come_out` is what follows for evaluations one after the other. `failures_come_out_wordless` is a
failure that comes out as the fault of the attempt to put it in words.
-/

namespace FormulaCube

open Run Eval

/-! ## What is seen -/

/-- A failure that is raised. -/
structure Raised where
  /-- The failure. -/
  cause : Failure
  /-- The innermost cell whose code is running, if there is one. -/
  running : Option Nat
  /-- The world in which the failure reaches that code. -/
  here : World

/-- What can be seen of an evaluation. -/
inductive Incident where
  /-- A back end compiles the source of a cell. -/
  | compiles (cell : Nat)
  /-- A failure is raised, or passed on by code that it reached. -/
  | fails (raised : Raised)

namespace Raised

/-- The failure as it is raised while the code of a cell is running. -/
def within (cell : Nat) (raised : Raised) : Raised :=
  { raised with running := some (raised.running.getD cell) }

/-- The failure as it is raised where a level was taken off the stack. -/
def left (raised : Raised) : Raised :=
  match raised.running with
  | some _ => raised
  | none => { raised with here := popFrame raised.here }

end Raised

namespace Incident

/-- The failure that is raised. -/
def raised? : Incident → Option Raised
  | .compiles _ => none
  | .fails raised => some raised

/-- An incident where failures are raised in another way. -/
def map (f : Raised → Raised) : Incident → Incident
  | .compiles cell => .compiles cell
  | .fails raised => .fails (f raised)

end Incident

/-- The failure with which something ends, if it does. -/
def endingIn {α : Type} (w : World) : Except Failure α → List Incident
  | .ok _ => []
  | .error f => [.fails ⟨f, none, w⟩]

/-- The incidents of the evaluation of one cube within that of others. -/
abbrev Beneath := (cube : Nat) → (coordinate output : Datum) → World → List Incident

/-- The incidents while a reference is resolved and its target is asked. -/
def Reference.incidents (ask : Ask) (beneath : Beneath) (s : Surroundings) (coordinate : Datum)
    (r : Reference) (w : World) : List Incident :=
  match r.resolve s coordinate w with
  | (.ok (.cube number, target), w) => beneath number target s.output w
  | _ => endingIn (r.perform ask s coordinate w).2 (r.perform ask s coordinate w).1

/-- The incidents while code runs. -/
def Script.incidents {α : Type} (ask : Ask) (beneath : Beneath) (s : Surroundings) :
    Script α → World → List Incident
  | .done result, w => endingIn w result
  | .look next, w => (next w).incidents ask beneath s w
  | .change f next, w => next.incidents ask beneath s (f w)
  | .call r coordinate next, w =>
    r.incidents ask beneath s coordinate w ++
      (next (r.perform ask s coordinate w).1).incidents ask beneath s
        (r.perform ask s coordinate w).2

/-- The compilation of the source of a cell, if it is handed to a back end. -/
def Entered.compilations (machine : Machine) (entered : Entered) (w : World) : List Incident :=
  match compilation? machine entered.compiler entered.cell w with
  | some _ => [.compiles entered.cell]
  | none => []

/-- The incidents from the start of the code of a cell, or the failure that comes before. -/
def Entered.consequences (machine : Machine) (codes : Codes) (ask : Ask) (beneath : Beneath)
    (entered : Entered) (w : World) : List Incident :=
  match prepare machine entered w with
  | (.ok (artifact, method), w) =>
    ((codes artifact entered.surroundings method).incidents ask beneath entered.surroundings w).map
      (·.map (·.within entered.cell))
  | (.error f, w) => [.fails ⟨f, none, w⟩]

/-- The incidents while a cell is run. -/
def Entered.incidents (machine : Machine) (codes : Codes) (ask : Ask) (beneath : Beneath)
    (entered : Entered) (w : World) : List Incident :=
  entered.compilations machine w ++ entered.consequences machine codes ask beneath w

/-- **The incidents of an evaluation.** -/
def incidents (machine : Machine) (codes : Codes) : (depth : Nat) → Beneath
  | 0, _, _, _, w => [.fails ⟨.fault .tooDeep, none, w⟩]
  | depth + 1, cube, coordinate, output, w =>
    match enter cube coordinate output w with
    | (.ok (.inl _), _) => []
    | (.ok (.inr entered), w) =>
      (entered.incidents machine codes (answer machine depth) (incidents machine codes depth) w).map
        (·.map (·.left))
    | (.error f, w) => [.fails ⟨f, none, w⟩]

/-- Something that is evaluated. -/
inductive Evaluation where
  /-- A cube is asked. -/
  | cube (number : Nat) (coordinate output : Datum)
  /-- A cell is run in its surroundings. -/
  | cell (entered : Entered)

namespace Evaluation

/-- What it comes to, with cells at most `depth` deep. -/
def run (machine : Machine) (depth : Nat) : Evaluation → Eval Datum
  | .cube number coordinate output => answer machine depth number coordinate output
  | .cell entered =>
    execute machine (answer machine depth) entered.compiler entered.cell entered.surroundings

/-- Its moments. -/
def moments (machine : Machine) (codes : Codes) (depth : Nat) : Evaluation → World → List Moment
  | .cube number coordinate output =>
    FormulaCube.moments machine codes depth [] true number coordinate output
  | .cell entered => fun w =>
    entered.compiling machine [] true w ++
      entered.running machine codes (answer machine depth) (FormulaCube.moments machine codes depth [])
        [] true w

/-- Its incidents. -/
def incidents (machine : Machine) (codes : Codes) (depth : Nat) :
    Evaluation → World → List Incident
  | .cube number coordinate output => FormulaCube.incidents machine codes depth number coordinate output
  | .cell entered =>
    entered.incidents machine codes (answer machine depth) (FormulaCube.incidents machine codes depth)

end Evaluation

/-! ## How a failure comes out -/

namespace Raised

/-- The failure that comes out where this one was raised. -/
inductive ComesOut (raised : Raised) : Failure → Prop
  /-- No code was running. -/
  | bare : raised.running = none → ComesOut raised raised.cause
  /-- It is about cells. -/
  | passed : raised.cause.isAboutCells = true → ComesOut raised raised.cause
  /-- It stopped the code of a cell. -/
  | wrapped {cell : Nat} {record : CellRecord} : raised.cause.isAboutCells = false →
      raised.running = some cell → raised.here.cells[cell]? = some record →
      ComesOut raised
        (.invocation record.cube (raised.here.viewCoordinate record.coordinate) raised.cause)

/-- The failure can be put in words where it stopped the code of a cell, and so can the place of the cell. -/
def IsTold (raised : Raised) : Prop :=
  ∀ cell record, raised.cause.isAboutCells = false → raised.running = some cell →
    raised.here.cells[cell]? = some record →
    (∃ place, (raised.here.viewCoordinate record.coordinate).formatted = .ok place) ∧
      ∃ words, raised.cause.words = .ok words

variable {raised : Raised} {f : Failure} {w : World}

/-- Where no code is running, a failure comes out as it is. -/
lemma ComesOut.eq_cause (h : raised.ComesOut f) (hrunning : raised.running = none) :
    f = raised.cause := by
  cases h with
  | bare _ => rfl
  | passed _ => rfl
  | wrapped _ hsome _ => simp [hrunning] at hsome

/-- What comes out of running code is about cells. -/
lemma ComesOut.isAboutCells (h : raised.ComesOut f) (hrunning : raised.running ≠ none) :
    f.isAboutCells = true := by
  cases h with
  | bare hnone => exact absurd hnone hrunning
  | passed habout => exact habout
  | wrapped => rfl

/-- A failure comes out in a world in which nothing was compiled since. -/
structure Explains (raised : Raised) (f : Failure) (w : World) : Prop where
  /-- It is the one that comes out, if that can be put in words. -/
  comesOut : raised.IsTold → raised.ComesOut f
  /-- The versions of all sources are the same. -/
  versions : raised.here.versions = w.versions
  /-- The cells are the same. -/
  cells : raised.here.cells = w.cells
  /-- So is everything, until the failure reaches running code. -/
  world : raised.running = none → raised.here = w

lemma Explains.of_failure (f : Failure) (w : World) : Explains ⟨f, none, w⟩ f w :=
  ⟨fun _ => .bare rfl, rfl, rfl, fun _ => rfl⟩

/-- A failure that no running code was reached by is the one that was raised, here. -/
lemma Explains.eq_of_none (h : raised.Explains f w) (hrunning : raised.running = none) :
    raised = ⟨f, none, w⟩ := by
  have htold : raised.IsTold := by
    intro cell record _ hsome
    rw [hrunning] at hsome
    cases hsome
  obtain ⟨cause, running, here⟩ := raised
  obtain rfl := (h.comesOut htold).eq_cause hrunning
  obtain rfl := h.world hrunning
  obtain rfl := hrunning
  rfl

lemma Explains.left (h : raised.Explains f w) : raised.left.Explains f (popFrame w) := by
  have hversions : (popFrame w).versions = w.versions := by rw [popFrame]; split <;> rfl
  have hcells : (popFrame w).cells = w.cells := by rw [popFrame]; split <;> rfl
  obtain ⟨cause, running, here⟩ := raised
  cases running with
  | none =>
      rw [h.eq_of_none rfl]
      exact .of_failure f _
  | some inner =>
      exact ⟨h.comesOut, h.versions.trans hversions.symm, h.cells.trans hcells.symm,
        by simp [Raised.left]⟩

/-- Where a failure reaches the code of a cell, some failure comes out, and nothing else changes. -/
lemma wordFailure_eq {cell : Nat} {record : CellRecord} (hrecord : w.cells[cell]? = some record)
    (f : Failure) : wordFailure cell (.error f) w =
      (.error (if f.isAboutCells then f
        else .invocationOf record.cube (w.viewCoordinate record.coordinate) f), w) := by
  rw [wordFailure]
  cases f.isAboutCells with
  | true => rfl
  | false => exact bind_of_ok (cellRecord_of_some hrecord)

/-- Where a failure reaches the code of a cell, it comes out as that is worded. -/
lemma Explains.within {cell : Nat} (h : raised.Explains f w) (hcell : cell < w.cells.size) :
    ∃ f', wordFailure cell (.error f) w = (.error f', w) ∧ (raised.within cell).Explains f' w := by
  have hrecord : w.cells[cell]? = some w.cells[cell] := Array.getElem?_eq_getElem hcell
  refine ⟨_, wordFailure_eq hrecord f, ?_⟩
  cases hrunning : raised.running with
  | none =>
      rw [h.eq_of_none hrunning]
      refine ⟨fun htold => ?_, rfl, rfl, by simp [Raised.within]⟩
      cases habout : f.isAboutCells with
      | true => exact .passed habout
      | false =>
          obtain ⟨⟨place, hplace⟩, words, hwords⟩ := htold cell _ habout rfl hrecord
          have hnamed : Failure.invocationOf w.cells[cell].cube
              (w.viewCoordinate w.cells[cell].coordinate) f = .invocation .. :=
            Failure.raisedWith_of_ok hplace hwords _
          rw [if_neg Bool.false_ne_true, hnamed]
          exact .wrapped habout rfl hrecord
  | some inner =>
      have hwithin : raised.within cell = raised := by
        obtain ⟨cause, running, here⟩ := raised
        obtain rfl : running = some inner := hrunning
        rfl
      rw [hwithin]
      refine ⟨fun htold => ?_, h.versions, h.cells, h.world⟩
      -- what came out of the code within is about cells, and so comes out of this one
      have hout := h.comesOut htold
      rw [hout.isAboutCells (by rw [hrunning]; exact Option.some_ne_none inner), if_pos rfl]
      exact hout

end Raised

/-- The failure that is raised first. -/
def firstRaised? (incidents : List Incident) : Option Raised := incidents.findSome? (·.raised?)

section

variable {incidents more : List Incident} {f : Raised → Raised} {cell : Nat}

lemma firstRaised?_append : firstRaised? (incidents ++ more) =
    (firstRaised? incidents).or (firstRaised? more) := List.findSome?_append

lemma firstRaised?_map :
    firstRaised? (incidents.map (·.map f)) = (firstRaised? incidents).map f := by
  rw [firstRaised?, firstRaised?, List.findSome?_map, List.map_findSome?]
  congr 1
  funext incident
  cases incident <;> rfl

lemma mem_map_compiles : .compiles cell ∈ incidents.map (·.map f) ↔ .compiles cell ∈ incidents := by
  rw [List.mem_map]
  constructor
  · rintro ⟨incident, hmem, heq⟩
    cases incident with
    | compiles other => rwa [← Incident.compiles.inj heq]
    | fails raised => cases heq
  · exact fun hmem => ⟨_, hmem, rfl⟩

end

/-- The failure that is raised first is why something ends as it does. -/
def Accounts {α : Type} (incidents : List Incident) (w : World) : Except Failure α → Prop
  | .ok _ => firstRaised? incidents = none
  | .error f => ∃ raised, firstRaised? incidents = some raised ∧ raised.Explains f w

/-- What the incidents say of a computation that begins in one world and ends in another. -/
structure Reported {α : Type} (w : World) (incidents : List Incident)
    (outcome : Except Failure α × World) : Prop where
  /-- What was compiled stays so. -/
  keeps : Retains w outcome.2
  /-- It is not compiled again. -/
  compiles : ∀ {cell version : Nat} {artifact : Artifact},
    w.Compiled cell version artifact → .compiles cell ∉ incidents
  /-- A failure that comes out is the first that was raised. -/
  accounts : Accounts incidents outcome.2 outcome.1

namespace Reported

variable {α β : Type} {incidents more : List Incident} {w w₁ w₂ : World} {a : α} {f : Failure}
  {outcome : Except Failure α × World}

/-- The incidents of a computation come after others. -/
lemma after (h : Reported w₁ incidents outcome) (hkeeps : Retains w w₁) :
    Reported w incidents outcome :=
  ⟨hkeeps.trans h.keeps, fun hcompiled => h.compiles (hkeeps.compiled hcompiled), h.accounts⟩

/-- Something ends, without incidents but that. -/
lemma endingIn (hkeeps : Retains w w₁) (result : Except Failure α) :
    Reported w (endingIn w₁ result) (result, w₁) := by
  refine ⟨hkeeps, fun _ hmem => ?_, ?_⟩
  · cases result with
    | ok a => cases hmem
    | error f => cases List.mem_singleton.mp hmem
  · cases result with
    | ok a => rfl
    | error f => exact ⟨_, rfl, .of_failure f w₁⟩

/-- One computation after another. -/
lemma append {outcome : Except Failure β × World} (h : Reported w incidents (.ok a, w₁))
    (h' : Reported w₁ more outcome) : Reported w (incidents ++ more) outcome := by
  have hfirst : firstRaised? (incidents ++ more) = firstRaised? more := by
    rw [firstRaised?_append, (h.accounts : firstRaised? incidents = none), Option.none_or]
  refine ⟨h.keeps.trans h'.keeps, fun hcompiled hmem => ?_, ?_⟩
  · rcases List.mem_append.mp hmem with hmem | hmem
    · exact h.compiles hcompiled hmem
    · exact h'.compiles (h.keeps.compiled hcompiled) hmem
  · have haccounts := h'.accounts
    obtain ⟨result, w₂⟩ := outcome
    cases result with
    | ok b => exact hfirst.trans haccounts
    | error f =>
        obtain ⟨raised, hraised, hexplains⟩ := haccounts
        exact ⟨raised, hfirst.trans hraised, hexplains⟩

/-- A failure that is passed on. -/
lemma passOn (h : Reported w incidents ((.error f : Except Failure α), w₁)) :
    Reported w (incidents ++ FormulaCube.endingIn w₁ (.error f : Except Failure β))
      ((.error f : Except Failure β), w₁) := by
  refine ⟨h.keeps, fun hcompiled hmem => ?_, ?_⟩
  · rcases List.mem_append.mp hmem with hmem | hmem
    · exact h.compiles hcompiled hmem
    · cases List.mem_singleton.mp hmem
  · obtain ⟨raised, hraised, hexplains⟩ := h.accounts
    exact ⟨raised, by rw [firstRaised?_append, hraised]; rfl, hexplains⟩

/-- A level is taken off the stack. -/
lemma left {result : Except Failure α} (h : Reported w incidents (result, w₁)) :
    Reported w (incidents.map (·.map (·.left))) (result, popFrame w₁) := by
  refine ⟨(Retains.ignoresObjects w).popFrame h.keeps,
    fun hcompiled hmem => h.compiles hcompiled (mem_map_compiles.mp hmem), ?_⟩
  have haccounts := h.accounts
  cases result with
  | ok a => exact firstRaised?_map.trans (congrArg (Option.map _) haccounts)
  | error f =>
      obtain ⟨raised, hraised, hexplains⟩ := haccounts
      exact ⟨raised.left, firstRaised?_map.trans (congrArg (Option.map _) hraised),
        hexplains.left⟩

/-- What becomes of the code of a cell is worded. -/
lemma worded {cell : Nat} {result : Except Failure Datum}
    (h : Reported w incidents (result, w₁)) (hcell : cell < w.cells.size) :
    Reported w (incidents.map (·.map (·.within cell))) (wordFailure cell result w₁) := by
  have hcompiles {other version : Nat} {artifact : Artifact}
      (hcompiled : w.Compiled other version artifact) :
      .compiles other ∉ incidents.map (·.map (·.within cell)) :=
    fun hmem => h.compiles hcompiled (mem_map_compiles.mp hmem)
  have haccounts := h.accounts
  cases result with
  | ok value =>
      exact ⟨h.keeps, hcompiles, firstRaised?_map.trans (congrArg (Option.map _) haccounts)⟩
  | error f =>
      obtain ⟨raised, hraised, hexplains⟩ := haccounts
      obtain ⟨f', hworded, hexplains⟩ := hexplains.within (Nat.lt_of_lt_of_le hcell h.keeps.size)
      rw [hworded]
      exact ⟨h.keeps, hcompiles, raised.within cell,
        firstRaised?_map.trans (congrArg (Option.map _) hraised), hexplains⟩

end Reported

/-! ## Code that handles no failure -/

/-- A failure of a cell that code refers to is that of the code. -/
def Script.PassesOn {α : Type} : Script α → Prop
  | .done _ => True
  | .look next => ∀ w, (next w).PassesOn
  | .change _ next => next.PassesOn
  | .call _ _ next => (∀ f, next (.error f) = .done (.error f)) ∧ ∀ d, (next (.ok d)).PassesOn

namespace Moment

/-- Code that starts handles no failure. -/
def PassesOn (codes : Codes) (moment : Moment) : Prop :=
  match moment.act with
  | .start artifact method => (codes artifact moment.surroundings method).PassesOn
  | _ => True

/-- Neither a back end nor code takes an artifact away. -/
def KeepsCompiled (moment : Moment) : Prop :=
  match moment.act with
  | .compile after | .change after => Retains moment.world after
  | _ => True

/-- What runs is code that handles no failure, and nothing takes an artifact away. -/
structure IsOrderly (machine : Machine) (codes : Codes) (moment : Moment) : Prop where
  /-- The code is that of the artifacts. -/
  runs : moment.Runs machine codes
  /-- It handles no failure. -/
  passesOn : moment.PassesOn codes
  /-- What was compiled stays so. -/
  keeps : moment.KeepsCompiled

end Moment

/-- An evaluation at whose moments all is orderly shows these incidents. -/
def Reports (machine : Machine) (codes : Codes) (ask : Ask) (below : Below) (beneath : Beneath) :
    Prop :=
  ∀ isDirect cube coordinate output w,
    (∀ moment ∈ below isDirect cube coordinate output w, moment.IsOrderly machine codes) →
    Reported w (beneath cube coordinate output w) (ask cube coordinate output w)

section

variable {machine : Machine} {codes : Codes} {ask : Ask} {below : Below} {beneath : Beneath}
  {levels : List Level} {isDirect : Bool} {s : Surroundings} {w : World}

/-- A reference looks things up, and may ask a cube. -/
lemma Reference.reported (hask : Reports machine codes ask below beneath) {r : Reference}
    {coordinate : Datum} (h : ∀ moment ∈ r.moments below isDirect s coordinate w,
      moment.IsOrderly machine codes) :
    Reported w (r.incidents ask beneath s coordinate w) (r.perform ask s coordinate w) := by
  have hkeeps : Retains w (r.resolve s coordinate w).2 :=
    (Retains.ignoresObjects w).resolve s coordinate r w (.refl w)
  have hworld := r.perform_world ask s coordinate w
  rw [Reference.moments] at h
  rw [Reference.incidents]
  rcases hresolve : r.resolve s coordinate w with ⟨result, w₁⟩
  rw [hresolve] at h hkeeps hworld
  -- If nothing is asked, only resolving may have changed the world.
  have hself (hworld : (r.perform ask s coordinate w).2 = w₁) :
      Reported w (endingIn (r.perform ask s coordinate w).2 (r.perform ask s coordinate w).1)
        (r.perform ask s coordinate w) := .endingIn (hworld ▸ hkeeps) _
  cases result with
  | error f => exact hself hworld
  | ok target =>
      obtain ⟨cube, target⟩ := target
      cases cube with
      | cube number =>
          have hperform : r.perform ask s coordinate w = ask number target s.output w₁ := by
            rw [r.perform_eq, bind_of_ok hresolve]
            rfl
          rw [hperform]
          exact (hask _ number target s.output w₁ h).after hkeeps
      | _ => exact hself hworld

/-- **Code that handles no failure**, step by step. -/
lemma Script.reported {α : Type} (hask : Reports machine codes ask below beneath)
    {script : Script α} (hpasses : script.PassesOn)
    (h : ∀ moment ∈ script.moments ask below levels isDirect s w,
      moment.IsOrderly machine codes) :
    Reported w (script.incidents ask beneath s w) (script.run ask s w) := by
  induction script generalizing w with
  | done result => exact .endingIn (.refl w) result
  | look next ih => exact ih w (hpasses w) h
  | change f next ih =>
      obtain ⟨hchange, hrest⟩ := List.forall_mem_cons.mp h
      exact (ih hpasses hrest).after hchange.keeps
  | call r coordinate next ih =>
      obtain ⟨hcalled, hafter⟩ :=
        List.forall_mem_append.mp (List.forall_mem_cons.mp h).2
      have hreference := Reference.reported hask hcalled
      rcases hperform : r.perform ask s coordinate w with ⟨result, w₁⟩
      have hrun : (Script.call r coordinate next).run ask s w = (next result).run ask s w₁ := by
        simp only [Script.run, hperform]
      rw [hrun, Script.incidents, hperform]
      rw [hperform] at hreference hafter
      cases result with
      | ok d => exact hreference.append (ih (.ok d) (hpasses.2 d) hafter)
      | error f =>
          rw [hpasses.1 f]
          exact hreference.passOn

/-- What comes before the code of a cell takes no artifact away. -/
lemma Entered.prepare_retains {entered : Entered}
    (h : ∀ moment ∈ entered.compiling machine levels isDirect w, moment.IsOrderly machine codes) :
    Retains w (prepare machine entered w).2 := by
  refine FormulaCube.prepare_retains fun w₁ after hcompile => ?_
  rw [Entered.compiling, hcompile] at h
  exact (h _ (List.mem_singleton_self _)).keeps

/-- The source of a cell is compiled only if the cell was not. -/
lemma Entered.compilations_reported {entered : Entered} {w₁ : World} (hkeeps : Retains w w₁) :
    Reported w (entered.compilations machine w) ((.ok () : Except Failure Unit), w₁) := by
  refine ⟨hkeeps, fun hcompiled hmem => ?_, ?_⟩
  · rw [Entered.compilations] at hmem
    split at hmem
    next worlds hcompile =>
      obtain rfl := Incident.compiles.inj (List.mem_singleton.mp hmem)
      exact Option.some_ne_none worlds
        (hcompile.symm.trans (compilation?_of_compiled hcompiled))
    next => cases hmem
  · rw [Entered.compilations]
    split <;> rfl

/-- **A cell that is run**: its source may be compiled, and then its code runs. -/
lemma Entered.reported (hask : Reports machine codes ask below beneath) {entered : Entered}
    (h : ∀ moment ∈ entered.compiling machine levels isDirect w ++
      entered.running machine codes ask below levels isDirect w, moment.IsOrderly machine codes) :
    Reported w (entered.incidents machine codes ask beneath w)
      (execute machine ask entered.compiler entered.cell entered.surroundings w) := by
  obtain ⟨hcompiling, hrunning⟩ := List.forall_mem_append.mp h
  rw [execute_eq]
  refine (Entered.compilations_reported (Entered.prepare_retains hcompiling)).append ?_
  rw [Entered.running] at hrunning
  rw [Entered.consequences]
  rcases hprepare : prepare machine entered w with ⟨result, w₁⟩
  cases result with
  | error f =>
      rw [bind_of_error hprepare]
      exact .endingIn (.refl w₁) (.error f)
  | ok found =>
      obtain ⟨artifact, method⟩ := found
      rw [hprepare] at hrunning
      obtain ⟨hstart, hrest⟩ := List.forall_mem_cons.mp hrunning
      have hcode := Script.reported hask hstart.passesOn hrest
      rw [bind_of_ok hprepare]
      rw [← hstart.runs ask] at hcode
      exact hcode.worded (lt_size_of_prepare hprepare)

/-- **An evaluation** shows why it fails, and compiles nothing that was compiled. -/
theorem answer_reported (machine : Machine) (codes : Codes) (depth : Nat) (levels : List Level) :
    Reports machine codes (answer machine depth) (moments machine codes depth levels)
      (incidents machine codes depth) := by
  induction depth generalizing levels with
  | zero => exact fun _ _ _ _ w _ => .endingIn (.refl w) (.error (.fault .tooDeep))
  | succ depth ih =>
      intro isDirect cube coordinate output w h
      have hkeeps : Retains w (enter cube coordinate output w).2 :=
        (Retains.ignoresObjects w).enter cube coordinate output w (.refl w)
      rw [moments] at h
      rw [answer, getCell_eq, incidents]
      rcases henter : enter cube coordinate output w with ⟨result, w₁⟩
      rw [henter] at h hkeeps
      cases result with
      | error f =>
          rw [bind_of_error henter]
          exact .endingIn hkeeps (.error f)
      | ok found =>
          rw [bind_of_ok henter]
          cases found with
          | inl value => exact .endingIn hkeeps (.ok value)
          | inr entered => exact (Entered.reported (ih _) h).left.after hkeeps

end

/-! ## Playbooks -/

namespace Script

variable {α β : Type}

lemma PassesOn.bind {script : Script α} {f : α → Script β} (h : script.PassesOn)
    (hf : ∀ a, (f a).PassesOn) : (script >>= f).PassesOn := by
  change (script.bind f).PassesOn
  induction script with
  | done result =>
      cases result with
      | ok a => exact hf a
      | error e => trivial
  | look next ih => exact fun w => ih w (h w)
  | change g next ih => exact ih h
  | call r coordinate next ih =>
      refine ⟨fun e => ?_, fun d => ih (.ok d) (h.2 d)⟩
      change (next (.error e)).bind f = _
      rw [h.1 e]
      rfl

lemma PassesOn.lift (x : Eval α) : (lift x).PassesOn := fun _ => trivial

lemma PassesOn.refer (r : Reference) (coordinate : Datum) : (refer r coordinate).PassesOn :=
  ⟨fun _ => rfl, fun _ => trivial⟩

end Script

section

open Script

variable {s : Surroundings}

lemma Action.passesOn_code (action : Action) : (action.code s).PassesOn := by
  cases action with
  | fixed cube coordinate | relativeCube cube coordinate =>
      exact (PassesOn.lift _).bind fun _ => (PassesOn.lift _).bind fun _ =>
        (PassesOn.refer _ _).bind fun _ => trivial
  | relative coordinate =>
      exact (PassesOn.lift _).bind fun _ => (PassesOn.refer _ _).bind fun _ => trivial
  | fixedInput cube =>
      exact (PassesOn.lift _).bind fun _ => (PassesOn.refer _ _).bind fun _ => trivial
  | _ => exact .lift _

lemma passesOn_actionsCode (actions : List Action) : (actionsCode s actions).PassesOn := by
  induction actions with
  | nil => trivial
  | cons action actions ih => exact action.passesOn_code.bind fun _ => ih.bind fun _ => trivial

lemma passesOn_callbackCode (c : Callback) (values : List (Text × Datum)) :
    (callbackCode c s values).PassesOn := by
  cases c with
  | fixed | relative | relativeCube => exact .refer _ _
  | _ => exact .lift _

/-- **The code of playbooks** handles no failure. -/
theorem passesOn_playbookCodes (artifact : Artifact) (s : Surroundings) (method : Datum) :
    (playbookCodes artifact s method).PassesOn := by
  rw [playbookCodes]
  cases artifact.program with
  | code type => trivial
  | playbook methods =>
      cases method with
      | str name mark =>
          dsimp only
          rw [methodCode]
          cases s.attributes.lookup name with
          | some d => exact .lift _
          | none =>
              cases methods.lookup name with
              | some actions => exact (passesOn_actionsCode actions).bind fun _ => .lift _
              | none =>
                  dsimp only
                  rw [attributeCode]
                  cases Callback.ofLabel? name with
                  | some c => exact (PassesOn.lift _).bind fun _ => passesOn_callbackCode c _
                  | none => exact .lift _
      | _ => exact .lift _

end

/-- Playbooks that set nothing are orderly. -/
lemma Moment.isOrderly_of_isQuiet {moment : Moment} (hquiet : moment.isQuiet = true)
    (hundisturbed : moment.IsUndisturbed) : moment.IsOrderly Run.machine playbookCodes := by
  refine ⟨Moment.runs_of_isQuiet hquiet, ?_, ?_⟩
  · rw [PassesOn]
    cases moment.act with
    | start artifact method => exact passesOn_playbookCodes artifact _ method
    | _ => trivial
  · rw [isQuiet] at hquiet
    rw [IsUndisturbed] at hundisturbed
    rw [KeepsCompiled]
    cases hact : moment.act with
    | compile after =>
        rw [hact] at hquiet
        cases hquiet
    | change after =>
        rw [hact] at hundisturbed
        exact hundisturbed (Retains.ignoresObjects moment.world).tolerant (.refl moment.world)
    | _ => trivial

/-! ## Evaluations -/

namespace Evaluation

/-- At all moments of an evaluation the code is that of the artifacts and handles no failure, and nothing
takes an artifact away. -/
def IsOrderly (machine : Machine) (codes : Codes) (depth : Nat) (e : Evaluation) (w : World) : Prop :=
  ∀ moment ∈ e.moments machine codes depth w, moment.IsOrderly machine codes

lemma reported {machine : Machine} {codes : Codes} {depth : Nat} {e : Evaluation} {w : World}
    (h : e.IsOrderly machine codes depth w) :
    Reported w (e.incidents machine codes depth w) (e.run machine depth w) := by
  cases e with
  | cube number coordinate output =>
      exact answer_reported machine codes depth [] true number coordinate output w h
  | cell entered => exact Entered.reported (answer_reported machine codes depth []) h

/-- Cells with playbooks that set nothing are orderly. -/
lemma isOrderly_of_isQuiet {depth number : Nat} {coordinate output : Datum} {w : World}
    (h : ((cube number coordinate output).moments Run.machine playbookCodes depth w).all
      Moment.isQuiet = true) :
    (cube number coordinate output).IsOrderly Run.machine playbookCodes depth w := by
  have hquiet := List.all_eq_true.mp h
  exact fun moment hmem =>
    Moment.isOrderly_of_isQuiet (hquiet moment hmem) (moments_isQuiet hquiet moment hmem).2

end Evaluation

/-- A failure in words has its own words in it. -/
lemma Failure.message_infix_headline (f : Failure) : f.message <:+: headline f.kind f.message f := by
  unfold headline
  split
  · exact List.nil_infix
  · exact (List.suffix_append _ _).isInfix

/-- What comes out has the words of the failure that was raised. -/
lemma Raised.ComesOut.message_infix {raised : Raised} {f : Failure} (h : raised.ComesOut f) :
    raised.cause.message <:+: f.message := by
  cases h with
  | bare | passed => exact List.infix_refl _
  | wrapped => exact raised.cause.message_infix_headline.trans (List.suffix_append _ _).isInfix

/-- A check that a failure can be put in words wherever it stopped code. -/
def Raised.isTellable (raised : Raised) : Bool :=
  raised.cause.words.isOk &&
    raised.here.cells.all fun record => (raised.here.viewCoordinate record.coordinate).formatted.isOk

lemma Raised.isTold_of_isTellable {raised : Raised} (h : raised.isTellable = true) : raised.IsTold := by
  obtain ⟨hwords, hcells⟩ := Bool.and_eq_true_iff.mp h
  intro cell record _ _ hrecord
  obtain ⟨hlt, rfl⟩ := Array.getElem?_eq_some_iff.mp hrecord
  exact ⟨exists_of_isOk (Array.all_eq_true.mp hcells cell hlt), exists_of_isOk hwords⟩

/-- The cube `P` refers to `A`, and `A` to `B`, whose code is stopped by a missing key. -/
def raisingWorld : World := soloWorld
  [(['P'], [.relativeCube (.str ['A']) (axis ['x'] 1)]),
    (['A'], [.fixed (.str ['B']) (axis ['y'] 2)]),
    (['B'], [.raise "KeyError".toList (some (.str ['k']))])]

/-- The cube `P` is asked. -/
def raisingEvaluation : Evaluation := .cube 0 (.ref 1) .none

/-- The world after that. -/
def raisedWorld : World := (raisingEvaluation.run Run.machine 3 raisingWorld).2

/-- The words of a failure. -/
def wordsOf {α : Type} : Except Failure α → Text
  | .ok _ => []
  | .error f => f.message

lemma error_of_wordsOf {α : Type} {result : Except Failure α} (h : wordsOf result ≠ []) :
    ∃ f, result = .error f ∧ f.message = wordsOf result := by
  cases result with
  | ok a => exact absurd rfl h
  | error f => exact ⟨f, rfl, rfl⟩

/-- The cube `B` has one cell, whose code is stopped by a missing key that is too long to be written. -/
def wordlessWorld : World := soloWorld [(['B'], [.raise "KeyError".toList (some .long)])]

/-- The cube `B` is asked. -/
def wordlessEvaluation : Evaluation := .cube 0 (.ref 1) .none

/-- Its incidents. -/
def wordlessIncidents : List Incident :=
  wordlessEvaluation.incidents Run.machine playbookCodes 1 wordlessWorld

/-- The kind of a failure, and whether it is about cells. -/
def kindOf {α : Type} : Except Failure α → Option (Text × Bool)
  | .ok _ => none
  | .error f => some (f.kind, f.isAboutCells)

end FormulaCube
