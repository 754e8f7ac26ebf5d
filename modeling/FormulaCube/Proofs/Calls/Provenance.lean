import FormulaCube.Proofs.Calls.Agreement
import FormulaCube.Proofs.Calls.History
import FormulaCube.Run.Machine
import FormulaCube.Proofs.Shortcut.Leftover

/-!
# Artifacts belong to the source that was read

The calls of one compiler of cells. What a compilation comes to is what `Job.run` gives for the
source of the version that was handed over, whatever the back end answers; edits come at any time.

* `Workshop` — the settings of a compiler, its cells, and what its back end may answer.
* `Workshop.Comes` — the results that a source of a cell can be compiled to.
* `Workshop.CompiledFrom`, `Workshop.FailedFrom` — which source an artifact or a failure belongs to.
* `Workshop.provenance` — the main result.
-/

namespace FormulaCube

/-- A compiler with its cells, which keep their kinds, cubes and coordinates. -/
structure Workshop (α : Type) where
  /-- The settings of the compiler. -/
  settings : Settings
  /-- The forms of shortcuts that are expanded. -/
  rules : List Rule
  /-- How the source of a cell is read. -/
  kind : Nat → CellKind
  /-- The name of the cube of a cell. -/
  cube : Nat → Text
  /-- The place of a cell in its cube. -/
  coordinate : Nat → Value
  /-- What the back end may answer to a module. -/
  answers : GeneratedModule → Except Failure α → Prop

namespace Workshop

variable {α : Type} (shop : Workshop α)

/-- The place of a cell in its cube as it is written, if it can be. -/
def place (cell : Nat) : Except Fault Text := (shop.coordinate cell).formatted

/-- The compilation of a source of a cell, whose place is written like this. -/
def job (cell : Nat) (place number : Text) (version : Nat) (source : Text) : Job where
  settings := shop.settings
  rules := shop.rules
  kind := shop.kind cell
  cube := shop.cube cell
  coordinate := place
  number := number
  version := version
  source := source

/-- The words for a failure to compile a source of a cell, if they can be formed. -/
def words (cell : Nat) (source : Text) (cause : Failure) : Except Failure Text :=
  (compilationWords (shop.cube cell) (shop.coordinate cell) (shop.settings.quote source) cause).mapError
    .fault

/-- What a source of a cell can be compiled to: the place of the cell cannot be written, or a compilation
of it was run, under a fresh number, and the back end answered to its module. -/
def Comes (cell : Nat) (source : Text) (result : Except Failure α) : Prop :=
  (∃ reason, shop.place cell = .error reason ∧ result = .error (.fault reason)) ∨
  ∃ place number version answer, shop.place cell = .ok place ∧
    (∀ m, (shop.job cell place number version source).module = .ok m → shop.answers m answer) ∧
    Job.run (m := Id) (fun _ => ()) (fun _ => answer) (shop.job cell place number version source) =
      result

/-- The module of this source is what the artifact was compiled from. -/
def CompiledFrom (cell : Nat) (source : Text) (a : α) : Prop :=
  ∃ number m,
    generate shop.settings shop.rules (shop.kind cell) (shop.cube cell) number source = .ok m ∧
    shop.answers m (.ok a)

/-- The failure is that of this source: no module can be generated from it, or the back end refused
its module and the failure was reported, or could not be. -/
def FailedFrom (cell : Nat) (source : Text) (e : Failure) : Prop :=
  ∃ number, generate shop.settings shop.rules (shop.kind cell) (shop.cube cell) number source =
      .error e ∨
    ∃ m f, generate shop.settings shop.rules (shop.kind cell) (shop.cube cell) number source = .ok m ∧
      shop.answers m (.error f) ∧
      (e = f ∨ ∃ reason, Job.failureWords f = .error reason ∧ e = .fault reason)

/-- One step of the calls of a compiler of cells. -/
abbrev Step : CallSystem α Failure → CallSystem α Failure → Prop :=
  CallSystem.Step shop.words shop.Comes

/-- Any number of steps. -/
abbrev Steps : CallSystem α Failure → CallSystem α Failure → Prop :=
  CallSystem.Steps shop.words shop.Comes

/-- What the steps lead to from nothing. -/
abbrev Reachable : CallSystem α Failure → Prop :=
  CallSystem.Reachable shop.words shop.Comes

variable {shop}

/-- What a compilation comes to whose module the back end answered. -/
lemma run_of_module {job : Job} {m : GeneratedModule} (hm : job.module = .ok m)
    (answer : Except Failure α) :
    Job.run (m := Id) (fun _ => ()) (fun _ => answer) job =
      match answer with
      | .ok a => .ok a
      | .error f =>
        match Job.failureWords f with
        | .ok _ => .error f
        | .error reason => .error (.fault reason) := by
  simp only [Job.run, hm]
  cases answer with
  | ok a => rfl
  | error f =>
      show Job.finish (m := Id) (fun _ => ()) job m (.error f) = _
      simp only [Job.finish]
      cases Job.failureWords f <;> rfl

/-- A compilation that comes to an artifact was that of a module of its source. -/
lemma Comes.compiledFrom {cell : Nat} {source : Text} {a : α}
    (h : shop.Comes cell source (.ok a)) : shop.CompiledFrom cell source a := by
  obtain ⟨reason, -, hresult⟩ | ⟨place, number, version, answer, -, hanswer, hrun⟩ := h
  · cases hresult
  cases hm : (shop.job cell place number version source).module with
  | error e =>
      simp only [Job.run, hm] at hrun
      cases hrun
  | ok m =>
      rw [run_of_module hm] at hrun
      cases answer with
      | error e =>
          simp only at hrun
          split at hrun <;> cases hrun
      | ok b =>
          cases hrun
          exact ⟨number, m, hm, hanswer m hm⟩

/-- A compilation that fails was that of its source, unless the place of its cell cannot be written. -/
lemma Comes.failedFrom {cell : Nat} {source : Text} {e : Failure}
    (h : shop.Comes cell source (.error e)) :
    (∃ reason, shop.place cell = .error reason ∧ e = .fault reason) ∨
      shop.FailedFrom cell source e := by
  obtain ⟨reason, hplace, hresult⟩ | ⟨place, number, version, answer, -, hanswer, hrun⟩ := h
  · cases hresult
    exact Or.inl ⟨reason, hplace, rfl⟩
  refine Or.inr ⟨number, ?_⟩
  cases hm : (shop.job cell place number version source).module with
  | error f =>
      simp only [Job.run, hm] at hrun
      cases hrun
      exact Or.inl hm
  | ok m =>
      rw [run_of_module hm] at hrun
      cases answer with
      | error f =>
          refine Or.inr ⟨m, f, hm, hanswer m hm, ?_⟩
          simp only at hrun
          split at hrun
          · cases hrun
            exact Or.inl rfl
          · rename_i reason hreason
            cases hrun
            exact Or.inr ⟨reason, hreason, rfl⟩
      | ok b => cases hrun

/-- Words for a failure name the place of the cell, so they cannot be formed where it cannot be written. -/
lemma words_of_place {cell : Nat} {reason : Fault} (h : shop.place cell = .error reason) (source : Text)
    (e : Failure) : shop.words cell source e = .error (.fault reason) := by
  rw [place] at h
  rw [words, compilationWords, h]
  rfl

/-- A failure that was put in words is that of its source. -/
lemma Comes.failedFrom_of_words {cell : Nat} {source words : Text} {e : Failure}
    (h : shop.Comes cell source (.error e)) (hwords : shop.words cell source e = .ok words) :
    shop.FailedFrom cell source e := by
  refine h.failedFrom.resolve_left ?_
  rintro ⟨reason, hplace, -⟩
  rw [words_of_place hplace] at hwords
  cases hwords

/-- **Artifacts belong to the source that was read.** Whatever the order of the steps, with edits at
any time:

* a version that holds an artifact belongs to one cell, and the artifact is what the back end
  answered to the module of the version's own source;
* the words for a failure that a version holds quote its own source, and the cause is the failure of
  that source;
* a call that ended read the current version of its cell at some moment `before`, and gives an
  artifact compiled from the source that the cell had then, or an error that quotes that source, or the
  fault of the attempt to put a failure of that source in words;
* an edit makes a version current that holds the new source, and neither an artifact nor a failure
  until it was compiled itself. -/
theorem provenance {s : CallSystem α Failure} (h : shop.Reachable s) :
    (∀ v version a, s.version? v = some version → version.artifact = some a →
      ∃ cell, (∀ c, .made c v ∈ s.deeds ↔ c = cell) ∧ shop.CompiledFrom cell version.source a) ∧
    (∀ v version words, s.version? v = some version → version.words = some words →
      ∃ cell e, (∀ c, .made c v ∈ s.deeds ↔ c = cell) ∧ version.cause = some e ∧
        shop.words cell version.source e = .ok words ∧ shop.FailedFrom cell version.source e) ∧
    (∀ (i : Nat) (call : Call α Failure) (o : Outcome α Failure), s.calls[i]? = some call →
      call.phase = .done o → ∃ v source before after, shop.Reachable before ∧
        shop.Step before after ∧ after.deeds = .captured i v :: before.deeds ∧
        shop.Steps after s ∧ before.source? call.cell = some source ∧
        match Run.resultOf (shop.cube call.cell) (shop.coordinate call.cell) s.sourceOf o with
        | .ok a => shop.CompiledFrom call.cell source a
        | .error f => ∃ e, shop.Comes call.cell source (.error e) ∧
            ((∃ words, shop.words call.cell source e = .ok words ∧ shop.FailedFrom call.cell source e ∧
              f = .compilation words (shop.cube call.cell) (shop.coordinate call.cell) source e) ∨
            shop.words call.cell source e = .error f)) ∧
    (∀ (cell : Nat) (source : Text) (number : Nat) (t : CallSystem α Failure),
      cell < s.cells.size → (s.edit cell source number).source? cell = some source ∧
        (shop.Steps (s.edit cell source number) t → t.results s.records.versions.size = [] →
          ∃ version, t.version? s.records.versions.size = some version ∧ version.source = source ∧
            version.artifact = none ∧ version.words = none ∧ version.cause = none)) := by
  have hs := CallSystem.sound_of_reachable h
  have single {cell v : Nat} (hmade : .made cell v ∈ s.deeds) (c : Nat) :
      .made c v ∈ s.deeds ↔ c = cell :=
    ⟨fun h => hs.owner c cell v h hmade, fun h => h ▸ hmade⟩
  refine ⟨?_, ?_, ?_, ?_⟩
  · intro v version a hversion ha
    obtain ⟨cell, hmade, hcomes⟩ := CallSystem.comes_of_artifact hs hversion ha
    exact ⟨cell, single hmade, hcomes.compiledFrom⟩
  · intro v version words hversion hw
    obtain ⟨cell, e, hmade, he, hwords, hcomes⟩ := CallSystem.comes_of_words hs hversion hw
    exact ⟨cell, e, single hmade, he, hwords, hcomes.failedFrom_of_words hwords⟩
  · intro i call o hcall hdone
    obtain ⟨v, hv, version, hversion, htold⟩ := CallSystem.told_of_done hs hcall hdone
    obtain ⟨before, after, hbefore, hread, hdeeds, hcurrent, hafter⟩ :=
      CallSystem.capture_of_reachable h hcall hv
    have hmade := CallSystem.made_of_version hs hcall hv
    refine ⟨v, version.source, before, after, hbefore, hread, hdeeds, hafter, ?_, ?_⟩
    · exact CallSystem.source?_of_steps (CallSystem.sound_of_reachable hbefore)
        ((CallSystem.Steps.more .none hread).trans hafter) hcurrent hversion
    · have hsourceOf := CallSystem.sourceOf_of_version? hversion
      rcases htold with ⟨a, rfl, ha, -⟩ | ⟨words, e, rfl, hw, he, -⟩ | ⟨e, f, rfl, hwordless⟩
      · obtain ⟨cell, hmade', hcomes⟩ := CallSystem.comes_of_artifact hs hversion ha
        obtain rfl := hs.owner _ _ v hmade hmade'
        exact hcomes.compiledFrom
      · obtain ⟨cell, e', hmade', he', hwords, hcomes⟩ := CallSystem.comes_of_words hs hversion hw
        obtain rfl := hs.owner _ _ v hmade hmade'
        obtain rfl : e = e' := Option.some.inj (he.symm.trans he')
        refine ⟨e, hcomes, Or.inl ⟨words, hwords, hcomes.failedFrom_of_words hwords, ?_⟩⟩
        rw [hsourceOf]
        rfl
      · obtain ⟨cell, hmade', hwords, hcomes⟩ := hwordless.comes hs hversion
        obtain rfl := hs.owner _ _ v hmade hmade'
        exact ⟨e, hcomes, Or.inr hwords⟩
  · intro cell source number t hcell
    obtain ⟨hversion, hsource⟩ := CallSystem.source?_edit hcell source number
    refine ⟨hsource, ?_⟩
    intro hsteps hresults
    obtain ⟨version, hversion', hsame⟩ := CallSystem.source_of_steps hsteps hversion
    have ht := CallSystem.sound_of_steps hsteps
      (CallSystem.sound_step (.edit s cell source number hcell) hs)
    exact ⟨version, hversion', hsame, CallSystem.untouched ht hversion' hresults⟩

/-! ## An edit while a compilation goes on -/

/-- A compiler of cells with methods, whose back end gives every module back. -/
def mirror : Workshop Text where
  settings := { hoistImports := false }
  rules := Rule.all
  kind _ := .methods
  cube _ := "Orders".toList
  coordinate _ := .dict []
  answers m result := result = .ok m.text

/-- The module of a cell without any source. -/
def emptyModule : GeneratedModule :=
  ⟨className mirror.settings "Orders".toList "1000".toList,
    moduleText [] (className mirror.settings "Orders".toList "1000".toList)
      (blanks 4 ++ "pass".toList)⟩

lemma dedent_nil : dedent [] = [] := by
  have hlines : literalLines [] = [] := by
    rw [literalLines, stringSpans, Piece.ofText]
    rfl
  rw [dedent, markedLines, hlines]
  rfl

lemma generate_emptyModule :
    generate mirror.settings Rule.all .methods "Orders".toList "1000".toList [] =
      .ok emptyModule := by
  have hfilled : fillPlaceholders "1000".toList [] = [] := by
    rw [fillPlaceholders]
    rfl
  have hexpanded : expandIn expansionLevels Rule.all [] = .ok [] :=
    expandLevels_of_findHead_eq_none (fun _ _ => rfl) _ 0
  simp only [generate, hfilled, hexpanded, bind, Except.bind, dedent_nil]
  rfl

/-- What a source is compiled to. -/
def mirrorCompile (cell : Nat) (source : Text) : Except Failure Text :=
  if source = [] then .ok emptyModule.text
  else Job.run (m := Id) (fun _ => ()) (fun m => .ok m.text)
    (mirror.job cell [] "1000".toList 1 source)

lemma comes_mirrorCompile (cell : Nat) (source : Text) :
    mirror.Comes cell source (mirrorCompile cell source) := by
  by_cases hsource : source = []
  · subst hsource
    have hm : (mirror.job cell [] "1000".toList 1 []).module = .ok emptyModule := generate_emptyModule
    refine Or.inr ⟨[], "1000".toList, 1, .ok emptyModule.text, rfl, ?_, ?_⟩
    · intro m hm'
      rw [hm] at hm'
      cases hm'
      rfl
    · simp only [Job.run, hm]
      rfl
  · rw [mirrorCompile, if_neg hsource]
    cases hm : (mirror.job cell [] "1000".toList 1 source).module with
    | error e =>
        refine Or.inr ⟨[], "1000".toList, 1, .ok [], rfl, ?_, ?_⟩
        · intro m hm'
          rw [hm] at hm'
          cases hm'
        · simp only [Job.run, hm]
    | ok m =>
        refine Or.inr ⟨[], "1000".toList, 1, .ok m.text, rfl, ?_, ?_⟩
        · intro m' hm'
          rw [hm] at hm'
          cases hm'
          rfl
        · simp only [Job.run, hm]

/-- The source of a cell is edited while its first version is being compiled. -/
def lateEdit : List Move :=
  [.make [] 1, .call 0, .advance 0, .advance 0, .advance 0, .advance 0, .advance 0, .advance 0,
    .advance 0, .advance 0, .edit 0 ['x'] 2, .comeBack 0, .advance 0, .advance 0, .advance 0]

/-- Where that leads to. -/
def lateState : CallSystem Text Failure :=
  (CallSystem.play mirror.words mirrorCompile lateEdit .empty).getD .empty

/-- The version that was current as the call began holds the artifact of its own source, the call
gives an artifact of the source that it read, and a third source is not compiled yet. -/
theorem lateState_provenance :
    lateState.source? 0 = some ['x'] ∧
    (∃ cell, (∀ c, .made c 0 ∈ lateState.deeds ↔ c = cell) ∧
      mirror.CompiledFrom cell [] emptyModule.text) ∧
    (∃ v source before after, mirror.Reachable before ∧ mirror.Step before after ∧
      after.deeds = .captured 0 v :: before.deeds ∧ mirror.Steps after lateState ∧
      before.source? 0 = some source ∧ mirror.CompiledFrom 0 source emptyModule.text) ∧
    (∃ version, (lateState.edit 0 ['y'] 3).version? 2 = some version ∧ version.source = ['y'] ∧
      version.artifact = none ∧ version.words = none ∧ version.cause = none) := by
  have hreach : mirror.Reachable lateState :=
    CallSystem.steps_of_play comes_mirrorCompile lateEdit rfl
  obtain ⟨hartifact, -, hdone, hedit⟩ := provenance hreach
  exact ⟨rfl, hartifact 0 _ _ rfl rfl,
    hdone 0 ⟨0, some 0, .done (.artifact emptyModule.text)⟩ _ rfl rfl,
    (hedit 0 ['y'] 3 _ (by decide)).2 .none rfl⟩

end Workshop

end FormulaCube
