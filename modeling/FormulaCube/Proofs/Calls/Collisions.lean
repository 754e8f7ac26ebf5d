import FormulaCube.Proofs.Calls.Naming
import FormulaCube.Proofs.Calls.Numbering
import FormulaCube.Proofs.Shortcut.Written
import Mathlib.Data.List.Permutation

/-!
# Names never collide

The numbers of compilations keep apart what is generated, also where a compilation fails and where the
names of cubes differ only in characters that are lost.

* `NumberedSystem.names_apart` — which number each compilation has, and which names are made with it.
* `NumberedSystem.Entry`, `NumberedSystem.play` — orders of steps that can be written down.
* `NumberedSystem.adrift_draws_late` — an attempt that draws no number.
-/

namespace FormulaCube.NumberedSystem

variable {α : Type} {shop : Workshop α} {start : Nat} {s t : NumberedSystem α}

/-- What is generated has the name of the class for the number of the compilation. -/
lemma className_of_module {cell version : Nat} {place number source : Text} {m : GeneratedModule}
    (h : (shop.job cell place number version source).module = .ok m) :
    m.className = className shop.settings (shop.cube cell) number := className_of_generate h

/-- **Every compilation has a number of its own, and names with it never collide.** Whatever the order
of the steps of any number of calls, with cells made and edited between them:

* the versions that were handed over to be compiled, of cells whose place can be written, drew their
  numbers in that order, except that the last one may still have to draw it;
* the numbers are those from `start` on, also where a compilation fails, before or in the back end; what
  came back without a number came back because the place cannot be written;
* the classes of two modules that are handed to the back end have different names;
* where the settings say that names of classes begin with an identifier, each is an ASCII name;
* a name between tildes has the number of the compilation put behind it: different names in one
  compilation stay different, and one name becomes different ones in different compilations. -/
theorem names_apart (shop : Workshop α) (start : Nat) (s : NumberedSystem α)
    (h : Reachable shop start s) :
    (∃ pending : Option Nat,
      s.calls.placed shop.isPlaced s.calls.attempts = s.drawers ++ pending.toList ∧
      ∀ i, pending = some i → ∃ call : Call α Failure, s.calls.calls[i]? = some call ∧
        call.phase.isCompiling = true) ∧
    (∀ (k i : Nat) (job : Job), s.jobs[k]? = some (i, job) →
      ∃ cell place version source, shop.place cell = .ok place ∧
        job = shop.job cell place (Text.ofNat (start + k)) version source) ∧
    (∀ (i v : Nat) (result : Except Failure α), .returned i v result ∈ s.calls.deeds →
      (∃ (k : Nat) (job : Job) (answer : Except Failure α), s.jobs[k]? = some (i, job) ∧
        (∀ m, job.module = .ok m → shop.answers m answer) ∧ result = comesTo job answer) ∨
      ∃ (call : Call α Failure) (reason : Fault), s.calls.calls[i]? = some call ∧
        shop.place call.cell = .error reason ∧ result = .error (.fault reason)) ∧
    (∀ (k l i j : Nat) (job job' : Job) (m m' : GeneratedModule), s.jobs[k]? = some (i, job) →
      s.jobs[l]? = some (j, job') → job.module = .ok m → job'.module = .ok m' → k ≠ l →
      m.className ≠ m'.className) ∧
    (Text.isIdentifier shop.settings.classLead = true → ∀ i job m, (i, job) ∈ s.jobs →
      job.module = .ok m → CoordinateEntry.isSimpleName m.className = true) ∧
    (∀ (k l i j : Nat) (job job' : Job), s.jobs[k]? = some (i, job) → s.jobs[l]? = some (j, job') →
      fillPlaceholders job.number job.source =
        (placeholderParts job.source).flatMap (PlaceholderPart.filled job.number) ∧
      ∀ name, .token name ∈ placeholderParts job.source →
        (∀ name', .token name' ∈ placeholderParts job.source → name ≠ name' →
          name ++ job.number ≠ name' ++ job.number) ∧
        (.token name ∈ placeholderParts job'.source → k ≠ l →
          name ++ job.number ≠ name ++ job'.number)) := by
  have hs := sound_of_reachable h
  refine ⟨?order, hs.numbered, ?returned, ?apart, ?ascii, ?filled⟩
  case order =>
    obtain ⟨pending, hattempts, hpending⟩ := hs.order
    exact ⟨pending, hattempts, fun i hi => ((hpending i).mp hi).2.imp fun _ h => ⟨h.1, h.2.1⟩⟩
  case returned =>
    intro i v result hresult
    refine (hs.returned i v result hresult).imp_left ?_
    rintro ⟨job, answer, hjob, hanswer, hcomes⟩
    obtain ⟨k, hk⟩ := List.mem_iff_getElem?.mp hjob
    exact ⟨k, job, answer, hk, hanswer, hcomes⟩
  case apart =>
    intro k l i j job job' m m' hjob hjob' hm hm' hkl heq
    obtain ⟨cell, place, version, source, -, rfl⟩ := hs.numbered k i job hjob
    obtain ⟨cell', place', version', source', -, rfl⟩ := hs.numbered l j job' hjob'
    rw [className_of_module hm, className_of_module hm'] at heq
    exact hkl (Nat.add_left_cancel (className_injective heq))
  case ascii =>
    intro hlead i job m hjob hm
    obtain ⟨k, hk⟩ := List.mem_iff_getElem?.mp hjob
    obtain ⟨cell, place, version, source, -, rfl⟩ := hs.numbered k i job hk
    rw [className_of_module hm]
    exact isSimpleName_className hlead _ _
  case filled =>
    intro k l i j job job' hjob hjob'
    obtain ⟨cell, place, version, source, -, rfl⟩ := hs.numbered k i job hjob
    obtain ⟨cell', place', version', source', -, rfl⟩ := hs.numbered l j job' hjob'
    refine ⟨fillPlaceholders_eq _ _, fun name _ => ⟨fun name' _ hne heq => ?_, fun _ hkl heq => ?_⟩⟩
    · exact hne (List.append_cancel_right heq)
    · exact hkl (Nat.add_left_cancel (Text.ofNat_injective (List.append_cancel_left heq)))

/-! ## Orders that can be written down -/

/-- An entry of a schedule. -/
inductive Entry where
  /-- A step of the calls. -/
  | other (m : Move)
  /-- A call draws a number. -/
  | draw (i : Nat)

/-- What an entry leads to, if it can be done. -/
def enter (shop : Workshop α) (s : NumberedSystem α) : Entry → Option (NumberedSystem α)
  | .other m =>
    if m.comesBack then none
    else (s.calls.move shop.words (fun _ _ => .error (.fault .syntaxError)) m).map fun calls =>
      { s with calls := calls }
  | .draw i =>
    match s.calls.calls[i]? with
    | some ⟨cell, captured, .compiling v⟩ =>
      match shop.place cell with
      | .error _ => none
      | .ok place =>
        if i ∈ s.drawers then none
        else
          (s.calls.version? v).map fun version => s.draw shop i ⟨cell, captured, .compiling v⟩ place version
    | _ => none

/-- What a schedule leads to, if all of it can be done. -/
def play (shop : Workshop α) : List Entry → NumberedSystem α → Option (NumberedSystem α)
  | [], s => some s
  | e :: entries, s => (s.enter shop e).bind (play shop entries)

/-- An entry that can be done is a step. -/
lemma step_of_enter (e : Entry) (h : s.enter shop e = some t) : Step shop s t := by
  cases e with
  | other m =>
      rw [enter] at h
      split at h
      · cases h
      · rename_i hm
        obtain ⟨calls, hcalls, rfl⟩ := Option.map_eq_some_iff.mp h
        exact .other s calls (CallSystem.step_of_quiet_move m (Bool.eq_false_iff.mpr hm) hcalls)
  | draw i =>
      rw [enter] at h
      split at h
      · rename_i cell captured v hcall
        split at h
        · cases h
        · rename_i place hplace
          split at h
          · cases h
          · rename_i hnew
            obtain ⟨version, hversion, rfl⟩ := Option.map_eq_some_iff.mp h
            exact .draw s i _ v place version hcall rfl hplace hversion hnew
      · cases h

/-- **A schedule is an order of steps.** -/
lemma reachable_of_play (entries : List Entry) (hs : Reachable shop start s)
    (h : play shop entries s = some t) : Reachable shop start t := by
  induction entries generalizing s with
  | nil =>
      cases h
      exact hs
  | cons e entries ih =>
      obtain ⟨u, hu, h⟩ := Option.bind_eq_some_iff.mp h
      exact ih (hs.more (step_of_enter e hu)) h

/-- What a schedule leads to is reachable, also where it cannot be done and nothing happens. -/
lemma reachable_getD_play (entries : List Entry) (hs : Reachable shop start s) :
    Reachable shop start ((play shop entries s).getD s) := by
  cases h : play shop entries s with
  | none => exact hs
  | some t => exact reachable_of_play entries hs h

/-- A compiler with two cells whose cubes have names that differ only in characters which are lost. -/
def twins : Workshop Text where
  settings := { hoistImports := false }
  rules := Rule.all
  kind _ := .methods
  cube cell := if cell = 0 then "A b".toList else "A-b".toList
  coordinate _ := .dict []
  answers m result := result = .ok m.text

/-- A call takes so many steps. -/
def steps (i count : Nat) : List Entry := List.replicate count (.other (.advance i))

/-- A cell whose source cannot be expanded. -/
def firstJob : Job := twins.job 0 [] "7".toList 1 "$(".toList

/-- The same cell with another source. -/
def secondJob : Job := twins.job 0 [] "8".toList 2 "~a~ = 1".toList

/-- The other cell. -/
def thirdJob : Job := twins.job 1 [] "9".toList 1 "~a~ = ~b~".toList

/-- Why the first of them fails, before anything is handed to the back end. -/
def unclosed : Failure := .shortcut ⟨.unbalanced .relative, 0, "$(".toList⟩

/-- The module of the second. -/
def secondModule : GeneratedModule :=
  ⟨"CubeCell_A_b_8".toList, "class CubeCell_A_b_8(ExecutionShim):\n    a8 = 1\n".toList⟩

/-- The module of the third. -/
def thirdModule : GeneratedModule :=
  ⟨"CubeCell_A_b_9".toList, "class CubeCell_A_b_9(ExecutionShim):\n    a9 = b9\n".toList⟩

lemma module_firstJob : firstJob.module = .error unclosed := by cbv

lemma module_secondJob : secondJob.module = .ok secondModule := by cbv

lemma module_thirdJob : thirdJob.module = .ok thirdModule := by cbv

/-- The first cell is about to fail. -/
def failing : NumberedSystem Text :=
  (play twins ([.other (.make "$(".toList 1), .other (.make "~a~ = ~b~".toList 1),
    .other (.call 0)] ++ steps 0 8 ++ [.draw 0]) (empty 7)).getD (empty 7)

/-- It failed. -/
def failed : NumberedSystem Text :=
  { failing with
    calls := failing.calls.comeBack 0 ⟨0, some 0, .compiling 0⟩ 0 (.error unclosed) }

/-- It is edited and compiled again, while a call for the other cell waits. -/
def compiling : NumberedSystem Text :=
  (play twins (steps 0 5 ++ [.other (.edit 0 "~a~ = 1".toList 2), .other (.call 0),
    .other (.call 1)] ++ steps 1 8 ++ steps 2 3 ++ [.draw 1]) failed).getD failed

/-- It is compiled. -/
def compiled : NumberedSystem Text :=
  { compiling with
    calls := compiling.calls.comeBack 1 ⟨0, some 2, .compiling 2⟩ 2 (.ok secondModule.text) }

/-- The call for the other cell draws a number as well. -/
def thrice : NumberedSystem Text :=
  (play twins (steps 1 3 ++ steps 2 5 ++ [.draw 2]) compiled).getD compiled

lemma reachable_thrice : Reachable twins 7 thrice := by
  have hfailing : Reachable twins 7 failing := reachable_getD_play _ .empty
  have hfailed : Reachable twins 7 failed := by
    have hstep : Step twins failing _ :=
      .comeBack failing 0 ⟨0, some 0, .compiling 0⟩ 0 firstJob (.error unclosed) rfl rfl
        List.mem_cons_self fun m hm => by
          rw [module_firstJob] at hm
          cases hm
    rw [comesTo, Job.run, module_firstJob] at hstep
    exact hfailing.more hstep
  have hcompiling : Reachable twins 7 compiling := reachable_getD_play _ hfailed
  have hcompiled : Reachable twins 7 compiled := by
    have hstep : Step twins compiling _ :=
      .comeBack compiling 1 ⟨0, some 2, .compiling 2⟩ 2 secondJob (.ok secondModule.text) rfl rfl
        (List.mem_cons_of_mem _ List.mem_cons_self) fun m hm => by
          rw [module_secondJob] at hm
          cases hm
          rfl
    rw [comesTo, Job.run, module_secondJob] at hstep
    exact hcompiling.more hstep
  exact reachable_getD_play _ hcompiled

/-- Three compilations, the first of which fails before anything is handed to the back end. -/
theorem thrice_names_apart :
    thrice.calls.attempts = [0, 1, 2] ∧ thrice.jobs = [(0, firstJob), (1, secondJob), (2, thirdJob)] ∧
    (∃ cell place version source, twins.place cell = .ok place ∧
      secondJob = twins.job cell place (Text.ofNat (7 + 1)) version source) ∧
    secondModule.className ≠ thirdModule.className ∧
    CoordinateEntry.isSimpleName thirdModule.className = true ∧
    "a".toList ++ "9".toList ≠ "b".toList ++ "9".toList ∧
    "a".toList ++ "9".toList ≠ "a".toList ++ "8".toList := by
  obtain ⟨-, hnumbered, -, hapart, hascii, hfilled⟩ := names_apart twins 7 thrice reachable_thrice
  have hlead : Text.isIdentifier twins.settings.classLead = true := by decide
  have hthird : .token "a".toList ∈ placeholderParts thirdJob.source ∧
      .token "b".toList ∈ placeholderParts thirdJob.source := by
    have hparts : placeholderParts thirdJob.source =
        [.token "a".toList, .plain ' ', .plain '=', .plain ' ', .token "b".toList] := by cbv
    rw [hparts]
    decide
  have hsecond : .token "a".toList ∈ placeholderParts secondJob.source := by
    have hparts : placeholderParts secondJob.source =
        [.token "a".toList, .plain ' ', .plain '=', .plain ' ', .plain '1'] := by cbv
    rw [hparts]
    decide
  have htokens := (hfilled 2 1 2 1 thirdJob secondJob rfl rfl).2 "a".toList hthird.1
  exact ⟨rfl, rfl, hnumbered 1 1 secondJob rfl,
    hapart 1 2 1 2 secondJob thirdJob _ _ rfl rfl module_secondJob module_thirdJob (by decide),
    hascii hlead 2 thirdJob _ (List.mem_of_getElem? (i := 2) rfl) module_thirdJob,
    htokens.1 "b".toList hthird.2 (by decide), htokens.2 hsecond (by decide)⟩

/-! ## An attempt without a number -/

/-- A compiler with two cells. The place of the first has an integer in it that is too long to be
written. -/
def adrift : Workshop Text :=
  { twins with coordinate := fun cell => if cell = 0 then .dict [(.str ['n'], .long)] else .dict [] }

/-- The first cell is about to be compiled. -/
def adriftCompiling : NumberedSystem Text :=
  (play adrift ([.other (.make ['1'] 1), .other (.make ['1'] 1), .other (.call 0)] ++ steps 0 8)
    (empty 7)).getD (empty 7)

/-- It is not. -/
def adriftFailed : NumberedSystem Text :=
  { adriftCompiling with
    calls := adriftCompiling.calls.comeBack 0 ⟨0, some 0, .compiling 0⟩ 0 (.error (.fault .longInteger)) }

/-- The second cell is compiled. -/
def adriftLater : NumberedSystem Text :=
  (play adrift (steps 0 5 ++ [.other (.call 1)] ++ steps 1 8 ++ [.draw 1]) adriftFailed).getD adriftFailed

/-- **An attempt may draw no number**, if the place of its cell cannot be written: the second attempt has
the first number. -/
theorem adrift_draws_late : Reachable adrift 7 adriftLater ∧ adriftLater.calls.attempts = [0, 1] ∧
    adriftLater.jobs.map (fun (i, job) => (i, job.number)) = [(1, "7".toList)] := by
  have hcompiling : Reachable adrift 7 adriftCompiling := reachable_getD_play _ .empty
  have hplace : adrift.place 0 = .error .longInteger := Value.formatted_long _
  have hfailed : Reachable adrift 7 adriftFailed :=
    hcompiling.more (.unplaced adriftCompiling 0 ⟨0, some 0, .compiling 0⟩ 0 .longInteger _ rfl rfl
      hplace rfl)
  exact ⟨reachable_getD_play _ hfailed, by decide +kernel, by decide +kernel⟩

end FormulaCube.NumberedSystem
