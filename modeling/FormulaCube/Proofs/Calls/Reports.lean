import FormulaCube.Proofs.Calls.Collisions

/-!
# Compilations and their reports

Compilations are counted where calls wait for them, and reported where they are run. A compilation whose
cell has no place that can be written, or from whose source no module can be generated, is counted as a
failure there but not reported here. If the back end refuses a module with a failure that cannot be put in
words, only the beginning is reported.

* `Job.opening`, `Job.closing` — what is reported of a compilation; `Job.run_note` — in this order.
* `Compilation.isSilent` — compilations whose failure is not reported.
* `ReportingSystem` — the calls of a compiler with what has been reported.
* `ReportingSystem.Accounted` — the invariant; `ReportingSystem.accounted_of_reachable`.
* `ReportingSystem.reports_of_reachable` — the reports of all compilations, and how many there are.
-/

namespace FormulaCube

/-! ## Reports of a compilation -/

namespace Event

/-- A compilation begins. -/
def isStart (e : Event) : Bool := e.name == "cell_compile_started".toList

/-- A compilation succeeded. -/
def isSuccess (e : Event) : Bool := e.name == "cell_compiled".toList

/-- A compilation failed. -/
def isFailure (e : Event) : Bool := e.name == "cell_compile_failed".toList

/-- The report is about a compilation. -/
def isAboutCompiling (e : Event) : Bool := e.isStart || e.isSuccess || e.isFailure

end Event

namespace Job

variable {α : Type}

/-- What is reported before the back end is asked: that the module was generated. -/
def opening (job : Job) : List Event :=
  match job.module with
  | .ok m => [job.started m]
  | .error _ => []

/-- What is reported when the back end refused the module, if the refusal can be put in words. -/
def refusal (job : Job) (f : Failure) : List Event :=
  match failureWords f with
  | .ok words => [job.failed words]
  | .error _ => []

/-- What is reported when the back end has answered. It is not asked without a module. -/
def closing (job : Job) (answer : Except Failure α) : List Event :=
  match job.module, answer with
  | .ok m, .ok _ => [job.compiled m]
  | .ok _, .error f => job.refusal f
  | .error _, _ => []

/-- A report is put behind the others. -/
def note (e : Event) : StateM (List Event) Unit := modify (· ++ [e])

/-- **This is what running the job reports.** -/
lemma run_note (job : Job) (answer : Except Failure α) (log : List Event) :
    job.run (m := StateM (List Event)) note (fun _ => pure answer) log =
      (NumberedSystem.comesTo job answer, log ++ (job.opening ++ job.closing answer)) := by
  cases hm : job.module with
  | error f =>
      simp only [NumberedSystem.comesTo, run, opening, closing, hm]
      exact congrArg (Prod.mk _) (List.append_nil log).symm
  | ok m =>
      rw [NumberedSystem.comesTo, Workshop.run_of_module hm]
      simp only [run, finish, opening, closing, refusal, hm, pure_bind]
      cases answer with
      | ok a => exact congrArg (Prod.mk _) (List.append_assoc log [job.started m] [job.compiled m])
      | error f =>
          dsimp only
          cases failureWords f with
          | ok words => exact congrArg (Prod.mk _) (List.append_assoc log [job.started m] [job.failed words])
          | error reason => rfl

end Job

/-- A compilation that came back. -/
inductive Compilation (α : Type) where
  /-- The place of its cell could not be written. -/
  | unplaced (reason : Fault)
  /-- What was compiled, and what the back end answers to its module. -/
  | drawn (job : Job) (answer : Except Failure α)

namespace Compilation

variable {α : Type}

/-- What the compilation came to. -/
def result : Compilation α → Except Failure α
  | unplaced reason => .error (.fault reason)
  | drawn job answer => NumberedSystem.comesTo job answer

/-- What is reported of it. -/
def reports : Compilation α → List Event
  | unplaced _ => []
  | drawn job answer => job.opening ++ job.closing answer

/-- It failed. -/
def fails (c : Compilation α) : Bool := !c.result.isOk

/-- It failed, and that is not reported: the place of the cell could not be written, no module could be
generated, or the back end refused the module with a failure that cannot be put in words. -/
def isSilent : Compilation α → Bool
  | unplaced _ => true
  | drawn job answer =>
    match job.module, answer with
    | .error _, _ => true
    | .ok _, .error f => !(Job.failureWords f).isOk
    | .ok _, .ok _ => false

/-- How a compilation is reported. -/
inductive Told (c : Compilation α) : Prop
  /-- Nothing is reported of it. -/
  | unheard (hfails : c.fails = true) (hsilent : c.isSilent = true) (hreports : c.reports = [])
  /-- The back end refused the module, and there are no words for it. -/
  | wordless (job : Job) (m : GeneratedModule) (f : Failure) (reason : Fault)
      (hc : c = drawn job (.error f)) (hmodule : job.module = .ok m)
      (hwords : Job.failureWords f = .error reason) (hfails : c.fails = true)
      (hsilent : c.isSilent = true) (hreports : c.reports = [job.started m])
  /-- It succeeded. -/
  | compiled (job : Job) (m : GeneratedModule) (hfails : c.fails = false) (hsilent : c.isSilent = false)
      (hreports : c.reports = [job.started m, job.compiled m])
  /-- The back end refused the module in words. -/
  | failed (job : Job) (m : GeneratedModule) (words : Text) (hfails : c.fails = true)
      (hsilent : c.isSilent = false) (hreports : c.reports = [job.started m, job.failed words])

/-- **These are all the ways.** -/
lemma told (c : Compilation α) : c.Told := by
  cases c with
  | unplaced reason => exact .unheard rfl rfl rfl
  | drawn job answer =>
      cases hmodule : job.module with
      | error f =>
          refine .unheard ?_ ?_ ?_
          · simp only [fails, result, NumberedSystem.comesTo, Job.run, hmodule]
            rfl
          · simp only [isSilent, hmodule]
          · simp only [reports, Job.opening, Job.closing, hmodule, List.append_nil]
      | ok m =>
          cases answer with
          | ok a =>
              refine .compiled job m ?_ ?_ ?_
              · simp only [fails, result, NumberedSystem.comesTo, Job.run, hmodule]
                rfl
              · simp only [isSilent, hmodule]
              · simp only [reports, Job.opening, Job.closing, hmodule, List.singleton_append]
          | error f =>
              have hfails : (drawn job (.error f) : Compilation α).fails = true := by
                rw [fails, result, NumberedSystem.comesTo, Workshop.run_of_module hmodule]
                dsimp only
                cases Job.failureWords f <;> rfl
              cases hwords : Job.failureWords f with
              | error reason =>
                  refine .wordless job m f reason rfl hmodule hwords hfails ?_ ?_
                  · simp only [isSilent, hmodule, hwords]
                    rfl
                  · simp only [reports, Job.opening, Job.closing, Job.refusal, hmodule, hwords,
                      List.append_nil]
              | ok words =>
                  refine .failed job m words hfails ?_ ?_
                  · simp only [isSilent, hmodule, hwords]
                    rfl
                  · simp only [reports, Job.opening, Job.closing, Job.refusal, hmodule, hwords,
                      List.singleton_append]

end Compilation

/-! ## What came back -/

/-- What a compilation came back with. -/
def Deed.returned? {α ε : Type} : Deed α ε → Option (Except ε α)
  | .returned _ _ result => some result
  | _ => none

namespace CallSystem

variable {α ε : Type}

lemma countP_isReturned (deeds : List (Deed α ε)) :
    deeds.countP Deed.isReturned = (deeds.filterMap Deed.returned?).length := by
  induction deeds with
  | nil => rfl
  | cons d deeds ih =>
      rw [List.countP_cons, ih, List.filterMap_cons]
      cases d <;> rfl

lemma countP_isFailure (deeds : List (Deed α ε)) :
    deeds.countP Deed.isFailure = (deeds.filterMap Deed.returned?).countP (!·.isOk) := by
  induction deeds with
  | nil => rfl
  | cons d deeds ih =>
      rw [List.countP_cons, ih, List.filterMap_cons]
      cases d with
      | returned i v result =>
          simp only [Deed.returned?, List.countP_cons]
          cases result <;> rfl
      | _ => rfl

/-- Nothing comes back between compilations. -/
lemma returned_of_quiet_step {describe : Nat → Text → ε → Except ε Text} {s t : CallSystem α ε}
    (h : Step describe (fun _ _ _ => False) s t) :
    t.deeds.filterMap Deed.returned? = s.deeds.filterMap Deed.returned? := by
  cases h with
  | make source number => rfl
  | edit cell source number hcell => rfl
  | call cell hcell => rfl
  | advance i call current phase records hcall hcurrent hstep =>
      rw [goOn, List.filterMap_append]
      cases call.phase <;> rfl
  | comeBack i call v version result hcall hphase hversion hresult => exact hresult.elim

end CallSystem

/-! ## The calls and their reports -/

/-- The calls of a compiler, and what has been reported. -/
structure ReportingSystem (α : Type) where
  /-- The calls, with the compilations that drew a number. -/
  numbered : NumberedSystem α
  /-- What has been reported, the first first. -/
  log : List Event
  /-- The compilations that came back, the first first. -/
  compilations : List (Compilation α)

namespace ReportingSystem

variable {α : Type} {shop : Workshop α} {start : Nat} {s t : ReportingSystem α}

/-- The system before anything happened. -/
def empty (start : Nat) : ReportingSystem α := ⟨.empty start, [], []⟩

/-- The call that drew a number for this compilation waits for it. -/
def Runs (s : ReportingSystem α) (i : Nat) (job : Job) : Prop :=
  (i, job) ∈ s.numbered.jobs ∧
    ∃ call : Call α Failure, s.numbered.calls.calls[i]? = some call ∧ call.phase.isCompiling = true

/-- One step. -/
inductive Step (shop : Workshop α) : ReportingSystem α → ReportingSystem α → Prop
  /-- A step of the calls other than that a compilation comes back. -/
  | other (s : ReportingSystem α) (calls : CallSystem α Failure)
      (hstep : CallSystem.Step shop.words (fun _ _ _ => False) s.numbered.calls calls) :
      Step shop s { s with numbered := { s.numbered with calls := calls } }
  /-- Something else is reported. -/
  | report (s : ReportingSystem α) (e : Event) (he : e.isAboutCompiling = false) :
      Step shop s { s with log := s.log ++ [e] }
  /-- A call that is about to compile draws a number, once the place of its cell is written, and generates
  its module. -/
  | draw (s : ReportingSystem α) (i : Nat) (call : Call α Failure) (v : Nat) (place : Text)
      (version : Version α Failure) (hcall : s.numbered.calls.calls[i]? = some call)
      (hphase : call.phase = .compiling v) (hplace : shop.place call.cell = .ok place)
      (hversion : s.numbered.calls.version? v = some version) (hnew : i ∉ s.numbered.drawers) :
      Step shop s { s with
        numbered := s.numbered.draw shop i call place version
        log := s.log ++
          (shop.job call.cell place s.numbered.ids.text version.number version.source).opening }
  /-- The place of the cell cannot be written: the compilation comes back with the fault of that. -/
  | unplaced (s : ReportingSystem α) (i : Nat) (call : Call α Failure) (v : Nat) (reason : Fault)
      (version : Version α Failure) (hcall : s.numbered.calls.calls[i]? = some call)
      (hphase : call.phase = .compiling v) (hplace : shop.place call.cell = .error reason)
      (hversion : s.numbered.calls.version? v = some version) :
      Step shop s { s with
        numbered := { s.numbered with
          calls := s.numbered.calls.comeBack i call v (.error (.fault reason)) }
        compilations := s.compilations ++ [.unplaced reason] }
  /-- The compilation of a call comes back: no module was generated, or the back end answered. -/
  | comeBack (s : ReportingSystem α) (i : Nat) (call : Call α Failure) (v : Nat) (job : Job)
      (answer : Except Failure α) (hcall : s.numbered.calls.calls[i]? = some call)
      (hphase : call.phase = .compiling v) (hjob : (i, job) ∈ s.numbered.jobs)
      (hanswer : ∀ m, job.module = .ok m → shop.answers m answer) :
      Step shop s
        ⟨{ s.numbered with
            calls := s.numbered.calls.comeBack i call v (NumberedSystem.comesTo job answer) },
          s.log ++ job.closing answer, s.compilations ++ [.drawn job answer]⟩

/-- What any number of steps lead to, where numbers start at `start`. -/
inductive Reachable (shop : Workshop α) (start : Nat) : ReportingSystem α → Prop
  | empty : Reachable shop start (empty start)
  | more {s t : ReportingSystem α} : Reachable shop start s → Step shop s t → Reachable shop start t

/-- The calls are those of a compiler that draws numbers. -/
lemma numbered_of_reachable (h : Reachable shop start s) :
    NumberedSystem.Reachable shop start s.numbered := by
  induction h with
  | empty => exact .empty
  | more _ hstep ih =>
      cases hstep with
      | other calls hstep => exact ih.more (.other _ calls hstep)
      | report e he => exact ih
      | draw i call v place version hcall hphase hplace hversion hnew =>
          exact ih.more (.draw _ i call v place version hcall hphase hplace hversion hnew)
      | unplaced i call v reason version hcall hphase hplace hversion =>
          exact ih.more (.unplaced _ i call v reason version hcall hphase hplace hversion)
      | comeBack i call v job answer hcall hphase hjob hanswer =>
          exact ih.more (.comeBack _ i call v job answer hcall hphase hjob hanswer)

/-! ## What has been reported -/

/-- The reports about compilations. -/
def reports (s : ReportingSystem α) : List Event := s.log.filter Event.isAboutCompiling

/-- What has been reported is what came back, and what is reported first of the compilation that runs. -/
structure Accounted (s : ReportingSystem α) : Prop where
  /-- The compilations came back in this order. -/
  returned : s.numbered.calls.deeds.filterMap Deed.returned? =
    (s.compilations.map Compilation.result).reverse
  /-- Where none runs, all that was reported belongs to those that came back. -/
  idle : (∀ i job, ¬ s.Runs i job) → s.reports = s.compilations.flatMap Compilation.reports
  /-- One that runs was reported as far as its module. -/
  busy : ∀ i job, s.Runs i job →
    s.reports = s.compilations.flatMap Compilation.reports ++ job.opening

lemma accounted_empty : (empty start : ReportingSystem α).Accounted where
  returned := rfl
  idle _ := rfl
  busy i job h := by cases h.1

lemma filter_opening (job : Job) : job.opening.filter Event.isAboutCompiling = job.opening := by
  rw [Job.opening]
  cases job.module <;> rfl

lemma filter_closing (job : Job) (answer : Except Failure α) :
    (job.closing answer).filter Event.isAboutCompiling = job.closing answer := by
  simp only [Job.closing]
  cases job.module with
  | error f => rfl
  | ok m =>
      cases answer with
      | ok a => rfl
      | error f =>
          simp only [Job.refusal]
          cases Job.failureWords f <;> rfl

/-- Two calls cannot both compile. -/
lemma eq_of_runs (hs : s.numbered.Sound shop start) {i j : Nat} {job : Job} {call : Call α Failure}
    (h : s.Runs i job) (hcall : s.numbered.calls.calls[j]? = some call)
    (hcompiling : call.phase.isCompiling = true) : i = j := by
  obtain ⟨-, other, hother, hrunning⟩ := h
  exact hs.eq_of_isLocked hother hcall (Phase.isLocked_of_isCompiling hrunning)
    (Phase.isLocked_of_isCompiling hcompiling)

/-- The steps of calls between compilations change nothing about those that run. -/
lemma runs_other_iff (hs : s.numbered.Sound shop start) {calls : CallSystem α Failure}
    (hstep : CallSystem.Step shop.words (fun _ _ _ => False) s.numbered.calls calls) {i : Nat} {job : Job} :
    Runs { s with numbered := { s.numbered with calls := calls } } i job ↔ s.Runs i job := by
  obtain ⟨new, hnew⟩ := CallSystem.begins_of_step hstep
  refine and_congr_right fun hjob => ⟨?_, ?_⟩
  · rintro ⟨call, hcall, hcompiling⟩
    exact ⟨call, hs.compiling_before hnew (NumberedSystem.mem_drawers.mpr ⟨job, hjob⟩) hcall hcompiling,
      hcompiling⟩
  · rintro ⟨call, hcall, hcompiling⟩
    obtain ⟨call', hcall', -, hsame, -⟩ := hnew.kept i call hcall
    obtain rfl := hsame hcompiling
    exact ⟨call', hcall', hcompiling⟩

lemma Accounted.other (h : s.Accounted) (hs : s.numbered.Sound shop start) {calls : CallSystem α Failure}
    (hstep : CallSystem.Step shop.words (fun _ _ _ => False) s.numbered.calls calls) :
    Accounted { s with numbered := { s.numbered with calls := calls } } where
  returned := (CallSystem.returned_of_quiet_step hstep).trans h.returned
  idle hnone := h.idle fun i job hruns => hnone i job ((runs_other_iff hs hstep).mpr hruns)
  busy i job hruns := h.busy i job ((runs_other_iff hs hstep).mp hruns)

lemma Accounted.report (h : s.Accounted) {e : Event} (he : e.isAboutCompiling = false) :
    Accounted { s with log := s.log ++ [e] } := by
  have hreports : reports { s with log := s.log ++ [e] } = s.reports := by
    simp [reports, List.filter_append, he]
  exact ⟨h.returned, fun hnone => hreports.trans (h.idle hnone),
    fun i job hruns => hreports.trans (h.busy i job hruns)⟩

lemma Accounted.draw (h : s.Accounted) (hs : s.numbered.Sound shop start) {i v : Nat} {place : Text}
    {call : Call α Failure} {version : Version α Failure}
    (hcall : s.numbered.calls.calls[i]? = some call) (hphase : call.phase = .compiling v)
    (hnew : i ∉ s.numbered.drawers) : Accounted { s with
      numbered := s.numbered.draw shop i call place version
      log := s.log ++
        (shop.job call.cell place s.numbered.ids.text version.number version.source).opening } := by
  have hcompiling : call.phase.isCompiling = true := by rw [hphase]; rfl
  -- nothing runs before the number is drawn
  have hidle : ∀ j job, ¬ s.Runs j job := by
    intro j job hruns
    obtain rfl := eq_of_runs hs hruns hcall hcompiling
    exact hnew (NumberedSystem.mem_drawers.mpr ⟨job, hruns.1⟩)
  refine ⟨h.returned, fun hnone => ?_, fun j job hruns => ?_⟩
  · exact absurd ⟨List.mem_append_right _ (List.mem_singleton_self _), call, hcall, hcompiling⟩
      (hnone i _)
  · obtain ⟨hjob, other, hother, hrunning⟩ := hruns
    obtain rfl : j = i := hs.eq_of_isLocked hother hcall (Phase.isLocked_of_isCompiling hrunning)
      (Phase.isLocked_of_isCompiling hcompiling)
    rcases List.mem_append.mp hjob with hjob | hjob
    · exact absurd (NumberedSystem.mem_drawers.mpr ⟨job, hjob⟩) hnew
    · obtain ⟨-, rfl⟩ := Prod.mk.inj (List.mem_singleton.mp hjob)
      rw [reports, List.filter_append, filter_opening, ← reports, h.idle hidle]

/-- A compilation comes back, of which the rest is reported. -/
lemma Accounted.comeBack (h : s.Accounted) (hs : s.numbered.Sound shop start) {i v : Nat}
    {call : Call α Failure} (hcall : s.numbered.calls.calls[i]? = some call)
    (hphase : call.phase = .compiling v) {c : Compilation α} {events : List Event}
    (hevents : s.reports ++ events.filter Event.isAboutCompiling =
      s.compilations.flatMap Compilation.reports ++ c.reports) :
    Accounted ⟨{ s.numbered with calls := s.numbered.calls.comeBack i call v c.result },
      s.log ++ events, s.compilations ++ [c]⟩ := by
  have hcompiling : call.phase.isCompiling = true := by rw [hphase]; rfl
  refine ⟨?_, fun _ => ?_, fun j other hother => ?_⟩
  · rw [List.map_append, List.reverse_append, ← h.returned]
    rfl
  · rw [reports, List.filter_append, ← reports, hevents, List.flatMap_append, List.flatMap_singleton]
  · exfalso
    obtain ⟨hmem, call', hcall', hrunning⟩ := hother
    obtain ⟨hne, hbefore⟩ := (CallSystem.others_comeBack hcall (.inr hrunning)).mp hcall'
    exact hne (eq_of_runs hs ⟨hmem, call', hbefore, hrunning⟩ hcall hcompiling)

lemma Accounted.drawn (h : s.Accounted) (hs : s.numbered.Sound shop start) {i v : Nat}
    {call : Call α Failure} {job : Job} {answer : Except Failure α}
    (hcall : s.numbered.calls.calls[i]? = some call) (hphase : call.phase = .compiling v)
    (hjob : (i, job) ∈ s.numbered.jobs) :
    Accounted ⟨{ s.numbered with
        calls := s.numbered.calls.comeBack i call v (NumberedSystem.comesTo job answer) },
      s.log ++ job.closing answer, s.compilations ++ [.drawn job answer]⟩ := by
  have hruns : s.Runs i job := ⟨hjob, call, hcall, by rw [hphase]; rfl⟩
  refine h.comeBack hs hcall hphase (c := .drawn job answer) ?_
  rw [filter_closing, h.busy i job hruns, List.append_assoc, Compilation.reports]

lemma Accounted.unplaced (h : s.Accounted) (hs : s.numbered.Sound shop start) {i v : Nat}
    {call : Call α Failure} {reason : Fault} (hcall : s.numbered.calls.calls[i]? = some call)
    (hphase : call.phase = .compiling v) (hplace : shop.place call.cell = .error reason) :
    Accounted { s with
      numbered := { s.numbered with calls := s.numbered.calls.comeBack i call v (.error (.fault reason)) }
      compilations := s.compilations ++ [.unplaced reason] } := by
  have hcompiling : call.phase.isCompiling = true := by rw [hphase]; rfl
  -- the call that compiles drew no number
  have hidle : ∀ j job, ¬ s.Runs j job := by
    intro j job hruns
    obtain rfl := eq_of_runs hs hruns hcall hcompiling
    obtain ⟨version, -, place, number, n, hother, -⟩ := hs.current j job hruns.1 call v hcall hphase
    rw [hplace] at hother
    cases hother
  have hevents : s.reports ++ ([] : List Event).filter Event.isAboutCompiling =
      s.compilations.flatMap Compilation.reports ++ (.unplaced reason : Compilation α).reports :=
    congrArg (· ++ []) (h.idle hidle)
  have hback := h.comeBack hs hcall hphase hevents
  rwa [List.append_nil] at hback

/-- **Every step keeps the reports in order.** -/
lemma accounted_step (h : s.Accounted) (hs : s.numbered.Sound shop start) (hstep : Step shop s t) :
    t.Accounted := by
  cases hstep with
  | other calls hstep => exact h.other hs hstep
  | report e he => exact h.report he
  | draw i call v place version hcall hphase hplace hversion hnew => exact h.draw hs hcall hphase hnew
  | unplaced i call v reason version hcall hphase hplace hversion => exact h.unplaced hs hcall hphase hplace
  | comeBack i call v job answer hcall hphase hjob hanswer => exact h.drawn hs hcall hphase hjob

lemma accounted_of_reachable (h : Reachable shop start s) : s.Accounted := by
  induction h with
  | empty => exact accounted_empty
  | more hbefore hstep ih =>
      exact accounted_step ih (NumberedSystem.sound_of_reachable (numbered_of_reachable hbefore)) hstep

/-! ## How much was reported -/

lemma countP_isSuccess (cs : List (Compilation α)) :
    (cs.flatMap Compilation.reports).countP Event.isSuccess + cs.countP Compilation.fails = cs.length := by
  induction cs with
  | nil => rfl
  | cons c cs ih =>
      rw [List.flatMap_cons, List.countP_append, List.countP_cons, List.length_cons, ← ih]
      rcases c.told with ⟨hfails, -, h⟩ | ⟨job, m, f, reason, -, -, -, hfails, -, h⟩ |
        ⟨job, m, hfails, -, h⟩ | ⟨job, m, words, hfails, -, h⟩
      · simp [h, hfails]
        omega
      · have hcount : [job.started m].countP Event.isSuccess = 0 := rfl
        rw [h, hfails, hcount]
        simp
        omega
      · have hcount : [job.started m, job.compiled m].countP Event.isSuccess = 1 := rfl
        rw [h, hfails, hcount]
        simp
        omega
      · have hcount : [job.started m, job.failed words].countP Event.isSuccess = 0 := rfl
        rw [h, hfails, hcount]
        simp
        omega

lemma countP_isFailure (cs : List (Compilation α)) :
    (cs.flatMap Compilation.reports).countP Event.isFailure + cs.countP Compilation.isSilent =
      cs.countP Compilation.fails := by
  induction cs with
  | nil => rfl
  | cons c cs ih =>
      rw [List.flatMap_cons, List.countP_append, List.countP_cons, List.countP_cons, ← ih]
      rcases c.told with ⟨hfails, hsilent, h⟩ | ⟨job, m, f, reason, -, -, -, hfails, hsilent, h⟩ |
        ⟨job, m, hfails, hsilent, h⟩ | ⟨job, m, words, hfails, hsilent, h⟩
      · simp [h, hfails, hsilent]
        omega
      · have hcount : [job.started m].countP Event.isFailure = 0 := rfl
        rw [h, hfails, hsilent, hcount]
        simp
        omega
      · have hcount : [job.started m, job.compiled m].countP Event.isFailure = 0 := rfl
        rw [h, hfails, hsilent, hcount]
        simp
      · have hcount : [job.started m, job.failed words].countP Event.isFailure = 1 := rfl
        rw [h, hfails, hsilent, hcount]
        simp
        omega

/-- The first report of compilations is that one begins. -/
lemma isStart_of_mem_head? (cs : List (Compilation α)) :
    ∀ e ∈ (cs.flatMap Compilation.reports).head?, e.isStart = true := by
  induction cs with
  | nil => nofun
  | cons c cs ih =>
      rw [List.flatMap_cons]
      rcases c.told with ⟨-, -, h⟩ | ⟨job, m, f, reason, -, -, -, -, -, h⟩ | ⟨job, m, -, -, h⟩ |
        ⟨job, m, words, -, -, h⟩
      · rw [h]
        exact ih
      all_goals
        rw [h]
        rintro _ ⟨⟩
        rfl

/-- A compilation begins with the report, and the next report is how it ends. Behind that one, another one may
begin. -/
def EndsBefore (e : Event) (after : List Event) : Prop :=
  ∃ (job : Job) (m : GeneratedModule) (f : Event) (rest : List Event), e = job.started m ∧
    after = f :: rest ∧ (f = job.compiled m ∨ ∃ words, f = job.failed words) ∧
    ∀ g ∈ rest.head?, g.isStart = true

/-- One of the compilations begins with the report, the back end refuses it with a failure that cannot be put
in words, and the next report is that another one begins. -/
def StopsBefore (cs : List (Compilation α)) (e : Event) (after : List Event) : Prop :=
  ∃ (job : Job) (m : GeneratedModule) (f : Failure) (reason : Fault), .drawn job (.error f) ∈ cs ∧
    job.module = .ok m ∧ Job.failureWords f = .error reason ∧ e = job.started m ∧
    ∀ g ∈ after.head?, g.isStart = true

/-- A compilation of which two reports are made ends with the second. -/
lemma endsBefore_of_cons {job : Job} {cs : List (Compilation α)} {m : GeneratedModule} {f e : Event}
    {before after : List Event} {P : Prop} (hf : f = job.compiled m ∨ ∃ words, f = job.failed words)
    (h : job.started m :: f :: cs.flatMap Compilation.reports = before ++ e :: after)
    (he : e.isStart = true)
    (hrest : ∀ before', cs.flatMap Compilation.reports = before' ++ e :: after → EndsBefore e after ∨ P) :
    EndsBefore e after ∨ P := by
  cases before with
  | nil =>
      obtain ⟨rfl, rfl⟩ := List.cons.inj h
      exact .inl ⟨job, m, f, _, rfl, rfl, hf, isStart_of_mem_head? cs⟩
  | cons _ before =>
      have h' := (List.cons.inj h).2
      cases before with
      | nil =>
          obtain ⟨rfl, -⟩ := List.cons.inj h'
          rcases hf with rfl | ⟨words, rfl⟩ <;> cases he
      | cons _ before => exact hrest before (List.cons.inj h').2

/-- **Whatever begins is followed by how it ends**, unless there are no words for that. -/
lemma endsBefore_of_isStart (cs : List (Compilation α)) {before after : List Event} {e : Event}
    (h : cs.flatMap Compilation.reports = before ++ e :: after) (he : e.isStart = true) :
    EndsBefore e after ∨ StopsBefore cs e after := by
  induction cs generalizing before with
  | nil => simp at h
  | cons c cs ih =>
      have hlater (before' : List Event) (h' : cs.flatMap Compilation.reports = before' ++ e :: after) :
          EndsBefore e after ∨ StopsBefore (c :: cs) e after := by
        refine (ih h').imp_right ?_
        rintro ⟨job, m, f, reason, hmem, hstops⟩
        exact ⟨job, m, f, reason, List.mem_cons_of_mem c hmem, hstops⟩
      rw [List.flatMap_cons] at h
      rcases c.told with ⟨-, -, hc⟩ | ⟨job, m, f, reason, rfl, hmodule, hwords, -, -, hc⟩ |
        ⟨job, m, -, -, hc⟩ | ⟨job, m, words, -, -, hc⟩
      · rw [hc] at h
        exact hlater before h
      · rw [hc] at h
        cases before with
        | nil =>
            obtain ⟨rfl, rfl⟩ := List.cons.inj h
            exact .inr ⟨job, m, f, reason, List.mem_cons_self, hmodule, hwords, rfl,
              isStart_of_mem_head? cs⟩
        | cons _ before => exact hlater before (List.cons.inj h).2
      · rw [hc] at h
        exact endsBefore_of_cons (.inl rfl) h he hlater
      · rw [hc] at h
        exact endsBefore_of_cons (.inr ⟨words, rfl⟩) h he hlater

/-- When no compilation goes on, all that was reported belongs to those that came back. -/
lemma reports_eq (h : Reachable shop start s) (hfree : s.numbered.calls.records.holder = none) :
    s.reports = s.compilations.flatMap Compilation.reports := by
  have hs := NumberedSystem.sound_of_reachable (numbered_of_reachable h)
  refine (accounted_of_reachable h).idle fun i job ⟨_, call, hcall, hcompiling⟩ => ?_
  -- nobody compiles without the lock
  have hheld := ((CallSystem.sound_of_reachable hs.calls).lock i call hcall).mp
    (Phase.isLocked_of_isCompiling hcompiling)
  rw [hfree] at hheld
  cases hheld

/-- **Compilations and their reports.** Whatever the order of the steps of any number of calls, with cells
made and edited between them and other things reported: when no compilation goes on,

* what has been reported of compilations is what each of those that came back reports, in this order;
* as many are reported as successful as were counted and did not fail;
* as many are reported as failed as were counted as failures, without those that stay silent: whose cell has
  no place that can be written, from whose source no module could be generated, or which the back end refused
  with a failure that cannot be put in words; so they are as many exactly if there were none of these;
* every report that a compilation begins is followed by the one report of how the same compilation ends,
  before another one begins, unless the back end refused it with a failure that cannot be put in words: then
  nothing is reported before another one begins. -/
theorem reports_of_reachable (h : Reachable shop start s)
    (hfree : s.numbered.calls.records.holder = none) :
    s.reports = s.compilations.flatMap Compilation.reports ∧
      s.reports.countP Event.isSuccess + s.numbered.calls.records.failures =
        s.numbered.calls.records.compiles ∧
      s.reports.countP Event.isFailure + s.compilations.countP Compilation.isSilent =
        s.numbered.calls.records.failures ∧
      (s.reports.countP Event.isFailure = s.numbered.calls.records.failures ↔
        ∀ c ∈ s.compilations, c.isSilent = false) ∧
      ∀ (before after : List Event) (e : Event), s.reports = before ++ e :: after → e.isStart = true →
        EndsBefore e after ∨ StopsBefore s.compilations e after := by
  have hs := NumberedSystem.sound_of_reachable (numbered_of_reachable h)
  have hcalls := CallSystem.sound_of_reachable hs.calls
  have haccounted := accounted_of_reachable h
  have hwork : s.numbered.calls.work = .start := by
    rw [CallSystem.work, hfree]
    rfl
  have hreports := reports_eq h hfree
  have hcompiles : s.numbered.calls.records.compiles = s.compilations.length := by
    have hreturned := hcalls.countedReturned
    rw [hwork, CallSystem.countP_isReturned, haccounted.returned] at hreturned
    rw [hcalls.countedBegan, ← hreturned]
    simp [Phase.isCompiling]
  have hfailures : s.numbered.calls.records.failures = s.compilations.countP Compilation.fails := by
    have hfailed := hcalls.countedFailures
    rw [hwork, CallSystem.countP_isFailure, haccounted.returned, List.countP_reverse, List.countP_map]
      at hfailed
    exact hfailed
  have hsuccess := countP_isSuccess s.compilations
  have hfailure := countP_isFailure s.compilations
  rw [← hreports] at hsuccess hfailure
  refine ⟨hreports, by omega, by omega, ?_, fun before after e heq he => ?_⟩
  · rw [hfailures, ← hfailure, Nat.left_eq_add, List.countP_eq_zero]
    exact forall₂_congr fun c _ => Bool.eq_false_iff.symm
  · exact endsBefore_of_isStart s.compilations (hreports.symm.trans heq) he

/-! ## Orders that can be written down -/

/-- What is reported while a schedule is played: the modules of the compilations that draw a number. -/
lemma reachable_of_play (entries : List NumberedSystem.Entry) {n : NumberedSystem α}
    (hs : Reachable shop start s) (h : NumberedSystem.play shop entries s.numbered = some n) :
    ∃ drawn, n.jobs = s.numbered.jobs ++ drawn ∧
      Reachable shop start ⟨n, s.log ++ drawn.flatMap (·.2.opening), s.compilations⟩ := by
  induction entries generalizing s with
  | nil =>
      obtain rfl := Option.some.inj h
      exact ⟨[], (List.append_nil _).symm, by simpa using hs⟩
  | cons e entries ih =>
      obtain ⟨u, hu, h⟩ := Option.bind_eq_some_iff.mp h
      cases e with
      | other m =>
          rw [NumberedSystem.enter] at hu
          split at hu
          · cases hu
          · rename_i hm
            obtain ⟨calls, hcalls, rfl⟩ := Option.map_eq_some_iff.mp hu
            exact ih (s := { s with numbered := { s.numbered with calls := calls } }) (hs.more
              (.other s calls (CallSystem.step_of_quiet_move m (Bool.eq_false_iff.mpr hm) hcalls))) h
      | draw i =>
          rw [NumberedSystem.enter] at hu
          split at hu
          · rename_i cell captured v hcall
            split at hu
            · cases hu
            · rename_i place hplace
              split at hu
              · cases hu
              · rename_i hnew
                obtain ⟨version, hversion, rfl⟩ := Option.map_eq_some_iff.mp hu
                obtain ⟨drawn, hjobs, hreach⟩ :=
                  ih (hs.more (.draw s i _ v place version hcall rfl hplace hversion hnew)) h
                refine ⟨_, hjobs.trans (List.append_assoc _ _ _), ?_⟩
                rw [List.flatMap_append, ← List.append_assoc]
                simpa using hreach
          · cases hu

/-- Where a schedule that is played leads, or where it began. -/
lemma Reachable.played (hs : Reachable shop start s) (entries : List NumberedSystem.Entry) : ∃ log,
    Reachable shop start ⟨(NumberedSystem.play shop entries s.numbered).getD s.numbered, log,
      s.compilations⟩ := by
  cases h : NumberedSystem.play shop entries s.numbered with
  | none => exact ⟨_, hs⟩
  | some n =>
      obtain ⟨drawn, -, hreach⟩ := reachable_of_play entries hs h
      exact ⟨_, hreach⟩

/-- A compilation comes back with a result that is known. -/
lemma Reachable.cameBack {i v : Nat} {call : Call α Failure} {job : Job} {result : Except Failure α}
    (answer : Except Failure α) (hs : Reachable shop start s) (hcall : s.numbered.calls.calls[i]? = some call)
    (hphase : call.phase = .compiling v) (hjob : (i, job) ∈ s.numbered.jobs)
    (hanswer : ∀ m, job.module = .ok m → shop.answers m answer)
    (hresult : NumberedSystem.comesTo job answer = result) :
    Reachable shop start ⟨{ s.numbered with calls := s.numbered.calls.comeBack i call v result },
      s.log ++ job.closing answer, s.compilations ++ [.drawn job answer]⟩ :=
  hresult ▸ hs.more (.comeBack s i call v job answer hcall hphase hjob hanswer)

open NumberedSystem

/-- The compiler of two cells, whose back end may refuse any module. -/
def refusing : Workshop Text := { twins with answers := fun _ _ => True }

/-- Why the back end refuses the last module. -/
def refused : Failure := .fault .syntaxError

lemma play_refusing (entries : List Entry) (s : NumberedSystem Text) :
    play refusing entries s = play twins entries s := by
  induction entries generalizing s with
  | nil => rfl
  | cons e entries ih =>
      have henter : enter refusing s e = enter twins s e := by cases e <;> rfl
      rw [play, play, henter]
      exact congrArg _ (funext ih)

/-- The first compilation came back, and the lock is free. -/
def settled : NumberedSystem Text := (play twins (steps 0 5) failed).getD failed

/-- The back end refuses the last module. -/
def refusedThird : NumberedSystem Text :=
  { thrice with calls := thrice.calls.comeBack 2 ⟨1, some 1, .compiling 1⟩ 1 (.error refused) }

/-- The lock is free again. -/
def settledThird : NumberedSystem Text := (play twins (steps 2 5) refusedThird).getD refusedThird

lemma comesTo_firstJob (answer : Except Failure Text) : comesTo firstJob answer = .error unclosed := by
  rw [comesTo, Job.run, module_firstJob]
  rfl

lemma reports_firstJob (answer : Except Failure Text) : (Compilation.drawn firstJob answer).reports = [] := by
  simp only [Compilation.reports, Job.opening, Job.closing, module_firstJob, List.append_nil]

/-- The first compilation fails before the back end is asked. -/
lemma exists_reachable_failed (answer : Except Failure Text) :
    ∃ log, Reachable refusing 7 ⟨failed, log, [.drawn firstJob answer]⟩ := by
  obtain ⟨log, h⟩ := (Reachable.empty : Reachable refusing 7 _).played
    ([.other (.make "$(".toList 1), .other (.make "~a~ = ~b~".toList 1), .other (.call 0)] ++ steps 0 8 ++
      [.draw 0])
  rw [play_refusing] at h
  have hfailing : Reachable refusing 7 ⟨failing, log, []⟩ := h
  exact ⟨_, hfailing.cameBack answer rfl rfl List.mem_cons_self (fun _ _ => trivial)
    (comesTo_firstJob answer)⟩

lemma exists_reachable_settled (answer : Except Failure Text) :
    ∃ log, Reachable refusing 7 ⟨settled, log, [.drawn firstJob answer]⟩ := by
  obtain ⟨log, h⟩ := exists_reachable_failed answer
  obtain ⟨log', h'⟩ := h.played (steps 0 5)
  rw [play_refusing] at h'
  exact ⟨log', h'⟩

/-- **A failure that is not reported.** The only compilation failed, and nothing was reported of it. -/
theorem reports_of_reachable_settled : ∃ s : ReportingSystem Text, Reachable refusing 7 s ∧
    s.numbered.calls.records.holder = none ∧ s.numbered.calls.records.failures = 1 ∧
    s.reports.countP Event.isFailure = 0 := by
  obtain ⟨log, h⟩ := exists_reachable_settled (.ok [])
  refine ⟨_, h, rfl, rfl, ?_⟩
  rw [reports_eq h rfl, List.flatMap_singleton, reports_firstJob]
  rfl

lemma reports_secondJob (a : Text) : (Compilation.drawn secondJob (.ok a)).reports =
    [secondJob.started secondModule, secondJob.compiled secondModule] := by
  simp only [Compilation.reports, Job.opening, Job.closing, module_secondJob]
  rfl

lemma reports_thirdJob : (.drawn thirdJob (.error refused) : Compilation Text).reports =
    [thirdJob.started thirdModule, thirdJob.failed Fault.syntaxError.kind] := by
  simp only [Compilation.reports, Job.opening, Job.closing, module_thirdJob]
  rfl

/-- The second succeeds. -/
lemma exists_reachable_compiled (answer : Except Failure Text) : ∃ log, Reachable refusing 7
    ⟨compiled, log, [.drawn firstJob answer, .drawn secondJob (.ok secondModule.text)]⟩ := by
  obtain ⟨log, h⟩ := exists_reachable_failed answer
  obtain ⟨log', h'⟩ := h.played (steps 0 5 ++ [.other (.edit 0 "~a~ = 1".toList 2), .other (.call 0),
    .other (.call 1)] ++ steps 1 8 ++ steps 2 3 ++ [.draw 1])
  rw [play_refusing] at h'
  have hcompiling : Reachable refusing 7 ⟨compiling, log', [.drawn firstJob answer]⟩ := h'
  exact ⟨_, hcompiling.cameBack (.ok secondModule.text) rfl rfl
    (List.mem_cons_of_mem _ List.mem_cons_self) (fun _ _ => trivial)
    (by rw [comesTo, Job.run, module_secondJob]; rfl)⟩

/-- The back end refuses the third. -/
lemma exists_reachable_settledThird (answer : Except Failure Text) : ∃ log, Reachable refusing 7
    ⟨settledThird, log,
      [.drawn firstJob answer, .drawn secondJob (.ok secondModule.text),
        .drawn thirdJob (.error refused)]⟩ := by
  obtain ⟨log, h⟩ := exists_reachable_compiled answer
  obtain ⟨log', h'⟩ := h.played (steps 1 3 ++ steps 2 5 ++ [.draw 2])
  rw [play_refusing] at h'
  have hthrice : Reachable refusing 7
    ⟨thrice, log', [.drawn firstJob answer, .drawn secondJob (.ok secondModule.text)]⟩ := h'
  have hjob : (2, thirdJob) ∈ thrice.jobs :=
    List.mem_cons_of_mem _ (List.mem_cons_of_mem _ List.mem_cons_self)
  have hback : Reachable refusing 7 ⟨refusedThird, _, _⟩ :=
    hthrice.cameBack (.error refused) rfl rfl hjob (fun _ _ => trivial)
      (by rw [comesTo, Job.run, module_thirdJob]; rfl)
  obtain ⟨log'', h''⟩ := hback.played (steps 2 5)
  rw [play_refusing] at h''
  exact ⟨log'', h''⟩

/-- Three compilations: the first fails before the back end is asked, the second succeeds, and the back end
refuses the third. -/
theorem reports_of_reachable_refused : ∃ s : ReportingSystem Text, Reachable refusing 7 s ∧
    s.numbered.calls.records.holder = none ∧
    s.reports = [secondJob.started secondModule, secondJob.compiled secondModule,
      thirdJob.started thirdModule, thirdJob.failed Fault.syntaxError.kind] ∧
    s.numbered.calls.records.compiles = 3 ∧ s.numbered.calls.records.failures = 2 := by
  obtain ⟨log, h⟩ := exists_reachable_settledThird (.ok [])
  obtain ⟨hreports, -⟩ := reports_of_reachable h rfl
  refine ⟨_, h, rfl, hreports.trans ?_, rfl, rfl⟩
  simp only [List.flatMap_cons, List.flatMap_nil, reports_firstJob, reports_secondJob, reports_thirdJob]
  rfl

end ReportingSystem

end FormulaCube
