import FormulaCube.Proofs.Calls.Preservation
import FormulaCube.Proofs.Calls.Schedule

/-!
# A version is compiled once, or until its failure has words

What the invariant says to those who call. A version has one outcome, an artifact or a failure with
its words, and all calls for it agree on that outcome. Only an attempt whose failure could not be put
in words leaves the version without one: its call ends with the reason for that, and the next call
compiles the version again.

* `CallSystem.Wordless` — a failure of the version that could not be put in words, and why not.
* `CallSystem.Told` — how a call ends that captured a version: with the one artifact that is
  kept, with the one failure, or with the reason why the failure has no words.
* `CallSystem.told_of_done` — every finished call ended that way, for the version that it captured.
* `CallSystem.Quick` — where a call stands that captured a version with an outcome, which it reads
  without the lock.
* `CallSystem.compiled_until_worded` — the main result.
* `CallSystem.mute_compiled_twice` — a version that is compiled twice.
-/

namespace FormulaCube

namespace CallSystem

variable {α ε : Type} {describe : Nat → Text → ε → Except ε Text}
  {compiles : Nat → Text → Except ε α → Prop} {s t u : CallSystem α ε}

/-! ## How calls end -/

/-- The version failed for the cause `e`, and `reason` is why its cell has no words for that. -/
def Wordless (describe : Nat → Text → ε → Except ε Text) (s : CallSystem α ε) (v : Nat)
    (e reason : ε) : Prop :=
  .error e ∈ s.results v ∧ ∃ c, .made c v ∈ s.deeds ∧ describe c (s.sourceOf v) e = .error reason

/-- This is how a call ends that captured the version: with the artifact that came back when the
version was last compiled, or with the words and the cause of the failure that did, and never with a
mixture of the two; or with the reason why a failure of the version has no words. -/
def Told (describe : Nat → Text → ε → Except ε Text) (s : CallSystem α ε) (v : Nat)
    (o : Outcome α ε) : Prop :=
  ∃ version, s.version? v = some version ∧
    ((∃ a, o = .artifact a ∧ version.artifact = some a ∧ version.words = none ∧
        (s.results v).head? = some (.ok a)) ∨
      (∃ words e, o = .failed v words (some e) ∧ version.words = some words ∧
        version.cause = some e ∧ version.artifact = none ∧
        (s.results v).head? = some (.error e)) ∨
      ∃ e reason, o = .raised reason ∧ s.Wordless describe v e reason)

/-- Two calls that captured one version end alike, unless a failure has no words for one of them. -/
lemma Told.eq_or_raised {v : Nat} {o o' : Outcome α ε} (h : s.Told describe v o)
    (h' : s.Told describe v o') :
    o = o' ∨ (∃ reason, o = .raised reason) ∨ ∃ reason, o' = .raised reason := by
  obtain ⟨version, hversion, h⟩ := h
  obtain ⟨version', hversion', h'⟩ := h'
  rw [hversion] at hversion'
  cases hversion'
  rcases h with ⟨a, rfl, ha, -⟩ | ⟨words, e, rfl, hw, he, hnone, -⟩ | ⟨e, reason, rfl, -⟩
  case inr.inr => exact Or.inr (Or.inl ⟨reason, rfl⟩)
  all_goals
    rcases h' with ⟨a', rfl, ha', hw', -⟩ | ⟨words', e', rfl, hw', he', hnone', -⟩ |
      ⟨e', reason', rfl, -⟩
    case inr.inr => exact Or.inr (Or.inr ⟨reason', rfl⟩)
  · rw [ha] at ha'
    cases ha'
    exact Or.inl rfl
  · rw [ha] at hnone'
    cases hnone'
  · rw [hw] at hw'
    cases hw'
  · rw [hw] at hw'
    rw [he] at he'
    cases hw'
    cases he'
    exact Or.inl rfl

/-- A call that ends knows the outcome of the version that it captured, or why there is none. -/
lemma told_of_done (hs : s.Sound describe compiles) {i : Nat} {call : Call α ε}
    {o : Outcome α ε} (hcall : s.calls[i]? = some call) (hdone : call.phase = .done o) :
    ∃ v, call.version = some v ∧ s.Told describe v o := by
  rcases hs.fits i call hcall with
    ⟨-, hstart⟩ | ⟨v, acc, hv, hmade, hacc, habout | ⟨-, o', ho, htells⟩⟩
  · rw [hdone] at hstart
    cases hstart
  · rw [hdone] at habout
    cases habout
  · rw [hdone] at ho
    cases ho
    obtain ⟨version, hversion, heq⟩ := account?_eq_some hacc
    have hallows := hs.accountOf hmade hacc
    refine ⟨v, hv, version, hversion, ?_⟩
    cases htells with
    | @artifact a ha =>
        obtain ⟨past, -, hkept⟩ := hallows.eq_kept ha
        have hfields := hkept.symm.trans heq
        simp only [Account.kept, Account.mk.injEq] at hfields
        obtain ⟨hartifact, hwords, -, -, -, hresults⟩ := hfields
        refine Or.inl ⟨a, rfl, hartifact.symm, hwords.symm, ?_⟩
        rw [← hresults]
        rfl
    | @failed words e hw he =>
        obtain ⟨e', past, -, he', hnone, -, hresults⟩ := hallows.of_words hw
        rw [he] at he'
        cases he'
        subst heq
        refine Or.inr (Or.inl ⟨words, e, rfl, hw, he, hnone, ?_⟩)
        rw [show s.results v = _ from hresults]
        rfl
    | @raised e reason hresult hreason =>
        subst heq
        exact Or.inr (Or.inr ⟨e, reason, rfl, hresult, call.cell, hmade, hreason⟩)

/-! ## Versions with an outcome -/

/-- Where a call stands that captured a version with an outcome. It neither took the lock nor handed
anything over, and ends within two steps. -/
structure Quick (s : CallSystem α ε) (i v : Nat) : Prop where
  /-- The call did not take the lock. -/
  free : ∀ d ∈ s.deeds, d.entersFor i = false
  /-- It reads an outcome that is there. -/
  stands : ∃ call version, s.calls[i]? = some call ∧ s.version? v = some version ∧
    ((call.phase = .readArtifact v ∧
        (version.artifact.isSome = true ∨ version.words.isSome = true)) ∨
      (call.phase = .readFailure v ∧ version.words.isSome = true) ∨
      ∃ o, call.phase = .done o)

/-- A call in this phase is done, or about to read an outcome that the version has. -/
def ReadsOutcome (v : Nat) (version : Version α ε) (p : Phase α ε) : Prop :=
  (p = .readArtifact v ∧ (version.artifact.isSome = true ∨ version.words.isSome = true)) ∨
    (p = .readFailure v ∧ version.words.isSome = true) ∨ ∃ o, p = .done o

section ReadsOutcome

variable {v me current : Nat} {version version' : Version α ε} {p p' : Phase α ε}
  {records records' : Records α ε} {words : Nat → ε → Except ε Text}

/-- An outcome that is there stays there. -/
lemma ReadsOutcome.keeps (h : ReadsOutcome v version p)
    (hartifact : version.artifact.isSome = true → version'.artifact.isSome = true)
    (hwords : version.words.isSome = true → version'.words.isSome = true) :
    ReadsOutcome v version' p := by
  rcases h with ⟨hp, hpublished⟩ | ⟨hp, hfailed⟩ | hdone
  · exact Or.inl ⟨hp, hpublished.imp hartifact hwords⟩
  · exact Or.inr (Or.inl ⟨hp, hwords hfailed⟩)
  · exact Or.inr (Or.inr hdone)

/-- The call reads the outcome in its next step, or in the one after it. -/
lemma ReadsOutcome.step (h : ReadsOutcome v version p)
    (hstep : p.step me current words records = some (p', records'))
    (hversion : records.version? v = some version) : ReadsOutcome v version p' := by
  rcases h with ⟨rfl, hpublished⟩ | ⟨rfl, hfailed⟩ | ⟨o, rfl⟩
  · rcases Phase.step_readArtifact hstep hversion with hdone | ⟨rfl, hnone⟩
    · exact Or.inr (Or.inr hdone)
    · refine Or.inr (Or.inl ⟨rfl, hpublished.resolve_left ?_⟩)
      rw [hnone]
      exact Bool.false_ne_true
  · rcases Phase.step_readFailure hstep hversion with hdone | ⟨-, hnone⟩
    · exact Or.inr (Or.inr hdone)
    · rw [hnone] at hfailed
      cases hfailed
  · cases hstep

/-- Reading an outcome leaves no trace. -/
lemma ReadsOutcome.deeds (h : ReadsOutcome v version p) (me current : Nat) :
    p.deeds me current = [] := by
  rcases h with ⟨rfl, -⟩ | ⟨rfl, -⟩ | ⟨o, rfl⟩ <;> rfl

lemma ReadsOutcome.ne_compiling (h : ReadsOutcome v version p) (w : Nat) : p ≠ .compiling w := by
  rcases h with ⟨rfl, -⟩ | ⟨rfl, -⟩ | ⟨o, rfl⟩ <;> exact nofun

end ReadsOutcome

/-- **A call that captured a version with an outcome goes on without the lock**, whatever the others
do in the meantime. -/
lemma quick_step (h : Step describe compiles s t) {i v : Nat} (hq : s.Quick i v) : t.Quick i v := by
  obtain ⟨hfree, call, version, hcall, hversion, hstands⟩ := hq
  have hreads : ReadsOutcome v version call.phase := hstands
  cases h with
  | make source number =>
      exact ⟨List.forall_mem_cons.mpr ⟨rfl, hfree⟩, call, version, hcall,
        version?_withVersion_of_version? s.cells.size hversion, hreads⟩
  | edit cell source number hcell =>
      exact ⟨List.forall_mem_cons.mpr ⟨rfl, hfree⟩, call, version, hcall,
        version?_withVersion_of_version? cell hversion, hreads⟩
  | call cell hcell =>
      have hi : i < s.calls.size := (Array.getElem?_eq_some_iff.mp hcall).1
      exact ⟨hfree, call, version, (calls_push _ i hi).trans hcall, hversion, hreads⟩
  | comeBack j other w version' result hother hphase hversion' hresult =>
      have hij : j ≠ i := by
        rintro rfl
        obtain rfl : call = other := Option.some.inj (hcall.symm.trans hother)
        exact hreads.ne_compiling w hphase
      refine ⟨List.forall_mem_cons.mpr ⟨rfl, hfree⟩, call, version, ?_, hversion, hreads⟩
      rw [calls_comeBack hother, if_neg hij]
      exact hcall
  | advance j other current phase records hother hcurrent hstep =>
      have hj : j < s.calls.size := (Array.getElem?_eq_some_iff.mp hother).1
      obtain ⟨version', hversion', -, hartifact, hwords⟩ := version?_goOn hstep hversion
      by_cases hij : j = i
      · subst hij
        obtain rfl : call = other := Option.some.inj (hcall.symm.trans hother)
        refine ⟨?_, _, version', (calls_goOn hj j).trans (if_pos rfl), hversion',
          (hreads.step hstep hversion).keeps hartifact hwords⟩
        rw [goOn, hreads.deeds]
        exact hfree
      · refine ⟨List.forall_mem_append.mpr ⟨fun d hd => Phase.entersFor_eq_false hd hij, hfree⟩,
          call, version', ?_, hversion', hreads.keeps hartifact hwords⟩
        exact (calls_goOn hj i).trans ((if_neg hij).trans hcall)

lemma quick_of_steps (h : Steps describe compiles s t) {i v : Nat} (hq : s.Quick i v) :
    t.Quick i v := by
  induction h with
  | none => exact hq
  | more _ hstep ih => exact quick_step hstep ih

/-- The step with which a call captures a version is its first one. -/
lemma start_of_captured (h : Step describe compiles s t) {i v : Nat}
    (hcaptured : t.deeds = .captured i v :: s.deeds) :
    ∃ call phase records, s.calls[i]? = some call ∧ call.phase = .start ∧
      s.cells[call.cell]? = some v ∧
      call.phase.step i v (fun w => describe call.cell (s.sourceOf w)) s.records =
        some (phase, records) ∧ t = s.goOn i call v phase records := by
  cases h with
  | make source number => cases (List.cons.inj hcaptured).1
  | edit cell source number hcell => cases (List.cons.inj hcaptured).1
  | call cell hcell =>
      have hlength := congrArg List.length hcaptured
      rw [List.length_cons] at hlength
      exact absurd hlength (Nat.ne_of_lt (Nat.lt_succ_self _))
  | comeBack j other w version result hother hphase hversion hresult =>
      cases (List.cons.inj hcaptured).1
  | advance j other current phase records hother hcurrent hstep =>
      have hdeeds : other.phase.deeds j current = [.captured i v] :=
        List.append_cancel_right (show _ ++ s.deeds = [_] ++ s.deeds from hcaptured)
      obtain ⟨hstart, rfl, rfl⟩ := Phase.eq_start_of_deeds hdeeds
      exact ⟨other, phase, records, hother, hstart, hcurrent, hstep, rfl⟩

/-- A call that captures a version with an outcome will not take the lock. -/
lemma quick_of_captured (hs : s.Sound describe compiles) (h : Step describe compiles s t)
    {i v : Nat}
    (hcaptured : t.deeds = .captured i v :: s.deeds) {version : Version α ε}
    (hversion : s.version? v = some version)
    (hpublished : version.artifact.isSome = true ∨ version.words.isSome = true) : t.Quick i v := by
  obtain ⟨call, phase, records, hcall, hstart, -, hstep, rfl⟩ := start_of_captured h hcaptured
  have hi : i < s.calls.size := (Array.getElem?_eq_some_iff.mp hcall).1
  obtain ⟨version', hversion', -, hartifact, hwords⟩ := version?_goOn hstep hversion
  refine ⟨?_, _, version', (calls_goOn hi i).trans (if_pos rfl), hversion', Or.inl ⟨?_, ?_⟩⟩
  · intro d hd
    rw [hcaptured] at hd
    rcases List.mem_cons.mp hd with rfl | hd
    · rfl
    · -- a call that took the lock is not at its start
      cases henters : d.entersFor i with
      | false => rfl
      | true =>
          obtain ⟨other, hother, hpast⟩ := hs.entered i ⟨d, hd, henters⟩
          rw [hcall] at hother
          cases hother
          rw [hstart] at hpast
          cases hpast
  · rw [hstart] at hstep
    cases hstep
    rfl
  · exact hpublished.imp hartifact hwords

/-! ## The main result -/

/-- The failures of a version that are over, and how often it was handed over because of them. -/
lemma begun_le_of_sound (hs : s.Sound describe compiles) (v : Nat) :
    ∃ past : List ε, (∀ e ∈ past, ∃ reason, s.Wordless describe v e reason) ∧
      s.begun v ≤ past.length + 1 ∧ past.map .error <:+ s.results v := by
  rcases Nat.lt_or_ge v s.records.versions.size with hv | hv
  · obtain ⟨acc, hacc⟩ := account?_of_lt hv
    obtain ⟨version, -, rfl⟩ := account?_eq_some hacc
    obtain ⟨c, hmade, hallows⟩ := hs.accounts v _ hacc
    obtain ⟨past, hpast, hbegun, hresults⟩ := hallows.begun_le
    refine ⟨past, fun e he => ?_, hbegun, hresults⟩
    obtain ⟨reason, hreason⟩ := hpast e he
    exact ⟨reason, hresults.subset (List.mem_map_of_mem he), c, hmade, hreason⟩
  · refine ⟨[], List.forall_mem_nil _, ?_, List.nil_suffix⟩
    rw [(hs.unseen v hv).1]
    exact Nat.zero_le _

/-- **A version is compiled until it has an outcome, and all its calls agree.** Whatever the order of
the steps of any number of calls, with cells made and edited between them:

* a version is handed over to be compiled once, and once more after each failure that could not be
  put in words;
* every finished call captured a version and ended with its one artifact, with its one failure, or
  with the reason why a failure of it has no words;
* any two that captured the same version and ended with its artifact or its failure ended alike;
* a call that captures a version which has an outcome then neither takes the lock nor hands anything
  over;
* while the lock is free, the compilations that were begun, and that came back, are as many as are
  counted, and so are those that came back with a failure. -/
theorem compiled_until_worded (h : Reachable describe compiles s) :
    (∀ v, ∃ past : List ε, (∀ e ∈ past, ∃ reason, s.Wordless describe v e reason) ∧
      s.begun v ≤ past.length + 1 ∧ past.map .error <:+ s.results v) ∧
    (∀ (i : Nat) (call : Call α ε) (o : Outcome α ε), s.calls[i]? = some call →
      call.phase = .done o → ∃ v, call.version = some v ∧ s.Told describe v o) ∧
    (∀ (i j : Nat) (call other : Call α ε) (o o' : Outcome α ε), s.calls[i]? = some call →
      s.calls[j]? = some other → call.version = other.version → call.phase = .done o →
      other.phase = .done o' →
      o = o' ∨ (∃ reason, o = .raised reason) ∨ ∃ reason, o' = .raised reason) ∧
    (∀ (i v : Nat) (version : Version α ε) (t u : CallSystem α ε), s.version? v = some version →
      version.artifact.isSome = true ∨ version.words.isSome = true →
      Step describe compiles s t → t.deeds = .captured i v :: s.deeds →
      Steps describe compiles t u → ∀ d ∈ u.deeds, d.entersFor i = false) ∧
    (s.records.holder = none →
      s.records.compiles = s.deeds.countP Deed.isBegan ∧
      s.records.compiles = s.deeds.countP Deed.isReturned ∧
      s.records.failures = s.deeds.countP Deed.isFailure) := by
  have hs := sound_of_reachable h
  refine ⟨begun_le_of_sound hs, fun i call o hcall hdone => told_of_done hs hcall hdone, ?_, ?_, ?_⟩
  · intro i j call other o o' hcall hother hsame hdone hdone'
    obtain ⟨v, hv, htold⟩ := told_of_done hs hcall hdone
    obtain ⟨w, hw, htold'⟩ := told_of_done hs hother hdone'
    rw [hv, hw] at hsame
    cases hsame
    exact htold.eq_or_raised htold'
  · intro i v version t u hversion hpublished hstep hcaptured hsteps
    exact (quick_of_steps hsteps (quick_of_captured hs hstep hcaptured hversion hpublished)).free
  · intro hfree
    have hwork : s.work = .start := by
      rw [work, hfree]
      rfl
    have hreturned := hs.countedReturned
    have hfailures := hs.countedFailures
    rw [hwork] at hreturned hfailures
    exact ⟨hs.countedBegan, hs.countedBegan.trans hreturned.symm, hfailures⟩

/-! ## Two orders of steps -/

/-- Two calls for one cell race, an edit comes while the compilation goes on, a third call compiles
the new source and fails, and a fourth begins. -/
def race : List Move :=
  [.make ['a'] 1, .call 0, .call 0, .advance 0, .advance 1, .advance 0, .advance 1, .advance 0,
    .advance 1, .advance 0, .advance 0, .advance 0, .advance 0, .advance 0, .edit 0 ['b'] 2,
    .call 0,
    .advance 2, .comeBack 0, .advance 0, .advance 0, .advance 0, .advance 1, .advance 1, .advance 1,
    .advance 2, .advance 2, .advance 2, .advance 2, .advance 2, .advance 2, .advance 2, .comeBack 2,
    .advance 2, .advance 2, .advance 2, .advance 2, .advance 2, .call 0]

/-- The steps of a call whose version is rejected. -/
def rejection (i : Nat) : List Move :=
  List.replicate 8 (.advance i) ++ .comeBack i :: List.replicate 5 (.advance i)

/-- Two calls for one cell, one after the other, whose source has a failure without words. -/
def mute : List Move := .make ['c'] 1 :: .call 0 :: rejection 0 ++ .call 0 :: rejection 1

/-- The source of the first version can be compiled, and no other. -/
def raceCompile (_ : Nat) (source : Text) : Except Text Nat :=
  if source = ['a'] then .ok 7 else .error source

/-- A compilation comes to that. -/
def raceComes (cell : Nat) (source : Text) (result : Except Text Nat) : Prop :=
  result = raceCompile cell source

lemma raceComes_raceCompile (cell : Nat) (source : Text) :
    raceComes cell source (raceCompile cell source) := rfl

/-- The words for a failure quote the source. One source cannot be quoted. -/
def raceWords (_ : Nat) (source _cause : Text) : Except Text Text :=
  if source = ['c'] then .error ['?'] else .ok source

/-- Where the race ends. -/
def raceState : CallSystem Nat Text := (play raceWords raceCompile race .empty).getD .empty

/-- Where the fourth call has captured the version that failed. -/
def raceNext : CallSystem Nat Text :=
  (raceState.move raceWords raceCompile (.advance 3)).getD .empty

/-- Where both calls for the source that cannot be quoted have ended. -/
def muteState : CallSystem Nat Text := (play raceWords raceCompile mute .empty).getD .empty

/-- What the first two calls of the race end with, that the counters are right, and that the fourth
call will not take the lock; and what the calls end with whose source cannot be quoted. -/
theorem race_compiled_until_worded :
    (∃ v, some 0 = some v ∧ raceState.Told raceWords v (.artifact 7)) ∧
    (∃ v, some 1 = some v ∧ raceState.Told raceWords v (.failed 1 ['b'] (some ['b']))) ∧
    raceState.records.compiles = 2 ∧ raceState.deeds.countP Deed.isReturned = 2 ∧
    (∀ u, Steps raceWords raceComes raceNext u → ∀ d ∈ u.deeds, d.entersFor 3 = false) ∧
    (∃ v, some 0 = some v ∧ muteState.Told raceWords v (.raised ['?'])) ∧
    ∃ past : List Text, (∀ e ∈ past, ∃ reason, muteState.Wordless raceWords 0 e reason) ∧
      2 ≤ past.length + 1 ∧ past.map .error <:+ muteState.results 0 := by
  have hreach : Reachable raceWords raceComes raceState := steps_of_play raceComes_raceCompile race rfl
  have hmute : Reachable raceWords raceComes muteState := steps_of_play raceComes_raceCompile mute rfl
  have hstep : Step raceWords raceComes raceState raceNext :=
    step_of_move raceComes_raceCompile (.advance 3) rfl
  obtain ⟨-, htold, -, hquick, hcounted⟩ := compiled_until_worded hreach
  obtain ⟨hbegun, htold', -⟩ := compiled_until_worded hmute
  exact ⟨htold 1 ⟨0, some 0, .done (.artifact 7)⟩ _ rfl rfl,
    htold 2 ⟨0, some 1, .done (.failed 1 ['b'] (some ['b']))⟩ _ rfl rfl, rfl,
    (hcounted rfl).2.1.symm, fun u => hquick 3 1 _ raceNext u rfl (Or.inr rfl) hstep rfl,
    htold' 1 ⟨0, some 0, .done (.raised ['?'])⟩ _ rfl rfl, hbegun 0⟩

/-- **A version may be compiled twice**: both calls captured it, and its failure, which has no words, was
told to neither of them. -/
theorem mute_compiled_twice :
    Reachable raceWords raceComes muteState ∧ muteState.begun 0 = 2 ∧
    muteState.records.compiles = 2 ∧ muteState.records.failures = 2 ∧
    muteState.calls[0]? = some ⟨0, some 0, .done (.raised ['?'])⟩ ∧
    muteState.calls[1]? = some ⟨0, some 0, .done (.raised ['?'])⟩ ∧
    muteState.version? 0 = some ⟨['c'], 1, none, none, some ['c'], false⟩ :=
  ⟨steps_of_play raceComes_raceCompile mute rfl, rfl, rfl, rfl, rfl, rfl, rfl⟩

end CallSystem

end FormulaCube
