import FormulaCube.Proofs.Calls.Invariant

/-!
# The next step of a call keeps the invariant

A step of a call may change the lock, one version, and where the call stands. Each section follows
one of them through a step.

**The lock.** `CallSystem.work_goOn_of_works`, `CallSystem.work_goOn_of_isReleasing` and
`CallSystem.work_goOn_of_free` say where the holder of the lock stands after the step.

**The versions.** `CallSystem.account?_goOn` is the effect on the account of a version, and
`CallSystem.accounts_goOn` that it remains the account that goes with the holder.

**The calls.** `CallSystem.fits_goOn` and `CallSystem.fits_goOn_of_fits`.

**The counters.** `CallSystem.countedReturned_goOn` and `CallSystem.countedFailures_goOn`.
-/

namespace FormulaCube.CallSystem

variable {α ε : Type} {describe : Nat → Text → ε → Except ε Text}
  {compiles : Nat → Text → Except ε α → Prop} {s : CallSystem α ε}

variable {i current : Nat} {call : Call α ε} {p' : Phase α ε} {records : Records α ε}

lemma calls_goOn (hi : i < s.calls.size) (j : Nat) :
    (s.goOn i call current p' records).calls[j]? =
      if i = j then some ⟨call.cell, some (call.version.getD current), p'⟩ else s.calls[j]? := by
  simp only [goOn, Array.getElem?_setIfInBounds, hi, if_true]

lemma mem_deeds_goOn {d : Deed α ε} (hd : d ∈ s.deeds) :
    d ∈ (s.goOn i call current p' records).deeds :=
  List.mem_append_right _ hd

lemma made_of_goOn {c v : Nat} (h : .made c v ∈ (s.goOn i call current p' records).deeds) :
    .made c v ∈ s.deeds := by
  rcases List.mem_append.mp h with h | h
  · rcases Phase.mem_deeds h with h | h | ⟨_, h⟩ <;> cases h
  · exact h

lemma returned_of_goOn {j v : Nat} {result : Except ε α}
    (h : .returned j v result ∈ (s.goOn i call current p' records).deeds) :
    .returned j v result ∈ s.deeds := by
  rcases List.mem_append.mp h with h | h
  · rcases Phase.mem_deeds h with h | h | ⟨_, h⟩ <;> cases h
  · exact h

lemma results_goOn (v : Nat) : (s.goOn i call current p' records).results v = s.results v := by
  rcases call with ⟨cell, version, phase⟩
  cases phase <;> rfl

lemma begun_goOn (v : Nat) :
    (s.goOn i call current p' records).begun v =
      s.begun v + if call.phase.isCounting ∧ call.phase.about? = some v then 1 else 0 := by
  rcases call with ⟨cell, version, phase⟩
  cases phase <;> simp [begun, goOn, Phase.deeds, List.countP_cons, Deed.begins, Phase.isCounting,
    Phase.about?]

variable (hcall : s.calls[i]? = some call)
  (hstep : call.phase.step i current (fun v => describe call.cell (s.sourceOf v)) s.records =
    some (p', records))

include hstep in
/-- The step of a call changes no account but that of its version. -/
lemma account?_goOn (v : Nat) :
    (s.goOn i call current p' records).account? v =
      if call.phase.about? = some v then
        (s.account? v).map (Account.write (fun v => describe call.cell (s.sourceOf v)) call.phase)
      else s.account? v := by
  have hversion : (s.goOn i call current p' records).version? v = records.version? v := rfl
  rw [account?, account?, hversion, Phase.step_version? hstep v, results_goOn, begun_goOn]
  change (if _ then (s.version? v).map _ else s.version? v).map _ = _
  by_cases hv : call.phase.about? = some v
  · simp only [hv, if_true, and_true, Option.map_map]
    congr 1
    funext version
    rcases call with ⟨cell, captured, phase⟩
    cases phase with
    | keepingWords w e =>
        simp only [Function.comp, Phase.write, Account.write]
        cases describe cell (s.sourceOf w) e <;> rfl
    | _ => rfl
  · simp only [hv, if_false, and_false, Nat.add_zero]

include hstep in
/-- The source of a version is never written, and what a version holds is not taken away. -/
lemma version?_goOn {v : Nat} {version : Version α ε} (h : s.version? v = some version) :
    ∃ version', (s.goOn i call current p' records).version? v = some version' ∧
      version'.source = version.source ∧
      (version.artifact.isSome = true → version'.artifact.isSome = true) ∧
      (version.words.isSome = true → version'.words.isSome = true) := by
  have hversion : (s.goOn i call current p' records).version? v = records.version? v := rfl
  have h' : s.records.version? v = some version := h
  rw [hversion, Phase.step_version? hstep v, h']
  split
  · exact ⟨_, rfl, Phase.write_source _ _ _, Phase.write_keeps _ _ _⟩
  · exact ⟨version, rfl, rfl, id, id⟩

include hstep in
/-- No step writes the source of a version. -/
lemma sourceOf_goOn : (s.goOn i call current p' records).sourceOf = s.sourceOf := by
  funext v
  have hversion : (s.goOn i call current p' records).version? v = records.version? v := rfl
  rw [sourceOf, sourceOf, hversion, Phase.step_version? hstep v]
  split
  · rw [Option.map_map]
    show ((s.version? v).map _).getD [] = _
    congr 2
    funext version
    exact Phase.write_source _ _ version
  · rfl

include hcall in
/-- A call that holds the lock is where the holder of the lock stands. -/
lemma work_of_isLocked (hs : s.Sound describe compiles) (h : call.phase.isLocked = true) :
    s.work = call.phase :=
  work_eq hcall ((hs.lock i call hcall).mp h)

include hcall hstep in
/-- A call that takes the lock, or keeps it, is where the holder of the lock stands after its step.
-/
lemma work_goOn_of_works (hs : s.Sound describe compiles)
    (h : call.phase.isWaiting = true ∨
      (call.phase.isLocked = true ∧ ¬ call.phase.isReleasing = true)) :
    (s.goOn i call current p' records).work = p' := by
  have hi : i < s.calls.size := (Array.getElem?_eq_some_iff.mp hcall).1
  have hholder : (s.goOn i call current p' records).records.holder = some i := by
    show records.holder = some i
    rw [Phase.step_holder hstep]
    rcases h with hw | ⟨hl, hr⟩
    · rw [if_pos hw]
    · have hw : ¬ call.phase.isWaiting = true := by
        intro hw
        rw [Phase.not_isLocked_of_isWaiting hw] at hl
        cases hl
      rw [if_neg hw, if_neg hr]
      exact (hs.lock i call hcall).mp hl
  rw [work, hholder, Option.bind_some, calls_goOn hi, if_pos rfl]

include hstep in
lemma work_goOn_of_isReleasing (hr : call.phase.isReleasing = true) :
    (s.goOn i call current p' records).work = .start := by
  have hw : ¬ call.phase.isWaiting = true := by
    intro hw
    have hl := Phase.isLocked_of_isReleasing hr
    rw [Phase.not_isLocked_of_isWaiting hw] at hl
    cases hl
  have hholder : (s.goOn i call current p' records).records.holder = none := by
    show records.holder = none
    rw [Phase.step_holder hstep, if_neg hw, if_pos hr]
  rw [work, hholder]
  rfl

include hcall hstep in
/-- A call that has nothing to do with the lock leaves its holder where it stands. -/
lemma work_goOn_of_free (hs : s.Sound describe compiles) (hw : ¬ call.phase.isWaiting = true)
    (hl : ¬ call.phase.isLocked = true) :
    (s.goOn i call current p' records).work = s.work := by
  have hi : i < s.calls.size := (Array.getElem?_eq_some_iff.mp hcall).1
  have hholder : (s.goOn i call current p' records).records.holder = s.records.holder := by
    show records.holder = s.records.holder
    rw [Phase.step_holder hstep, if_neg hw, if_neg fun hr => hl (Phase.isLocked_of_isReleasing hr)]
  rw [work, work, hholder]
  cases hh : s.records.holder with
  | none => rfl
  | some j =>
      have hij : i ≠ j := by
        rintro rfl
        exact hl ((hs.lock i call hcall).mpr hh)
      rw [Option.bind_some, Option.bind_some, calls_goOn hi, if_neg hij]

include hcall in
/-- Where the holder stands, as far as it concerns the version that a locked call is about. -/
lemma workOn_of_isLocked (hs : s.Sound describe compiles) (h : call.phase.isLocked = true) {v : Nat}
    (hv : call.phase.about? = some v) : s.workOn v = call.phase := by
  rw [workOn, work_of_isLocked hcall hs h, if_pos hv]

include hcall in
/-- The account of the version that a locked call is about is the one that its phase allows. -/
lemma allows_of_isLocked (hs : s.Sound describe compiles) {v : Nat} {acc : Account α ε}
    (hv : call.phase.about? = some v) (hacc : s.account? v = some acc)
    (h : call.phase.isLocked = true) :
    call.phase.Allows (describe call.cell (s.sourceOf v)) acc := by
  have hallows := hs.accountOf ((hs.fits i call hcall).of_about? hv).2 hacc
  rwa [workOn_of_isLocked hcall hs h hv] at hallows

/-- A failure that can be read has a cause. -/
lemma Sound.cause_of_words (hs : s.Sound describe compiles) {v : Nat} {acc : Account α ε}
    (hacc : s.account? v = some acc) (words : Text) (hw : acc.words = some words) :
    ∃ e, acc.cause = some e := by
  obtain ⟨c, -, hallows⟩ := hs.accounts v acc hacc
  obtain ⟨e, past, -, he, -⟩ := hallows.of_words hw
  exact ⟨e, he⟩

include hcall hstep in
/-- A step that takes or keeps the lock moves the work on one version; the work on others stays. -/
lemma workOn_goOn (hs : s.Sound describe compiles) (v : Nat) :
    (s.goOn i call current p' records).workOn v =
      if (call.phase.isWaiting ∨ call.phase.isLocked) ∧ call.phase.about? = some v then
        if p'.about? = some v then p' else .start
      else s.workOn v := by
  rw [workOn]
  by_cases hw : call.phase.isWaiting = true ∨
      (call.phase.isLocked = true ∧ ¬ call.phase.isReleasing = true)
  · have hw' : call.phase.isWaiting = true ∨ call.phase.isLocked = true := hw.imp_right And.left
    rw [work_goOn_of_works hcall hstep hs hw]
    by_cases hv : call.phase.about? = some v
    · rw [if_pos (And.intro hw' hv)]
    · -- the holder worked on another version, or there was none
      have hold : s.workOn v = .start := by
        rcases hw with hw | ⟨hl, -⟩
        · exact workOn_eq_start (Phase.step_waiting hstep hw) v
        · rw [workOn, work_of_isLocked hcall hs hl, if_neg hv]
      have hother : p'.about? ≠ some v := by
        intro habout
        obtain ⟨w, hw⟩ := Phase.about?_of_works hw
        rcases Phase.step_about hstep hw with h | ⟨h, -⟩
        · exact hv (hw.trans (h.symm.trans habout))
        · rw [h] at habout
          cases habout
      rw [if_neg hother, if_neg (fun h => hv (And.right h)), hold]
  · by_cases hr : call.phase.isReleasing = true
    · have hnone := Phase.about?_of_isReleasing hr
      have hother : ¬ ((call.phase.isWaiting = true ∨ call.phase.isLocked = true) ∧
          call.phase.about? = some v) := by
        rintro ⟨-, h⟩
        rw [hnone] at h
        cases h
      rw [work_goOn_of_isReleasing hstep hr, if_neg hother, workOn,
        work_of_isLocked hcall hs (Phase.isLocked_of_isReleasing hr), hnone]
      rfl
    · have hfree : ¬ (call.phase.isWaiting = true ∨ call.phase.isLocked = true) :=
        fun h => hw (h.imp_right fun h => ⟨h, hr⟩)
      have hw' : ¬ call.phase.isWaiting = true := fun h => hfree (Or.inl h)
      have hl : ¬ call.phase.isLocked = true := fun h => hfree (Or.inr h)
      rw [work_goOn_of_free hcall hstep hs hw' hl, if_neg (fun h => hfree (And.left h)), workOn]

include hcall hstep in
lemma accounts_goOn (hs : s.Sound describe compiles) (v : Nat) (acc' : Account α ε)
    (hacc' : (s.goOn i call current p' records).account? v = some acc') :
    ∃ c, .made c v ∈ (s.goOn i call current p' records).deeds ∧
      ((s.goOn i call current p' records).workOn v).Allows
        (describe c ((s.goOn i call current p' records).sourceOf v)) acc' := by
  rw [account?_goOn hstep v] at hacc'
  rw [workOn_goOn hcall hstep hs, sourceOf_goOn hstep]
  by_cases hv : call.phase.about? = some v
  · rw [if_pos hv, Option.map_eq_some_iff] at hacc'
    obtain ⟨acc, hacc, rfl⟩ := hacc'
    have hmade := ((hs.fits i call hcall).of_about? hv).2
    refine ⟨call.cell, mem_deeds_goOn hmade, ?_⟩
    by_cases hw : call.phase.isWaiting = true ∨ call.phase.isLocked = true
    · have hp : call.phase.Allows (describe call.cell (s.sourceOf v)) acc := by
        rcases hw with hw | hl
        · have hfree := hs.accountOf hmade hacc
          rw [workOn_eq_start (Phase.step_waiting hstep hw)] at hfree
          exact (Phase.allows_of_not_isLocked (Phase.not_isLocked_of_isWaiting hw) acc).mpr hfree
        · exact allows_of_isLocked hcall hs hv hacc hl
      obtain ⟨version, hversion, rfl⟩ := account?_eq_some hacc
      have hnext := Phase.allows_step hstep hv hversion rfl rfl rfl hp
      rw [if_pos ⟨hw, hv⟩]
      split
      · exact hnext
      · rename_i habout
        rcases Phase.step_about hstep hv with h | ⟨h, -⟩
        · exact absurd h habout
        · exact (Phase.allows_of_about?_eq_none h _).mp hnext
    · have hl : call.phase.isLocked = false := by
        simpa using fun h => hw (Or.inr h)
      rw [if_neg (fun h => hw h.1), Phase.write_eq_of_not_isLocked _ hl]
      exact hs.accountOf hmade hacc
  · rw [if_neg hv] at hacc'
    rw [if_neg (fun h => hv h.2)]
    obtain ⟨c, hmade, hallows⟩ := hs.accounts v acc' hacc'
    exact ⟨c, mem_deeds_goOn hmade, hallows⟩

include hcall hstep in
/-- What a version tells of how its calls end is the same after any step. -/
lemma tells_goOn (hs : s.Sound describe compiles) {c v : Nat} {acc : Account α ε}
    (hmade : .made c v ∈ s.deeds) (hacc : s.account? v = some acc) {o : Outcome α ε}
    (ho : acc.Tells (describe c (s.sourceOf v)) v o) :
    ∃ acc', (s.goOn i call current p' records).account? v = some acc' ∧
      acc'.Tells (describe c ((s.goOn i call current p' records).sourceOf v)) v o := by
  rw [account?_goOn hstep v, sourceOf_goOn hstep]
  by_cases hv : call.phase.about? = some v
  · obtain rfl := hs.owner c call.cell v hmade ((hs.fits i call hcall).of_about? hv).2
    rw [if_pos hv, hacc]
    exact ⟨_, rfl, Phase.tells_write (allows_of_isLocked hcall hs hv hacc) ho⟩
  · rw [if_neg hv]
    exact ⟨acc, hacc, ho⟩

include hstep in
lemma account?_goOn_of_account? {v : Nat} {acc : Account α ε} (hacc : s.account? v = some acc) :
    ∃ acc', (s.goOn i call current p' records).account? v = some acc' := by
  rw [account?_goOn hstep v]
  split
  · rw [hacc]
    exact ⟨_, rfl⟩
  · exact ⟨acc, hacc⟩

include hcall hstep in
/-- The other calls fit after the step of a call. -/
lemma fits_goOn_of_fits (hs : s.Sound describe compiles) {other : Call α ε}
    (h : s.Fits describe other) : (s.goOn i call current p' records).Fits describe other := by
  rcases h with h | ⟨v, acc, hv, hmade, hacc, habout | ⟨habout, o, ho, htells⟩⟩
  · exact Or.inl h
  · obtain ⟨acc', hacc'⟩ := account?_goOn_of_account? hstep hacc
    exact Or.inr ⟨v, acc', hv, mem_deeds_goOn hmade, hacc', Or.inl habout⟩
  · obtain ⟨acc', hacc', htells'⟩ := tells_goOn hcall hstep hs hmade hacc htells
    exact Or.inr ⟨v, acc', hv, mem_deeds_goOn hmade, hacc', Or.inr ⟨habout, o, ho, htells'⟩⟩

include hcall hstep in
/-- A call that takes a step fits after it. -/
lemma fits_goOn (hs : s.Sound describe compiles) (hcurrent : s.cells[call.cell]? = some current) :
    (s.goOn i call current p' records).Fits describe
      ⟨call.cell, some (call.version.getD current), p'⟩ := by
  rcases hs.fits i call hcall with ⟨hnone, hstart⟩ |
      ⟨v, acc, hv, hmade, hacc, habout | ⟨habout, o, ho, htells⟩⟩
  · have hmade := hs.current _ _ hcurrent
    obtain ⟨acc, hacc⟩ := account?_of_lt (hs.made _ _ hmade)
    obtain ⟨acc', hacc'⟩ := account?_goOn_of_account? hstep hacc
    refine Or.inr ⟨current, acc', ?_, mem_deeds_goOn hmade, hacc', Or.inl ?_⟩
    · rw [hnone]
      rfl
    · rw [hstart] at hstep
      cases hstep
      rfl
  · have hversion' : some (call.version.getD current) = some v := by
      rw [hv]
      rfl
    rcases Phase.step_about hstep habout with h | ⟨h, o, ho⟩
    · obtain ⟨acc', hacc'⟩ := account?_goOn_of_account? hstep hacc
      exact Or.inr ⟨v, acc', hversion', mem_deeds_goOn hmade, hacc', Or.inl h⟩
    · obtain ⟨version, hversion, heq⟩ := account?_eq_some hacc
      refine Or.inr ⟨v, acc.write (fun v => describe call.cell (s.sourceOf v)) call.phase,
        hversion', mem_deeds_goOn hmade, ?_,
        Or.inr ⟨h, o, ho, ?_⟩⟩
      · rw [account?_goOn hstep v, if_pos habout, hacc]
        rfl
      · rw [sourceOf_goOn hstep]
        exact Phase.tells_step hstep habout hversion (by rw [heq]) (by rw [heq]) (by rw [heq])
          (hs.cause_of_words hacc) (allows_of_isLocked hcall hs habout hacc) ho
  · obtain rfl := Phase.step_outcome hstep ho
    obtain ⟨acc', hacc', htells'⟩ := tells_goOn hcall hstep hs hmade hacc htells
    refine Or.inr ⟨v, acc', ?_, mem_deeds_goOn hmade, hacc', Or.inr ⟨rfl, o, rfl, htells'⟩⟩
    rw [hv]
    rfl

include hcall hstep in
/-- The holder of the lock after a step is in a phase with the lock, and no other call is. -/
lemma lock_goOn (hs : s.Sound describe compiles) (j : Nat) (other : Call α ε)
    (hother : (s.goOn i call current p' records).calls[j]? = some other) :
    other.phase.isLocked = true ↔ (s.goOn i call current p' records).records.holder = some j := by
  have hi : i < s.calls.size := (Array.getElem?_eq_some_iff.mp hcall).1
  have hholder : (s.goOn i call current p' records).records.holder = records.holder := rfl
  have hmine := hs.lock i call hcall
  rw [hholder, Phase.step_holder hstep]
  rw [calls_goOn hi] at hother
  by_cases hij : i = j
  · subst hij
    rw [if_pos rfl] at hother
    cases hother
    rw [Phase.step_isLocked hstep]
    by_cases hw : call.phase.isWaiting = true
    · simp [hw]
    · by_cases hr : call.phase.isReleasing = true
      · simp [hw, hr]
      · simp [hw, hr, hmine]
  · rw [if_neg hij] at hother
    rw [hs.lock j other hother]
    by_cases hw : call.phase.isWaiting = true
    · simp [hw, Phase.step_waiting hstep hw, hij]
    · by_cases hr : call.phase.isReleasing = true
      · simp [hw, hr, hmine.mp (Phase.isLocked_of_isReleasing hr), hij]
      · simp [hw, hr]

include hcall hstep in
/-- A call that took the lock or handed something over is past the lock. -/
lemma entered_goOn (hs : s.Sound describe compiles) (j : Nat)
    (h : ∃ d ∈ (s.goOn i call current p' records).deeds, d.entersFor j = true) :
    ∃ other : Call α ε, (s.goOn i call current p' records).calls[j]? = some other ∧
      other.phase.isPast = true := by
  have hi : i < s.calls.size := (Array.getElem?_eq_some_iff.mp hcall).1
  obtain ⟨d, hd, hj⟩ := h
  rw [calls_goOn hi]
  rcases List.mem_append.mp hd with hd | hd
  · obtain ⟨rfl, hpast⟩ := Phase.isPast_of_entersFor hstep hd hj
    exact ⟨_, if_pos rfl, hpast⟩
  · obtain ⟨other, hother, hpast⟩ := hs.entered j ⟨d, hd, hj⟩
    by_cases hij : i = j
    · subst hij
      rw [hcall] at hother
      cases hother
      exact ⟨_, if_pos rfl, Phase.step_isPast hstep hpast⟩
    · exact ⟨other, (if_neg hij).trans hother, hpast⟩

include hcall hstep in
/-- The compilations that came back are counted right when a call takes its next step. -/
lemma countedReturned_goOn (hs : s.Sound describe compiles) :
    (s.goOn i call current p' records).deeds.countP Deed.isReturned +
        (if (s.goOn i call current p' records).work.isCompiling then 1 else 0) =
      (s.goOn i call current p' records).deeds.countP Deed.isBegan := by
  have hcounted := hs.countedReturned
  have hnext := Phase.step_isCompiling hstep
  have hnow := Phase.not_isCompiling_of_step hstep
  have hreturned : (s.goOn i call current p' records).deeds.countP Deed.isReturned =
      s.deeds.countP Deed.isReturned := by
    rw [goOn, List.countP_append, Phase.countP_isReturned_deeds, Nat.zero_add]
  have hbegan : (s.goOn i call current p' records).deeds.countP Deed.isBegan =
      (if call.phase.isCounting then 1 else 0) + s.deeds.countP Deed.isBegan := by
    rw [goOn, List.countP_append, Phase.countP_isBegan_deeds]
  rw [hreturned, hbegan]
  by_cases hw : call.phase.isWaiting = true
  · have hwork : s.work.isCompiling = false := by
      rw [work, Phase.step_waiting hstep hw]
      rfl
    rw [work_goOn_of_works hcall hstep hs (Or.inl hw), hnext]
    rw [hwork] at hcounted
    simp only [Bool.false_eq_true, if_false] at hcounted
    omega
  · by_cases hl : call.phase.isLocked = true
    · rw [work_of_isLocked hcall hs hl, hnow] at hcounted
      simp only [Bool.false_eq_true, if_false] at hcounted
      by_cases hr : call.phase.isReleasing = true
      · rw [work_goOn_of_isReleasing hstep hr, Phase.not_isCounting_of_isReleasing hr]
        simp only [Phase.isCompiling, Bool.false_eq_true, if_false]
        omega
      · rw [work_goOn_of_works hcall hstep hs (Or.inr ⟨hl, hr⟩), hnext]
        omega
    · have hcounting : ¬ call.phase.isCounting = true := fun h =>
        hl (Phase.isLocked_of_isCounting h)
      rw [work_goOn_of_free hcall hstep hs hw hl, if_neg hcounting]
      omega

include hcall hstep in
/-- The failures are counted right when a call takes its next step. -/
lemma countedFailures_goOn (hs : s.Sound describe compiles) :
    (s.goOn i call current p' records).records.failures +
        (if (s.goOn i call current p' records).work.isCountingFailure then 1 else 0) =
      (s.goOn i call current p' records).deeds.countP Deed.isFailure := by
  have hcounted := hs.countedFailures
  have hnext := Phase.step_isCountingFailure hstep
  have hfailures : (s.goOn i call current p' records).records.failures =
      s.records.failures + if call.phase.isCountingFailure then 1 else 0 :=
    Phase.step_failures hstep
  have hfailed : (s.goOn i call current p' records).deeds.countP Deed.isFailure =
      s.deeds.countP Deed.isFailure := by
    rw [goOn, List.countP_append, Phase.countP_isFailure_deeds, Nat.zero_add]
  rw [hfailures, hfailed]
  by_cases hl : call.phase.isLocked = true
  · rw [work_of_isLocked hcall hs hl] at hcounted
    by_cases hr : call.phase.isReleasing = true
    · have hstart : (Phase.start : Phase α ε).isCountingFailure = false := rfl
      rw [work_goOn_of_isReleasing hstep hr, hstart]
      simp only [Bool.false_eq_true, if_false]
      omega
    · rw [work_goOn_of_works hcall hstep hs (Or.inr ⟨hl, hr⟩), hnext]
      simp only [Bool.false_eq_true, if_false]
      omega
  · have hnow : ¬ call.phase.isCountingFailure = true :=
      fun h => hl (Phase.isLocked_of_isCountingFailure h)
    rw [if_neg hnow]
    by_cases hw : call.phase.isWaiting = true
    · have hwork : s.work.isCountingFailure = false := by
        rw [work, Phase.step_waiting hstep hw]
        rfl
      rw [hwork] at hcounted
      simp only [Bool.false_eq_true, if_false] at hcounted
      rw [work_goOn_of_works hcall hstep hs (Or.inl hw), hnext]
      simp only [Bool.false_eq_true, if_false]
      omega
    · rw [work_goOn_of_free hcall hstep hs hw hl]
      omega

include hcall hstep in
/-- **A step of a call keeps the invariant.** -/
lemma sound_goOn (hs : s.Sound describe compiles) (hcurrent : s.cells[call.cell]? = some current) :
    (s.goOn i call current p' records).Sound describe compiles where
  lock := lock_goOn hcall hstep hs
  held := by
    intro j hj
    have hi : i < s.calls.size := (Array.getElem?_eq_some_iff.mp hcall).1
    have hsize : (s.goOn i call current p' records).calls.size = s.calls.size := by
      rw [goOn, Array.size_setIfInBounds]
    rw [hsize]
    have hholder : records.holder = some j := hj
    rw [Phase.step_holder hstep] at hholder
    split at hholder
    · cases hholder
      exact hi
    · split at hholder
      · cases hholder
      · exact hs.held j hholder
  accounts := accounts_goOn hcall hstep hs
  fits := by
    intro j other hother
    have hi : i < s.calls.size := (Array.getElem?_eq_some_iff.mp hcall).1
    rw [calls_goOn hi] at hother
    split at hother
    · cases hother
      exact fits_goOn hcall hstep hs hcurrent
    · exact fits_goOn_of_fits hcall hstep hs (hs.fits j other hother)
  made := by
    intro c v hmade
    have hsize : (s.goOn i call current p' records).records.versions.size =
        s.records.versions.size := Phase.step_size hstep
    rw [hsize]
    exact hs.made c v (made_of_goOn hmade)
  owner := fun c c' v h h' => hs.owner c c' v (made_of_goOn h) (made_of_goOn h')
  current := fun c v hv => mem_deeds_goOn (hs.current c v hv)
  unseen := by
    intro v hv
    have hsize : (s.goOn i call current p' records).records.versions.size =
        s.records.versions.size := Phase.step_size hstep
    rw [hsize] at hv
    obtain ⟨hbegun, hresults⟩ := hs.unseen v hv
    have hnew : ¬ (call.phase.isCounting = true ∧ call.phase.about? = some v) := by
      rintro ⟨-, h⟩
      have := hs.made _ _ ((hs.fits i call hcall).of_about? h).2
      omega
    rw [begun_goOn, results_goOn, hbegun, hresults, if_neg hnew]
    exact ⟨rfl, rfl⟩
  entered := entered_goOn hcall hstep hs
  returned := by
    intro j v result hd
    obtain ⟨c, version, hmade, hversion, hresult⟩ := hs.returned j v result (returned_of_goOn hd)
    obtain ⟨version', hversion', hsource, -⟩ := version?_goOn hstep hversion
    exact ⟨c, version', mem_deeds_goOn hmade, hversion', hsource ▸ hresult⟩
  countedBegan := by
    have hcompiles : (s.goOn i call current p' records).records.compiles = records.compiles := rfl
    rw [hcompiles, Phase.step_compiles hstep, goOn, List.countP_append,
      Phase.countP_isBegan_deeds, hs.countedBegan, Nat.add_comm]
  countedReturned := countedReturned_goOn hcall hstep hs
  countedFailures := countedFailures_goOn hcall hstep hs

end FormulaCube.CallSystem
