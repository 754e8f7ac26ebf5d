import FormulaCube.Proofs.Calls.Advance

/-!
# The invariant holds in every order

* `CallSystem.sound_call`, `CallSystem.sound_comeBack` — a call begins, and a compilation comes
  back.
* `CallSystem.sound_step` — every step keeps the invariant.
* `CallSystem.sound_of_steps`, `CallSystem.sound_of_reachable` — so does any number of steps, and
  the invariant holds where there are neither cells nor calls.
-/

namespace FormulaCube.CallSystem

variable {α ε : Type} {describe : Nat → Text → ε → Except ε Text}
  {compiles : Nat → Text → Except ε α → Prop} {s : CallSystem α ε}

/-! ## A call begins -/

lemma calls_push (call : Call α ε) (j : Nat) (hj : j < s.calls.size) :
    (s.calls.push call)[j]? = s.calls[j]? := by
  rw [Array.getElem?_push, if_neg (Nat.ne_of_lt hj)]

/-- A call that begins does not move the holder of the lock. -/
lemma work_call (hs : s.Sound describe compiles) (cell : Nat) : (s.call cell).work = s.work := by
  have hholder : (s.call cell).records.holder = s.records.holder := rfl
  rw [work, work, hholder]
  cases hh : s.records.holder with
  | none => rfl
  | some j =>
      rw [Option.bind_some, Option.bind_some, call, calls_push _ j (hs.held j hh)]

/-- A call that begins neither holds the lock nor has captured anything. -/
lemma sound_call (hs : s.Sound describe compiles) (cell : Nat) :
    (s.call cell).Sound describe compiles where
  lock := by
    intro j call hcall
    change (s.calls.push ⟨cell, none, .start⟩)[j]? = some call at hcall
    rw [Array.getElem?_push] at hcall
    split at hcall
    · rename_i hj
      cases hcall
      constructor
      · intro h
        cases h
      · intro h
        have := hs.held j h
        omega
    · exact hs.lock j call hcall
  held := by
    intro j hj
    show j < (s.calls.push _).size
    rw [Array.size_push]
    have := hs.held j hj
    omega
  accounts := by
    intro v acc hacc
    rw [workOn, work_call hs]
    exact hs.accounts v acc hacc
  fits := by
    intro j call hcall
    change (s.calls.push ⟨cell, none, .start⟩)[j]? = some call at hcall
    rw [Array.getElem?_push] at hcall
    split at hcall
    · cases hcall
      exact Or.inl ⟨rfl, rfl⟩
    · exact hs.fits j call hcall
  made := hs.made
  owner := hs.owner
  current := hs.current
  unseen := hs.unseen
  entered := by
    intro j h
    obtain ⟨call, hcall, hpast⟩ := hs.entered j h
    refine ⟨call, ?_, hpast⟩
    have hj : j < s.calls.size := (Array.getElem?_eq_some_iff.mp hcall).1
    exact (calls_push _ j hj).trans hcall
  returned := hs.returned
  countedBegan := hs.countedBegan
  countedReturned := by
    rw [work_call hs]
    exact hs.countedReturned
  countedFailures := by
    rw [work_call hs]
    exact hs.countedFailures

/-! ## A compilation comes back -/

section ComesBack

variable {i v : Nat} {call : Call α ε} {version : Version α ε} {result : Except ε α}

lemma results_comeBack (w : Nat) :
    (s.comeBack i call v result).results w =
      if v = w then result :: s.results w else s.results w := by
  simp only [results, comeBack, List.filterMap_cons, Deed.result?]
  split <;> split <;> simp_all

lemma account?_comeBack (w : Nat) :
    (s.comeBack i call v result).account? w =
      if v = w then (s.account? w).map fun acc => { acc with results := result :: acc.results }
      else s.account? w := by
  have hversion : (s.comeBack i call v result).version? w = s.version? w := rfl
  have hbegun : (s.comeBack i call v result).begun w = s.begun w := rfl
  rw [account?, account?, hversion, hbegun, results_comeBack]
  split
  · rw [Option.map_map]
    rfl
  · rfl

lemma tells_comeBack {w : Nat} {acc : Account α ε} {o : Outcome α ε} {words : ε → Except ε Text}
    (hacc : s.account? w = some acc) (ho : acc.Tells words w o) :
    ∃ acc', (s.comeBack i call v result).account? w = some acc' ∧ acc'.Tells words w o := by
  rw [account?_comeBack]
  split
  · rw [hacc]
    refine ⟨_, rfl, ?_⟩
    cases ho with
    | artifact ha => exact .artifact ha
    | failed hw he => exact .failed hw he
    | raised hmem hwords => exact .raised (List.mem_cons_of_mem _ hmem) hwords
  · exact ⟨acc, hacc, ho⟩

lemma account?_comeBack_of_account? {w : Nat} {acc : Account α ε} (hacc : s.account? w = some acc) :
    ∃ acc', (s.comeBack i call v result).account? w = some acc' := by
  rw [account?_comeBack]
  split
  · rw [hacc]
    exact ⟨_, rfl⟩
  · exact ⟨acc, hacc⟩

variable (hcall : s.calls[i]? = some call) (hphase : call.phase = .compiling v)

include hcall in
lemma calls_comeBack (j : Nat) :
    (s.comeBack i call v result).calls[j]? =
      if i = j then some { call with phase := Phase.compiled v result } else s.calls[j]? := by
  have hi : i < s.calls.size := (Array.getElem?_eq_some_iff.mp hcall).1
  simp only [comeBack, Array.getElem?_setIfInBounds, hi, if_true]

lemma compiled_facts (v : Nat) (result : Except ε α) :
    (Phase.compiled v result).isLocked = true ∧ (Phase.compiled v result).isCompiling = false ∧
      (Phase.compiled v result).isPast = true ∧ (Phase.compiled v result).about? = some v := by
  cases result <;> exact ⟨rfl, rfl, rfl, rfl⟩

include hcall hphase in
/-- The call that a compilation comes back to holds the lock. -/
lemma holder_of_compiling (hs : s.Sound describe compiles) : s.records.holder = some i := by
  refine (hs.lock i call hcall).mp ?_
  rw [hphase]
  rfl

include hcall hphase in
lemma work_comeBack (hs : s.Sound describe compiles) :
    (s.comeBack i call v result).work = Phase.compiled v result := by
  have hholder : (s.comeBack i call v result).records.holder = some i := by
    show s.records.holder = some i
    exact holder_of_compiling hcall hphase hs
  rw [work, hholder, Option.bind_some, calls_comeBack hcall, if_pos rfl]

include hcall hphase in
lemma accounts_comeBack (hs : s.Sound describe compiles) (w : Nat) (acc' : Account α ε)
    (hacc' : (s.comeBack i call v result).account? w = some acc') :
    ∃ c, .made c w ∈ (s.comeBack i call v result).deeds ∧
      ((s.comeBack i call v result).workOn w).Allows
        (describe c ((s.comeBack i call v result).sourceOf w)) acc' := by
  obtain ⟨-, -, -, habout⟩ := compiled_facts v result
  have hwork := work_eq hcall (holder_of_compiling hcall hphase hs)
  rw [account?_comeBack] at hacc'
  rw [workOn, work_comeBack hcall hphase hs, habout]
  split at hacc'
  · rename_i hv
    subst hv
    obtain ⟨acc, hacc, rfl⟩ := Option.map_eq_some_iff.mp hacc'
    obtain ⟨c, hmade, hallows⟩ := hs.accounts v acc hacc
    rw [workOn, hwork, hphase] at hallows
    rw [if_pos rfl]
    rw [show (Phase.compiling v : Phase α ε).about? = some v from rfl, if_pos rfl] at hallows
    obtain ⟨past, hpast, rfl⟩ := hallows
    exact ⟨c, List.mem_cons_of_mem _ hmade, Phase.allows_compiled v result hpast⟩
  · rename_i hv
    obtain ⟨c, hmade, hallows⟩ := hs.accounts w acc' hacc'
    have hother : ¬ (Phase.compiling v : Phase α ε).about? = some w := by
      intro h
      cases h
      exact hv rfl
    rw [workOn, hwork, hphase, if_neg hother] at hallows
    rw [if_neg fun h => hv (Option.some.inj h)]
    exact ⟨c, List.mem_cons_of_mem _ hmade, hallows⟩

include hcall hphase in
lemma fits_comeBack (hs : s.Sound describe compiles) (j : Nat) (other : Call α ε)
    (hother : (s.comeBack i call v result).calls[j]? = some other) :
    (s.comeBack i call v result).Fits describe other := by
  rw [calls_comeBack hcall] at hother
  split at hother
  · cases hother
    have hv : call.phase.about? = some v := by
      rw [hphase]
      rfl
    obtain ⟨hversion, hmade⟩ := (hs.fits i call hcall).of_about? hv
    obtain ⟨acc, hacc⟩ := account?_of_lt (hs.made _ _ hmade)
    obtain ⟨acc', hacc'⟩ := account?_comeBack_of_account? hacc
    exact Or.inr ⟨v, acc', hversion, List.mem_cons_of_mem _ hmade, hacc',
      Or.inl (compiled_facts v result).2.2.2⟩
  · rcases hs.fits j other hother with
      h | ⟨w, acc, hw, hmade, hacc, habout | ⟨habout, o, ho, htells⟩⟩
    · exact Or.inl h
    · obtain ⟨acc', hacc'⟩ := account?_comeBack_of_account? hacc
      exact Or.inr ⟨w, acc', hw, List.mem_cons_of_mem _ hmade, hacc', Or.inl habout⟩
    · obtain ⟨acc', hacc', htells'⟩ := tells_comeBack hacc htells
      exact Or.inr ⟨w, acc', hw, List.mem_cons_of_mem _ hmade, hacc',
        Or.inr ⟨habout, o, ho, htells'⟩⟩

include hcall hphase in
/-- **A compilation that comes back keeps the invariant**, as its result belongs to the source of
the version that was handed over. -/
lemma sound_comeBack (hs : s.Sound describe compiles) (hversion : s.version? v = some version)
    (hresult : compiles call.cell version.source result) :
    (s.comeBack i call v result).Sound describe compiles := by
  have hholder := holder_of_compiling hcall hphase hs
  have hwork := work_eq hcall hholder
  have hwork' : (s.comeBack i call v result).work = Phase.compiled v result :=
    work_comeBack hcall hphase hs
  obtain ⟨hlocked, hcompiling, hpast, -⟩ := compiled_facts v result
  have hv : call.phase.about? = some v := by
    rw [hphase]
    rfl
  have hmade := ((hs.fits i call hcall).of_about? hv).2
  have mem {d : Deed α ε} (hd : d ∈ s.deeds) : d ∈ (s.comeBack i call v result).deeds :=
    List.mem_cons_of_mem _ hd
  have madeOf {c w : Nat} (h : .made c w ∈ (s.comeBack i call v result).deeds) :
      .made c w ∈ s.deeds := by
    rcases List.mem_cons.mp h with h | h
    · cases h
    · exact h
  refine
    { lock := ?lock
      held := ?held
      accounts := accounts_comeBack hcall hphase hs
      fits := fits_comeBack hcall hphase hs
      made := fun c w h => hs.made c w (madeOf h)
      owner := fun c c' w h h' => hs.owner c c' w (madeOf h) (madeOf h')
      current := fun c w hw => mem (hs.current c w hw)
      unseen := ?unseen
      entered := ?entered
      returned := ?returned
      countedBegan := ?countedBegan
      countedReturned := ?countedReturned
      countedFailures := ?countedFailures }
  case lock =>
    intro j other hother
    rw [calls_comeBack hcall] at hother
    split at hother
    · rename_i hij
      subst hij
      cases hother
      exact ⟨fun _ => hholder, fun _ => hlocked⟩
    · exact hs.lock j other hother
  case held =>
    intro j hj
    have hsize : (s.comeBack i call v result).calls.size = s.calls.size := by
      rw [comeBack, Array.size_setIfInBounds]
    rw [hsize]
    exact hs.held j hj
  case unseen =>
    intro w hw
    obtain ⟨hbegun, hresults⟩ := hs.unseen w hw
    have hne : v ≠ w := Nat.ne_of_lt (Nat.lt_of_lt_of_le (hs.made _ _ hmade) hw)
    rw [results_comeBack, if_neg hne]
    exact ⟨hbegun, hresults⟩
  case entered =>
    rintro j ⟨d, hd, hj⟩
    rw [calls_comeBack hcall]
    rcases List.mem_cons.mp hd with rfl | hd
    · cases hj
    · obtain ⟨other, hother, hother'⟩ := hs.entered j ⟨d, hd, hj⟩
      by_cases hij : i = j
      · exact ⟨_, if_pos hij, hpast⟩
      · exact ⟨other, (if_neg hij).trans hother, hother'⟩
  case returned =>
    intro j w result' hd
    rcases List.mem_cons.mp hd with h | hd
    · cases h
      exact ⟨call.cell, version, mem hmade, hversion, hresult⟩
    · obtain ⟨c, version', hmade', h⟩ := hs.returned j w result' hd
      exact ⟨c, version', mem hmade', h⟩
  case countedBegan => exact hs.countedBegan
  case countedReturned =>
    have hcounted := hs.countedReturned
    have hnow : s.work.isCompiling = true := by
      rw [hwork, hphase]
      rfl
    have hreturned : (s.comeBack i call v result).deeds.countP Deed.isReturned =
        s.deeds.countP Deed.isReturned + 1 := List.countP_cons_of_pos rfl
    rw [hnow, if_pos rfl] at hcounted
    rw [hwork', hcompiling, hreturned]
    exact hcounted
  case countedFailures =>
    have hcounted := hs.countedFailures
    have hnow : s.work.isCountingFailure = false := by
      rw [hwork, hphase]
      rfl
    rw [hnow] at hcounted
    rw [hwork']
    cases result with
    | ok a => exact hcounted
    | error e =>
        have hfailed : (s.comeBack i call v (.error e)).deeds.countP Deed.isFailure =
            s.deeds.countP Deed.isFailure + 1 := List.countP_cons_of_pos rfl
        rw [hfailed]
        exact congrArg (· + 1) hcounted

end ComesBack

/-! ## Any order -/

/-- Where there are neither cells nor calls there is nothing to hold. -/
lemma sound_empty : (empty : CallSystem α ε).Sound describe compiles where
  lock := by
    intro i call h
    cases h
  held := by
    intro i h
    cases h
  accounts := by
    intro v acc h
    cases h
  fits := by
    intro i call h
    cases h
  made := by
    intro c v h
    cases h
  owner := by
    intro c c' v h
    cases h
  current := by
    intro c v h
    cases h
  unseen := fun v _ => ⟨rfl, rfl⟩
  entered := by
    rintro i ⟨d, hd, -⟩
    cases hd
  returned := by
    intro i v result h
    cases h
  countedBegan := rfl
  countedReturned := rfl
  countedFailures := rfl

/-- **Every step keeps the invariant.** -/
lemma sound_step {s t : CallSystem α ε} (h : Step describe compiles s t)
    (hs : s.Sound describe compiles) : t.Sound describe compiles := by
  cases h with
  | make source number =>
      refine sound_withVersion hs source number ?_
      intro c v hv
      rw [Array.getElem?_push] at hv
      split at hv
      · rename_i hc
        cases hv
        exact Or.inr ⟨hc, rfl⟩
      · exact Or.inl hv
  | edit cell source number hcell =>
      refine sound_withVersion hs source number ?_
      intro c v hv
      rw [Array.getElem?_setIfInBounds] at hv
      split at hv
      · rename_i hc
        cases hv
        exact Or.inr ⟨hc.symm, rfl⟩
      · exact Or.inl hv
  | call cell hcell => exact sound_call hs cell
  | advance i call current phase records hcall hcurrent hstep =>
      exact sound_goOn hcall hstep hs hcurrent
  | comeBack i call v version result hcall hphase hversion hresult =>
      exact sound_comeBack hcall hphase hs hversion hresult

/-- Any number of steps keeps the invariant. -/
lemma sound_of_steps {s t : CallSystem α ε} (h : Steps describe compiles s t)
    (hs : s.Sound describe compiles) : t.Sound describe compiles := by
  induction h with
  | none => exact hs
  | more _ hstep ih => exact sound_step hstep ih

/-- The invariant holds in every reachable state. -/
lemma sound_of_reachable (h : Reachable describe compiles s) : s.Sound describe compiles :=
  sound_of_steps h sound_empty

end FormulaCube.CallSystem
