import FormulaCube.Proofs.Calls.Agreement

/-!
# What a reader without the lock finds in a version

A reader without the lock may look at a version between any two writes. Two facts about a step carry
what it finds there.

**Writes.**  A version changes only when a call that works on it takes its next step
(`CallSystem.version?_step`), and each field that keeps an outcome is written from one phase
(`Phase.writes?`). The account that this phase allows has the field empty, or it is the cause of a
failure without words. A field that is set stays set, so that no run writes one twice but such a cause
(`CallSystem.wordless_of_assigns_again`).

**Visits.**  A call with the lock has taken it, and only such a call writes
(`CallSystem.Visits`). So a version that no call has visited is as it was made.

`CallSystem.version_is_legible` puts them together, and `CallSystem.mute_cause_again` is an order of
steps in which a cause is written twice.
-/

namespace FormulaCube

variable {α ε : Type}

/-! ## Fields -/

/-- The fields of a version that keep what its compilation came to. -/
inductive Field where
  /-- What it was compiled to. -/
  | artifact
  /-- The words for the failure to compile it. -/
  | words
  /-- The cause of that failure. -/
  | cause
  deriving DecidableEq

namespace Version

/-- The field is set. -/
def has (version : Version α ε) : Field → Bool
  | .artifact => version.artifact.isSome
  | .words => version.words.isSome
  | .cause => version.cause.isSome

/-- Two versions hold the same in a field. -/
def Agrees (version version' : Version α ε) : Field → Prop
  | .artifact => version.artifact = version'.artifact
  | .words => version.words = version'.words
  | .cause => version.cause = version'.cause

/-- Nothing was ever written into the version. -/
def IsBlank (version : Version α ε) : Prop := version = blank version.source version.number

lemma Agrees.refl (version : Version α ε) (f : Field) : version.Agrees version f := by
  cases f <;> rfl

lemma Agrees.has_eq {version version' : Version α ε} {f : Field} (h : version.Agrees version' f) :
    version.has f = version'.has f := by
  cases f <;> exact congrArg Option.isSome h

end Version

namespace Phase

/-- The field that the next step from a phase writes. -/
def writes? (describe : Nat → ε → Except ε Text) : Phase α ε → Option Field
  | .keeping _ _ => some .artifact
  | .keepingWords v e =>
    match describe v e with
    | .ok _ => some .words
    | .error _ => none
  | .keepingCause _ _ => some .cause
  | _ => none

variable {describe : Nat → ε → Except ε Text}

lemma isLocked_of_writes? {p : Phase α ε} {f : Field} (h : p.writes? describe = some f) :
    p.isLocked = true := by
  cases p <;> first | rfl | cases h

lemma write_agrees {p : Phase α ε} {f : Field} (h : p.writes? describe ≠ some f)
    (version : Version α ε) : version.Agrees (p.write describe version) f := by
  cases p with
  | keepingWords v e =>
      simp only [writes?] at h
      simp only [write]
      split <;> rename_i hwords <;> simp only [hwords] at h
      · cases f <;> first | rfl | exact absurd rfl h
      · exact .refl version f
  | _ => cases f <;> first | rfl | exact absurd rfl h

lemma write_has {p : Phase α ε} {f : Field} (h : p.writes? describe = some f)
    (version : Version α ε) : (p.write describe version).has f = true := by
  cases p with
  | keepingWords v e =>
      simp only [writes?] at h
      simp only [write]
      split <;> rename_i hwords <;> simp only [hwords] at h
      · cases h
        rfl
      · cases h
  | _ => cases h <;> rfl

/-- A field that is set stays set. -/
lemma write_keeps_field (describe : Nat → ε → Except ε Text) (p : Phase α ε)
    {version : Version α ε} {f : Field} (h : version.has f = true) :
    (p.write describe version).has f = true := by
  by_cases hf : p.writes? describe = some f
  · exact write_has hf version
  · rw [← (write_agrees hf version).has_eq, h]

/-- Only a call with the lock writes. -/
lemma write_of_not_isLocked (describe : Nat → ε → Except ε Text) {p : Phase α ε}
    (h : p.isLocked = false) (version : Version α ε) : p.write describe version = version := by
  cases p <;> first | rfl | cases h

/-- **A field is written while it is empty**, or it is the cause of a failure without words, the last
one of a version without an outcome. -/
lemma Allows.not_has {words : ε → Except ε Text} {p : Phase α ε} {version : Version α ε} {begun : Nat}
    {results : List (Except ε α)} {f : Field} (hf : p.writes? describe = some f)
    (h : p.Allows words ⟨version.artifact, version.words, version.cause, version.compiling, begun,
      results⟩) :
    version.has f = false ∨ (f = .cause ∧ version.artifact = none ∧ version.words = none ∧
      ∃ e reason, version.cause = some e ∧ .error e ∈ results ∧ words e = .error reason) := by
  cases p with
  | keeping v a =>
      obtain ⟨past, -, hacc⟩ := h
      cases hf
      have hartifact : version.artifact = none := (Account.mk.inj hacc).1
      exact Or.inl (congrArg Option.isSome hartifact)
  | keepingWords v e =>
      obtain ⟨past, -, hacc⟩ := h
      simp only [writes?] at hf
      split at hf <;> cases hf
      have hwords : version.words = none := (Account.mk.inj hacc).2.1
      exact Or.inl (congrArg Option.isSome hwords)
  | keepingCause v e =>
      obtain ⟨past, hpast, hacc⟩ := h
      cases hf
      obtain ⟨hartifact, hwords, hcause, -, -, hresults⟩ := Account.mk.inj hacc
      cases past with
      | nil => exact Or.inl (congrArg Option.isSome hcause)
      | cons e' past =>
          obtain ⟨reason, hreason⟩ := hpast e' List.mem_cons_self
          refine Or.inr ⟨rfl, hartifact, hwords, e', reason, hcause, ?_, hreason⟩
          rw [hresults]
          exact List.mem_cons_of_mem _ List.mem_cons_self
  | _ => cases hf

/-- Taking the lock can be seen. -/
lemma mem_deeds_of_isWaiting {me current : Nat} {p : Phase α ε} (h : p.isWaiting = true) :
    .locked me ∈ p.deeds me current := by
  cases p with
  | waiting v => exact List.mem_cons_self
  | _ => cases h

/-- A version is marked only while a call works on it. -/
lemma Allows.about?_of_compiling {words : ε → Except ε Text} {p : Phase α ε} {acc : Account α ε}
    (h : p.Allows words acc) (hc : acc.compiling = true) : ∃ v, p.about? = some v := by
  cases hp : p.about? with
  | some v => exact ⟨v, rfl⟩
  | none =>
      have hsettled := (allows_of_about?_eq_none hp acc).mp h
      cases hsettled <;> cases hc

end Phase

namespace CallSystem

variable {describe : Nat → Text → ε → Except ε Text} {compiles : Nat → Text → Except ε α → Prop}
  {s t u u' : CallSystem α ε}

/-! ## Writes -/

/-- A call that works on the version takes its next step. -/
structure Works (describe : Nat → Text → ε → Except ε Text) (v i : Nat) (call : Call α ε)
    (s t : CallSystem α ε) : Prop where
  /-- The call. -/
  stands : s.calls[i]? = some call
  /-- The version that it works on. -/
  about : call.phase.about? = some v
  /-- Its next step. -/
  goes : ∃ current phase records, s.cells[call.cell]? = some current ∧
    call.phase.step i current (fun v => describe call.cell (s.sourceOf v)) s.records =
      some (phase, records) ∧ t = s.goOn i call current phase records

/-- The step is one that writes the field of the version. -/
def Assigns (describe : Nat → Text → ε → Except ε Text) (f : Field) (v : Nat)
    (s t : CallSystem α ε) : Prop :=
  ∃ i call, Works describe v i call s t ∧
    call.phase.writes? (fun v => describe call.cell (s.sourceOf v)) = some f

lemma Works.version? {v i : Nat} {call : Call α ε} (h : Works describe v i call s t)
    {version : Version α ε} (hversion : s.version? v = some version) :
    t.version? v =
      some (call.phase.write (fun v => describe call.cell (s.sourceOf v)) version) := by
  obtain ⟨current, phase, records, -, hstep, rfl⟩ := h.goes
  have hversion' := Phase.step_version? hstep v
  rwa [if_pos h.about, show s.records.version? v = some version from hversion] at hversion'

lemma Works.step {v i : Nat} {call : Call α ε} (h : Works describe v i call s t) :
    Step describe compiles s t := by
  obtain ⟨current, phase, records, hcurrent, hstep, rfl⟩ := h.goes
  exact .advance s i call current phase records h.stands hcurrent hstep

/-- **A step writes only into the version that its call works on.** -/
lemma version?_step (h : Step describe compiles s t) {v : Nat} {version : Version α ε}
    (hversion : s.version? v = some version) :
    t.version? v = some version ∨ ∃ i call, Works describe v i call s t := by
  cases h with
  | make source number => exact Or.inl (version?_withVersion_of_version? s.cells.size hversion)
  | edit cell source number hcell =>
      exact Or.inl (version?_withVersion_of_version? cell hversion)
  | call cell hcell => exact Or.inl hversion
  | comeBack i call w version' result hcall hphase hversion' hresult => exact Or.inl hversion
  | advance i call current phase records hcall hcurrent hstep =>
      by_cases habout : call.phase.about? = some v
      · exact Or.inr ⟨i, call, hcall, habout, current, phase, records, hcurrent, hstep, rfl⟩
      · refine Or.inl ?_
        have hversion' := Phase.step_version? hstep v
        rw [if_neg habout] at hversion'
        exact hversion'.trans hversion

/-- A version that a step makes is blank. -/
lemma isBlank_of_new (h : Step describe compiles s t) {v : Nat} {version : Version α ε}
    (hnone : s.version? v = none) (hversion : t.version? v = some version) : version.IsBlank := by
  have hmade (cell : Nat) (source : Text) (number : Nat)
      (hversion : (s.withVersion cell (Version.blank source number)).version? v = some version) :
      version.IsBlank := by
    rw [version?_withVersion, hnone] at hversion
    split at hversion
    · cases hversion
      rfl
    · cases hversion
  have hold (hversion : s.version? v = some version) : version.IsBlank := by
    rw [hnone] at hversion
    cases hversion
  cases h with
  | make source number => exact hmade s.cells.size source number hversion
  | edit cell source number hcell => exact hmade cell source number hversion
  | call cell hcell => exact hold hversion
  | comeBack i call w version' result hcall hphase hversion' hresult => exact hold hversion
  | advance i call current phase records hcall hcurrent hstep =>
      change records.version? v = some version at hversion
      rw [Phase.step_version? hstep v, show s.records.version? v = none from hnone] at hversion
      split at hversion <;> cases hversion

/-- A field of a version changes only in a step that writes it. -/
lemma assigns_of_not_agrees (h : Step describe compiles s t) {v : Nat}
    {version version' : Version α ε} (hversion : s.version? v = some version)
    (hversion' : t.version? v = some version') {f : Field} (hf : ¬ version.Agrees version' f) :
    Assigns describe f v s t := by
  rcases version?_step h hversion with hsame | ⟨i, call, hworks⟩
  · obtain rfl : version = version' := Option.some.inj (hsame.symm.trans hversion')
    exact absurd (.refl version f) hf
  · refine ⟨i, call, hworks, Decidable.byContradiction fun hwrites => hf ?_⟩
    rw [hworks.version? hversion] at hversion'
    cases hversion'
    exact Phase.write_agrees hwrites version

/-- A field of a version that is set stays set. -/
lemma has_of_steps (h : Steps describe compiles s t) {v : Nat} {f : Field}
    (hset : ∃ version, s.version? v = some version ∧ version.has f = true) :
    ∃ version, t.version? v = some version ∧ version.has f = true := by
  induction h with
  | none => exact hset
  | more _ hstep ih =>
      obtain ⟨version, hversion, hhas⟩ := ih
      rcases version?_step hstep hversion with hsame | ⟨i, call, hworks⟩
      · exact ⟨version, hsame, hhas⟩
      · exact ⟨_, hworks.version? hversion, Phase.write_keeps_field _ _ hhas⟩

/-- A step that writes a field of a version leaves it set. -/
lemma Assigns.has (hs : s.Sound describe compiles) {f : Field} {v : Nat}
    (h : Assigns describe f v s t) : ∃ version, t.version? v = some version ∧ version.has f = true := by
  obtain ⟨i, call, hworks, hwrites⟩ := h
  obtain ⟨-, hmade⟩ := (hs.fits i call hworks.stands).of_about? hworks.about
  obtain ⟨acc, hacc⟩ := account?_of_lt (hs.made _ _ hmade)
  obtain ⟨version, hversion, -⟩ := account?_eq_some hacc
  exact ⟨_, hworks.version? hversion, Phase.write_has hwrites version⟩

/-- A step that writes a field of a version finds it empty, or the version without an outcome, and
then it is the cause of a failure without words. -/
lemma Assigns.not_has (hs : s.Sound describe compiles) {f : Field} {v : Nat}
    (h : Assigns describe f v s t) :
    ∃ version, s.version? v = some version ∧ (version.has f = false ∨
      (f = .cause ∧ version.artifact = none ∧ version.words = none ∧
        ∃ e reason, version.cause = some e ∧ s.Wordless describe v e reason)) := by
  obtain ⟨i, call, hworks, hwrites⟩ := h
  obtain ⟨-, hmade⟩ := (hs.fits i call hworks.stands).of_about? hworks.about
  obtain ⟨acc, hacc⟩ := account?_of_lt (hs.made _ _ hmade)
  obtain ⟨version, hversion, rfl⟩ := account?_eq_some hacc
  have hallows := allows_of_isLocked hworks.stands hs hworks.about hacc
    (Phase.isLocked_of_writes? hwrites)
  refine ⟨version, hversion, (hallows.not_has hwrites).imp_right ?_⟩
  rintro ⟨hf, hartifact, hwords, e, reason, hcause, hresult, hreason⟩
  exact ⟨hf, hartifact, hwords, e, reason, hcause, hresult, call.cell, hmade, hreason⟩

/-- **No field of a version is written twice**, but the cause of a failure without words. -/
lemma wordless_of_assigns_again (hs : s.Sound describe compiles) (hu : u.Sound describe compiles)
    {f : Field} {v : Nat} (h : Assigns describe f v s t) (hsteps : Steps describe compiles t u)
    (hagain : Assigns describe f v u u') :
    f = .cause ∧ ∃ version e reason, u.version? v = some version ∧ version.artifact = none ∧
      version.words = none ∧ version.cause = some e ∧ u.Wordless describe v e reason := by
  obtain ⟨version, hversion, hset⟩ := has_of_steps hsteps (h.has hs)
  obtain ⟨version', hversion', hempty | ⟨hf, hartifact, hwords, e, reason, hcause, hreason⟩⟩ :=
    hagain.not_has hu
  · obtain rfl : version = version' := Option.some.inj (hversion.symm.trans hversion')
    rw [hset] at hempty
    cases hempty
  · exact ⟨hf, version', e, reason, hversion', hartifact, hwords, hcause, hreason⟩

/-! ## Visits -/

/-- A call that captured the version has taken the lock. -/
def Visited (s : CallSystem α ε) (v : Nat) : Prop :=
  ∃ (i : Nat) (call : Call α ε), s.calls[i]? = some call ∧ call.version = some v ∧
    .locked i ∈ s.deeds

/-- What taking the lock leaves behind. -/
structure Visits (s : CallSystem α ε) : Prop where
  /-- A call that holds the lock took it. -/
  took : ∀ (i : Nat) (call : Call α ε), s.calls[i]? = some call → call.phase.isLocked = true →
    .locked i ∈ s.deeds
  /-- A version that was written to was visited. -/
  visited : ∀ v version, s.version? v = some version → ¬ version.IsBlank → s.Visited v

/-- A call that captured a version keeps it, and what was done stays done. -/
lemma Visited.step {v : Nat} (h : s.Visited v) (hstep : Step describe compiles s t) :
    t.Visited v := by
  obtain ⟨i, call, hcall, hversion, hlocked⟩ := h
  have hi : i < s.calls.size := (Array.getElem?_eq_some_iff.mp hcall).1
  cases hstep with
  | make source number => exact ⟨i, call, hcall, hversion, List.mem_cons_of_mem _ hlocked⟩
  | edit cell source number hcell =>
      exact ⟨i, call, hcall, hversion, List.mem_cons_of_mem _ hlocked⟩
  | call cell hcell => exact ⟨i, call, (calls_push _ i hi).trans hcall, hversion, hlocked⟩
  | comeBack j other w version result hother hphase hversion' hresult =>
      have hlocked' := List.mem_cons_of_mem (Deed.returned j w result) hlocked
      by_cases hij : j = i
      · subst hij
        obtain rfl : call = other := Option.some.inj (hcall.symm.trans hother)
        exact ⟨j, _, (calls_comeBack hother j).trans (if_pos rfl), hversion, hlocked'⟩
      · exact ⟨i, call, (calls_comeBack hother i).trans ((if_neg hij).trans hcall), hversion,
          hlocked'⟩
  | advance j other current phase records hother hcurrent hstep =>
      have hj : j < s.calls.size := (Array.getElem?_eq_some_iff.mp hother).1
      by_cases hij : j = i
      · subst hij
        obtain rfl : call = other := Option.some.inj (hcall.symm.trans hother)
        refine ⟨j, _, (calls_goOn hj j).trans (if_pos rfl), ?_, mem_deeds_goOn hlocked⟩
        rw [hversion]
        rfl
      · exact ⟨i, call, (calls_goOn hj i).trans ((if_neg hij).trans hcall), hversion,
          mem_deeds_goOn hlocked⟩

/-- A call that holds the lock after a step took it, now or before. -/
lemma took_step (hs : s.Visits) (h : Step describe compiles s t) (i : Nat) (call : Call α ε)
    (hcall : t.calls[i]? = some call) (hlocked : call.phase.isLocked = true) :
    .locked i ∈ t.deeds := by
  cases h with
  | make source number => exact List.mem_cons_of_mem _ (hs.took i call hcall hlocked)
  | edit cell source number hcell => exact List.mem_cons_of_mem _ (hs.took i call hcall hlocked)
  | call cell hcell =>
      change (s.calls.push ⟨cell, none, .start⟩)[i]? = some call at hcall
      rw [Array.getElem?_push] at hcall
      split at hcall
      · cases hcall
        cases hlocked
      · exact hs.took i call hcall hlocked
  | comeBack j other w version result hother hphase hversion hresult =>
      rw [calls_comeBack hother] at hcall
      split at hcall
      · rename_i hij
        subst hij
        refine List.mem_cons_of_mem _ (hs.took j other hother ?_)
        rw [hphase]
        rfl
      · exact List.mem_cons_of_mem _ (hs.took i call hcall hlocked)
  | advance j other current phase records hother hcurrent hstep =>
      have hj : j < s.calls.size := (Array.getElem?_eq_some_iff.mp hother).1
      rw [calls_goOn hj] at hcall
      split at hcall
      · rename_i hij
        subst hij
        cases hcall
        rw [Phase.step_isLocked hstep, Bool.or_eq_true, Bool.and_eq_true] at hlocked
        rcases hlocked with hwaiting | ⟨hbefore, -⟩
        · exact List.mem_append_left _ (Phase.mem_deeds_of_isWaiting hwaiting)
        · exact mem_deeds_goOn (hs.took j other hother hbefore)
      · exact mem_deeds_goOn (hs.took i call hcall hlocked)

/-- A version that a step wrote to was visited. -/
lemma visited_step (hs : s.Sound describe compiles) (hv : s.Visits)
    (h : Step describe compiles s t) (v : Nat) (version' : Version α ε)
    (hversion' : t.version? v = some version') (hblank : ¬ version'.IsBlank) : t.Visited v := by
  cases hversion : s.version? v with
  | none => exact absurd (isBlank_of_new h hversion hversion') hblank
  | some version =>
      rcases version?_step h hversion with hsame | ⟨i, call, hworks⟩
      · obtain rfl : version = version' := Option.some.inj (hsame.symm.trans hversion')
        exact (hv.visited v version hversion hblank).step h
      · cases hlocked : call.phase.isLocked with
        | true =>
            obtain ⟨hcaptured, -⟩ := (hs.fits i call hworks.stands).of_about? hworks.about
            have htook := hv.took i call hworks.stands hlocked
            exact Visited.step ⟨i, call, hworks.stands, hcaptured, htook⟩ h
        | false =>
            rw [hworks.version? hversion, Phase.write_of_not_isLocked _ hlocked] at hversion'
            cases hversion'
            exact (hv.visited v _ hversion hblank).step h

lemma visits_step (hs : s.Sound describe compiles) (hv : s.Visits)
    (h : Step describe compiles s t) : t.Visits where
  took := took_step hv h
  visited := visited_step hs hv h

/-- In every reachable state, a version that was written to was visited. -/
lemma visits_of_reachable (h : Reachable describe compiles s) : s.Visits := by
  induction h with
  | none =>
      constructor
      · intro i call hcall
        cases hcall
      · intro v version hversion
        cases hversion
  | more hsteps hstep ih => exact visits_step (sound_of_reachable hsteps) ih hstep

/-! ## What a reader finds -/

/-- What a reader without the lock can rely on in a version. -/
structure Legible (s : CallSystem α ε) (v : Nat) (version : Version α ε) : Prop where
  /-- There is an artifact, or there are words for a failure, but never both. -/
  exclusive : version.artifact = none ∨ version.words = none
  /-- Words for a failure come with its cause. -/
  explained : version.words ≠ none → version.cause ≠ none
  /-- It is marked only while the call that holds the lock works on it. -/
  marked : version.compiling = true → ∃ (i : Nat) (call : Call α ε), s.records.holder = some i ∧
    s.calls[i]? = some call ∧ call.version = some v ∧ call.phase.about? = some v
  /-- It is as it was made unless a call that captured it took the lock. -/
  untouched : ¬ s.Visited v → version.IsBlank

/-- A version that is worked on is the one that the holder of the lock captured. -/
lemma holder_of_workOn (hs : s.Sound describe compiles) {v w : Nat}
    (h : (s.workOn v).about? = some w) :
    ∃ (i : Nat) (call : Call α ε), s.records.holder = some i ∧ s.calls[i]? = some call ∧
      call.version = some v ∧ call.phase.about? = some v ∧ call.phase = s.workOn v := by
  rw [workOn] at h ⊢
  split at h
  · rename_i habout
    rw [if_pos habout]
    cases hholder : s.records.holder with
    | none =>
        rw [work, hholder] at habout
        cases habout
    | some i =>
        have hcall := Array.getElem?_eq_getElem (hs.held i hholder)
        rw [work_eq hcall hholder] at habout ⊢
        exact ⟨i, _, rfl, hcall, ((hs.fits i _ hcall).of_about? habout).1, habout, rfl⟩
  · cases h

/-- A version that is marked is the one that the holder of the lock works on. -/
lemma marked_of_compiling (hs : s.Sound describe compiles) {v : Nat} {version : Version α ε}
    (hversion : s.version? v = some version) (hc : version.compiling = true) :
    ∃ (i : Nat) (call : Call α ε), s.records.holder = some i ∧ s.calls[i]? = some call ∧
      call.version = some v ∧ call.phase.about? = some v := by
  obtain ⟨c, -, hallows⟩ := hs.accounts v _ (account?_of_version? hversion)
  obtain ⟨w, hw⟩ := hallows.about?_of_compiling hc
  obtain ⟨i, call, hholder, hcall, hcaptured, habout, -⟩ := holder_of_workOn hs hw
  exact ⟨i, call, hholder, hcall, hcaptured, habout⟩

lemma legible_of_sound (hs : s.Sound describe compiles) (hv : s.Visits) {v : Nat}
    {version : Version α ε} (hversion : s.version? v = some version) : s.Legible v version where
  exclusive := by
    obtain ⟨c, -, hallows⟩ := hs.accounts v _ (account?_of_version? hversion)
    cases hw : version.words with
    | none => exact Or.inr rfl
    | some words =>
        obtain ⟨-, -, -, -, hnone, -⟩ := hallows.of_words hw
        exact Or.inl hnone
  explained := by
    intro hwords
    obtain ⟨words, hw⟩ := Option.ne_none_iff_exists'.mp hwords
    obtain ⟨e, he⟩ := hs.cause_of_words (account?_of_version? hversion) words hw
    rw [show version.cause = some e from he]
    exact Option.some_ne_none e
  marked := marked_of_compiling hs hversion
  untouched := fun hvisited => Classical.byContradiction fun hblank =>
    hvisited (hv.visited v version hversion hblank)

/-- **A reader without the lock can rely on a version.** Whatever the order of the steps of any
number of calls, with cells made and edited between them:

* each version is legible (`Legible`);
* at most one version is marked as being compiled;
* a step that writes the artifact of a version or the words for its failure is the last one that
  does; so is one that writes the cause, unless the version has no outcome and that cause is one of a
  failure without words;
* none of them changes but in a step that writes it. -/
theorem version_is_legible (h : Reachable describe compiles s) :
    (∀ v version, s.version? v = some version → s.Legible v version) ∧
    (∀ v w version version', s.version? v = some version → s.version? w = some version' →
      version.compiling = true → version'.compiling = true → v = w) ∧
    (∀ f v t u u', Assigns describe f v s t → Steps describe compiles t u →
      Assigns describe f v u u' → f = .cause ∧ ∃ version e reason, u.version? v = some version ∧
        version.artifact = none ∧ version.words = none ∧ version.cause = some e ∧
        u.Wordless describe v e reason) ∧
    (∀ f v t version version', Step describe compiles s t → s.version? v = some version →
      t.version? v = some version' → ¬ version.Agrees version' f → Assigns describe f v s t) := by
  have hs := sound_of_reachable h
  refine ⟨fun v version hversion => legible_of_sound hs (visits_of_reachable h) hversion, ?_, ?_,
    fun f v t version version' hstep hversion hversion' hf =>
      assigns_of_not_agrees hstep hversion hversion' hf⟩
  · intro v w version version' hversion hversion' hc hc'
    obtain ⟨i, call, hholder, hcall, hv, -⟩ := marked_of_compiling hs hversion hc
    obtain ⟨j, other, hholder', hother, hw, -⟩ := marked_of_compiling hs hversion' hc'
    obtain rfl : i = j := Option.some.inj (hholder.symm.trans hholder')
    obtain rfl : call = other := Option.some.inj (hcall.symm.trans hother)
    exact Option.some.inj (hv.symm.trans hw)
  · intro f v t u u' hassigns hsteps hagain
    have hstep : Step describe compiles s t := by
      obtain ⟨i, call, hworks, -⟩ := hassigns
      exact hworks.step
    have hu : Reachable describe compiles u := (Steps.more h hstep).trans hsteps
    exact wordless_of_assigns_again hs (sound_of_reachable hu) hassigns hsteps hagain

/-! ## Writes in two orders of steps -/

/-- Where the first call of the race is about to keep its artifact. -/
def raceKeeping : CallSystem Nat Text :=
  (play raceWords raceCompile (race.take 19) .empty).getD .empty

/-- Where it has kept it. -/
def raceKept : CallSystem Nat Text :=
  (raceKeeping.move raceWords raceCompile (.advance 0)).getD .empty

/-- What comes of the rest of the race after that. -/
def raceOver : CallSystem Nat Text :=
  (play raceWords raceCompile (race.drop 20) raceKept).getD .empty

/-- What a reader finds in the version that fails, and that the artifact of the other one is written
in the middle of the race and not again after its end. -/
theorem race_version_is_legible :
    raceState.Legible 1 ⟨['b'], 2, none, some ['b'], some ['b'], false⟩ ∧
    Assigns raceWords .artifact 0 raceKeeping raceKept ∧
    ∀ u, ¬ Assigns raceWords .artifact 0 raceOver u := by
  have hreach : Reachable raceWords raceComes raceState := steps_of_play raceComes_raceCompile race rfl
  have hkeeping : Reachable raceWords raceComes raceKeeping :=
    steps_of_play raceComes_raceCompile (race.take 19) rfl
  have hstep : Step raceWords raceComes raceKeeping raceKept :=
    step_of_move raceComes_raceCompile (.advance 0) rfl
  have hrest : Steps raceWords raceComes raceKept raceOver :=
    steps_of_play raceComes_raceCompile (race.drop 20) rfl
  have hbefore : raceKeeping.version? 0 = some ⟨['a'], 1, none, none, none, false⟩ := rfl
  have hafter : raceKept.version? 0 = some ⟨['a'], 1, some 7, none, none, false⟩ := rfl
  obtain ⟨-, -, honce, hchanges⟩ := version_is_legible hkeeping
  have hassigns : Assigns raceWords .artifact 0 raceKeeping raceKept :=
    hchanges .artifact 0 raceKept _ _ hstep hbefore hafter (Option.some_ne_none 7).symm
  exact ⟨(version_is_legible hreach).1 1 _ rfl, hassigns,
    fun u hagain => nomatch (honce .artifact 0 raceKept raceOver u hassigns hrest hagain).1⟩

/-- Where the first call for the source that cannot be quoted is about to keep its cause. -/
def muteKeeping : CallSystem Nat Text :=
  (play raceWords raceCompile (mute.take 12) .empty).getD .empty

/-- Where it has kept it. -/
def muteKept : CallSystem Nat Text :=
  (muteKeeping.move raceWords raceCompile (.advance 0)).getD .empty

/-- Where the second call is about to do the same. -/
def muteAgain : CallSystem Nat Text :=
  (play raceWords raceCompile ((mute.take 27).drop 13) muteKept).getD .empty

/-- Where it has done so. -/
def muteTwice : CallSystem Nat Text :=
  (muteAgain.move raceWords raceCompile (.advance 1)).getD .empty

/-- **A cause may be written twice.** The version has a cause when the second call writes it again. -/
theorem mute_cause_again :
    Reachable raceWords raceComes muteKeeping ∧ Assigns raceWords .cause 0 muteKeeping muteKept ∧
    Steps raceWords raceComes muteKept muteAgain ∧
    muteAgain.version? 0 = some ⟨['c'], 1, none, none, some ['c'], true⟩ ∧
    Assigns raceWords .cause 0 muteAgain muteTwice := by
  have hwrites {s t : CallSystem Nat Text} (i : Nat) (captured : Option Nat) {current : Nat}
      {records : Records Nat Text}
      (hcall : s.calls[i]? = some ⟨0, captured, .keepingCause 0 ['c']⟩)
      (hcurrent : s.cells[0]? = some current)
      (hgoes : (Phase.keepingCause 0 ['c']).step i current (fun v => raceWords 0 (s.sourceOf v))
        s.records = some (.keepingWords 0 ['c'], records) ∧
          t = s.goOn i ⟨0, captured, .keepingCause 0 ['c']⟩ current (.keepingWords 0 ['c']) records) :
      Assigns raceWords .cause 0 s t :=
    ⟨i, _, ⟨hcall, rfl, current, _, records, hcurrent, hgoes⟩, rfl⟩
  exact ⟨steps_of_play raceComes_raceCompile (mute.take 12) rfl,
    hwrites 0 (some 0) rfl rfl ⟨rfl, rfl⟩,
    steps_of_play raceComes_raceCompile ((mute.take 27).drop 13) rfl, rfl,
    hwrites 1 (some 0) rfl rfl ⟨rfl, rfl⟩⟩

end CallSystem

end FormulaCube
