import FormulaCube.Proofs.Calls.Phases
import FormulaCube.Proofs.Nesting.Moment

/-!
# What stays compiled

A call for the artifact of a cell that has one ends at once. Any other call changes the one version it
is about, and that had no artifact. So looking up and compiling leave every artifact where it is.

**One call.** `Phase.target?` is the version that a call is about, now or soon. `Phase.run_version?` and
`Phase.run_target?` say that it changes no other; `Phase.run_of_artifact` is a call that ends at once.

**Worlds.** `World.Compiled` is a cell whose current version has an artifact, and `Retains` says that all of
them stay. `prepare_retains` is what comes before code runs, and `compilation?_of_compiled` says that
nothing is handed to a back end for such a cell.
-/

namespace FormulaCube

open Run Eval

/-! ## One call -/

namespace Phase

variable {α ε : Type} {me current v : Nat} {describe : Nat → ε → Except ε Text} {p p' : Phase α ε}
  {s s' : Records α ε}

/-- The version that a call for a cell with this current version is about, now or after its first
step. -/
def target? (current : Nat) : Phase α ε → Option Nat
  | .start => some current
  | p => p.about?

lemma about?_ne_of_target? (h : p.target? current ≠ some v) : p.about? ≠ some v := by
  cases p with
  | start => simp [about?]
  | _ => exact h

lemma step_target? (h : p.step me current describe s = some (p', s')) :
    p'.target? current = p.target? current ∨ p'.target? current = none := by
  cases p <;> simp only [step] at h <;> (try split at h) <;> cases h <;>
    first
      | exact Or.inl rfl
      | exact Or.inr rfl

/-- What every step preserves holds when a call has no step left. -/
lemma run_preserves {R : Phase α ε → Records α ε → Prop} {bound : Nat}
    (hstep : ∀ {p p' s s'}, p.step me current describe s = some (p', s') → R p s → R p' s')
    (h : R p s) (hrun : p.run me current describe bound s = (p', s')) : R p' s' := by
  induction bound generalizing p s with
  | zero =>
      obtain ⟨rfl, rfl⟩ := Prod.mk.inj hrun
      exact h
  | succ bound ih =>
      rw [run] at hrun
      cases hnext : p.step me current describe s with
      | none =>
          rw [hnext] at hrun
          obtain ⟨rfl, rfl⟩ := Prod.mk.inj hrun
          exact h
      | some next =>
          obtain ⟨p₁, s₁⟩ := next
          rw [hnext] at hrun
          exact ih (hstep hnext h) hrun

/-- A call goes on to be about its version, until it is about none. -/
lemma run_target? {bound : Nat} (hrun : p.run me current describe bound s = (p', s')) :
    p'.target? current = p.target? current ∨ p'.target? current = none := by
  refine run_preserves (R := fun q _ => q.target? current = p.target? current ∨
    q.target? current = none) ?_ (Or.inl rfl) hrun
  intro q q' t t' hstep h
  rcases h with h | h
  · exact h ▸ step_target? hstep
  · exact Or.inr ((step_target? hstep).elim (·.trans h) id)

/-- A call changes no version but the one that it is about. -/
lemma run_version? {bound : Nat} (h : p.target? current ≠ some v)
    (hrun : p.run me current describe bound s = (p', s')) : s'.version? v = s.version? v := by
  refine (run_preserves (R := fun q t => q.target? current ≠ some v ∧
    t.version? v = s.version? v) ?_ ⟨h, rfl⟩ hrun).2
  rintro q q' t t' hstep ⟨htarget, hsame⟩
  refine ⟨?_, ?_⟩
  · rcases step_target? hstep with heq | heq
    · rwa [heq]
    · simp [heq]
  · rw [step_version? hstep, if_neg (about?_ne_of_target? htarget), hsame]

/-- A call for a version that has an artifact ends with it, and changes nothing. -/
lemma run_of_artifact {a : α} {version : Version α ε} (bound : Nat)
    (hversion : s.version? current = some version) (hartifact : version.artifact = some a) :
    (start : Phase α ε).run me current describe (bound + 2) s = (.done (.artifact a), s) := by
  have hrecorded : recordedArtifact s current = some (.artifact a) := by
    rw [recordedArtifact_of_version? hversion, hartifact]
    rfl
  have hread : (readArtifact current : Phase α ε).step me current describe s =
      some (.done (.artifact a), s) := by rw [step, hrecorded]
  rw [run, step]
  dsimp only
  rw [run, hread]
  cases bound <;> rfl

/-- A call from its start changes no version that has an artifact. -/
lemma run_start_version? {a : α} {bound : Nat}
    (hrun : (start : Phase α ε).run me current describe (bound + 2) s = (p', s'))
    (hartifact : (s.version? v).bind (·.artifact) = some a) : s'.version? v = s.version? v := by
  rcases eq_or_ne v current with rfl | hne
  · obtain ⟨version, hversion, hartifact⟩ := Option.bind_eq_some_iff.mp hartifact
    rw [run_of_artifact bound hversion hartifact] at hrun
    rw [(Prod.mk.inj hrun).2]
  · have htarget : (start : Phase α ε).target? current ≠ some v := by
      intro heq
      exact hne (Option.some_inj.mp heq).symm
    exact run_version? htarget hrun

/-- What a call compiles is the current version of its cell, and had no artifact. -/
lemma of_run_compiling {bound : Nat}
    (hrun : (start : Phase α ε).run me current describe (bound + 2) s = (.compiling v, s')) :
    v = current ∧ (s.version? v).bind (·.artifact) = none := by
  have htarget : v = current := by
    rcases run_target? hrun with h | h
    · exact Option.some_inj.mp h
    · cases h
  refine ⟨htarget, Option.eq_none_iff_forall_ne_some.mpr ?_⟩
  intro a hartifact
  obtain ⟨version, hversion, hartifact⟩ := Option.bind_eq_some_iff.mp hartifact
  rw [htarget] at hversion
  rw [run_of_artifact bound hversion hartifact] at hrun
  cases hrun

end Phase

/-! ## Objects -/

/-- What does not depend on objects. -/
structure IgnoresObjects (I : World → Prop) : Prop where
  /-- They may be any. -/
  memory : ∀ {w : World} (memory : Memory), I w → I { w with memory := memory }

namespace IgnoresObjects

variable {I : World → Prop}

lemma tolerant (hI : IgnoresObjects I) : Tolerant I where
  fresh _ h := hI.memory _ h
  add _ h := hI.memory _ h
  exhaust _ h := hI.memory _ h
  above _ _ _ h := hI.memory _ h

lemma pushFrame (hI : IgnoresObjects I) (frame : Datum) : Preserves I (pushFrame frame) := by
  refine .bind .get fun w => .bind (.read w.stack) fun object => ?_
  cases object with
  | list items => exact fun _ h => hI.memory _ h
  | _ => exact .pure ()

lemma popFrame (hI : IgnoresObjects I) {w : World} (h : I w) : I (popFrame w) := by
  rw [Run.popFrame]
  split
  · exact hI.memory _ h
  · exact h

lemma resolve (hI : IgnoresObjects I) (s : Surroundings) (coordinate : Datum) (r : Reference) :
    Preserves I (r.resolve s coordinate) :=
  r.resolve_preserves hI.tolerant (fun _ _ _ _ _ h _ => hI.memory _ h) coordinate

lemma enter (hI : IgnoresObjects I) (cube : Nat) (coordinate output : Datum) :
    Preserves I (enter cube coordinate output) := by
  refine .bind (hI.tolerant.locate cube coordinate) fun found => ?_
  cases found with
  | inl value => exact .pure _
  | inr located =>
      have hadd (object : Object) : Preserves I (Eval.add object) := fun _ h => hI.memory _ h
      exact .bind (.bind (hadd _) fun frame => .bind (hI.pushFrame frame) fun _ =>
        .bind (hI.tolerant.surround cube located.record located.input output) fun _ => .pure _)
        fun _ => .pure _

end IgnoresObjects

/-! ## Worlds -/

/-- The current version of a cell, and its artifact. -/
structure World.Compiled (w : World) (cell version : Nat) (artifact : Artifact) : Prop where
  /-- The version is the current one. -/
  current : (w.cells[cell]?).map (·.current) = some version
  /-- It has this artifact. -/
  artifact : (w.versions[version]?).bind (·.artifact) = some artifact

/-- Cells that were compiled stay so, and none is taken away. -/
structure Retains (w w' : World) : Prop where
  /-- There are at least as many cells. -/
  size : w.cells.size ≤ w'.cells.size
  /-- Those that were compiled have the same artifacts. -/
  compiled : ∀ {cell version : Nat} {artifact : Artifact},
    w.Compiled cell version artifact → w'.Compiled cell version artifact

section

variable {w w₁ w₂ : World} {cell version : Nat} {artifact : Artifact}

lemma World.Compiled.congr (h : w₁.Compiled cell version artifact) (hcells : w₂.cells = w₁.cells)
    (hversion : w₂.versions[version]? = w₁.versions[version]?) :
    w₂.Compiled cell version artifact :=
  ⟨hcells ▸ h.current, hversion ▸ h.artifact⟩

namespace Retains

lemma refl (w : World) : Retains w w := ⟨Nat.le_refl _, id⟩

lemma trans (h : Retains w w₁) (h' : Retains w₁ w₂) : Retains w w₂ :=
  ⟨Nat.le_trans h.size h'.size, fun hcompiled => h'.compiled (h.compiled hcompiled)⟩

/-- Changing nothing but versions without artifacts. -/
lemma of_versions (h : Retains w w₁) (hcells : w₂.cells = w₁.cells)
    (hversions : ∀ cell version artifact, w.Compiled cell version artifact →
      w₂.versions[version]? = w₁.versions[version]?) : Retains w w₂ :=
  ⟨hcells ▸ h.size, fun hcompiled =>
    (h.compiled hcompiled).congr hcells (hversions _ _ _ hcompiled)⟩

/-- Changing neither cells nor versions. -/
lemma congr (h : Retains w w₁) (hcells : w₂.cells = w₁.cells)
    (hversions : w₂.versions = w₁.versions) : Retains w w₂ :=
  h.of_versions hcells fun _ _ _ _ => by rw [hversions]

lemma ignoresReports (w : World) : IgnoresReports (Retains w) where
  compilers _ h := h.congr rfl rfl
  log _ h := h.congr rfl rfl

lemma ignoresObjects (w : World) : IgnoresObjects (Retains w) := ⟨fun _ h => h.congr rfl rfl⟩

end Retains

end

/-! ## Steps of a call -/

section

variable {w w' : World} {compiler cell me : Nat} {p p' : Phase Artifact Failure}

lemma cellRecord_of_ok {record : CellRecord} (h : cellRecord cell w = (.ok record, w')) :
    w' = w ∧ w.cells[cell]? = some record := by
  obtain ⟨_, _, hget, h⟩ := of_bind_ok h
  obtain ⟨hworld, rfl⟩ := Prod.mk.inj hget
  obtain rfl := Except.ok.inj hworld
  cases hcell : w.cells[cell]? with
  | none =>
      rw [hcell] at h
      cases h
  | some found =>
      rw [hcell] at h
      obtain ⟨hfound, rfl⟩ := Prod.mk.inj h
      exact ⟨rfl, congrArg some (Except.ok.inj hfound)⟩

/-- The words for a failure that the steps of a call may keep. -/
def wordsFor (compiler cell : Nat) : Phase Artifact Failure → Eval (Except Failure Text)
  | .countingFailure version cause => failureWords compiler cell version cause
  | _ => pure (.ok [])

/-- What the steps of a call look at: the cell, the words for a failure, and what the calls share. -/
def beforeSteps (compiler cell : Nat) (p : Phase Artifact Failure) :
    Eval (CellRecord × Except Failure Text × Records Artifact Failure) := do
  let record ← cellRecord cell
  let words ← wordsFor compiler cell p
  return (record, words, ← recordsOf compiler)

lemma wordsFor_preserves {I : World → Prop} (compiler cell : Nat) (p : Phase Artifact Failure) :
    Preserves I (wordsFor compiler cell p) := by
  cases p with
  | countingFailure version cause => exact failureWords_preserves compiler cell version cause
  | _ => exact .pure _

lemma beforeSteps_preserves {I : World → Prop} (compiler cell : Nat)
    (p : Phase Artifact Failure) : Preserves I (beforeSteps compiler cell p) :=
  .bind (Tolerant.cellRecord cell) fun _ => .bind (wordsFor_preserves compiler cell p) fun _ =>
    .bind (recordsOf_preserves compiler) fun _ => .pure _

lemma recordsOf_of_ok {s : Records Artifact Failure} (h : recordsOf compiler w = (.ok s, w')) :
    s.versions = w.versions := by
  obtain ⟨record, w₁, hrecord, hget⟩ := of_bind_ok h
  have hsame : w₁ = w := eq_of_preserves (compilerRecord_preserves compiler) hrecord
  have hfound := Except.ok.inj (Prod.mk.inj hget).1
  rw [← hfound, hsame]

lemma beforeSteps_of_ok {found : CellRecord × Except Failure Text × Records Artifact Failure}
    (h : beforeSteps compiler cell p w = (.ok found, w')) :
    w.cells[cell]? = some found.1 ∧ found.2.2.versions = w.versions := by
  obtain ⟨record, w₁, hrecord, h₁⟩ := of_bind_ok h
  obtain ⟨hsame₁, hcell⟩ := cellRecord_of_ok hrecord
  obtain ⟨words, w₂, hwords, h₂⟩ := of_bind_ok h₁
  obtain ⟨s, w₃, hs, hfound⟩ := of_bind_ok h₂
  have hsame₂ : w₂ = w₁ := eq_of_preserves (wordsFor_preserves compiler cell p) hwords
  obtain rfl := Except.ok.inj (Prod.mk.inj hfound).1
  exact ⟨hcell, (recordsOf_of_ok hs).trans (by rw [hsame₂, hsame₁])⟩

/-- A call takes the steps that it has. -/
lemma advance_eq (compiler cell me : Nat) (p : Phase Artifact Failure) :
    advance compiler cell me p = beforeSteps compiler cell p >>= fun found =>
      setRecords compiler (p.run me found.1.current (fun _ _ => found.2.1) Phase.stepBound
          found.2.2).2 >>= fun _ =>
        pure (p.run me found.1.current (fun _ _ => found.2.1) Phase.stepBound found.2.2).1 := by
  cases p <;> simp only [advance, beforeSteps, wordsFor, bind_assoc, pure_bind]

/-- The steps of a call change versions, and no cell. -/
lemma advance_of_ok (h : advance compiler cell me p w = (.ok p', w')) :
    ∃ record describe s s', w.cells[cell]? = some record ∧ s.versions = w.versions ∧
      p.run me record.current describe Phase.stepBound s = (p', s') ∧
      w'.cells = w.cells ∧ w'.versions = s'.versions := by
  rw [advance_eq] at h
  obtain ⟨found, w₁, hfound, h₁⟩ := of_bind_ok h
  obtain ⟨hcell, hversions⟩ := beforeSteps_of_ok hfound
  have hsame : w₁ = w := eq_of_preserves (beforeSteps_preserves compiler cell p) hfound
  obtain ⟨hphase, hworld⟩ := Prod.mk.inj h₁
  obtain rfl := Except.ok.inj hphase
  refine ⟨found.1, _, found.2.2, _, hcell, hversions, rfl, ?_, ?_⟩
  · rw [← hworld, ← hsame]
  · rw [← hworld]
    rfl

/-- A call that cannot take its steps changes nothing. -/
lemma advance_of_error {e : Failure} (h : advance compiler cell me p w = (.error e, w')) :
    w' = w := by
  rw [advance_eq] at h
  rcases hfound : beforeSteps compiler cell p w with ⟨result, w₁⟩
  cases result with
  | ok found =>
      rw [bind_of_ok hfound] at h
      cases h
  | error e =>
      rw [bind_of_error hfound] at h
      obtain ⟨-, rfl⟩ := Prod.mk.inj h
      exact eq_of_preserves (beforeSteps_preserves compiler cell p) hfound

end

/-! ## Compiling -/

section

variable {w₀ w w₁ : World} {compiler cell version : Nat} {artifact : Artifact} {machine : Machine}

lemma advance_start_retains (w : World) (compiler cell : Nat) :
    Retains w (advance compiler cell 0 .start w).2 := by
  rcases hadvance : advance compiler cell 0 .start w with ⟨result, w₁⟩
  cases result with
  | ok p =>
      obtain ⟨record, describe, s, s', -, hbefore, hrun, hcells, hafter⟩ := advance_of_ok hadvance
      refine (Retains.refl w).of_versions hcells ?_
      intro cell' version artifact hcompiled
      have hartifact : (s.version? version).bind (·.artifact) = some artifact := by
        rw [Records.version?, hbefore]
        exact hcompiled.artifact
      rw [hafter, ← hbefore]
      exact Phase.run_start_version? hrun hartifact
  | error e =>
      rw [advance_of_error hadvance]
      exact .refl w

/-- What a call compiles is the current version of its cell, and had no artifact. -/
lemma advance_compiling (h : advance compiler cell 0 .start w = (.ok (.compiling version), w₁)) :
    (w.cells[cell]?).map (·.current) = some version ∧
      (w.versions[version]?).bind (·.artifact) = none := by
  obtain ⟨record, describe, s, s', hcell, hbefore, hrun, -, -⟩ := advance_of_ok h
  obtain ⟨rfl, hnone⟩ := Phase.of_run_compiling hrun
  rw [Records.version?, hbefore] at hnone
  exact ⟨by rw [hcell]; rfl, hnone⟩

/-- How a call ends changes no version but the one that was compiled. -/
lemma advance_compiled_retains {result : Except Failure Artifact} (h : Retains w₀ w)
    (hnone : (w₀.versions[version]?).bind (·.artifact) = none) :
    Retains w₀ (advance compiler cell 0 (Phase.compiled version result) w).2 := by
  rcases hadvance : advance compiler cell 0 (Phase.compiled version result) w with ⟨ending, w₁⟩
  cases ending with
  | ok p =>
      obtain ⟨record, describe, s, s', -, hbefore, hrun, hcells, hafter⟩ := advance_of_ok hadvance
      refine h.of_versions hcells ?_
      intro cell' other artifact hcompiled
      have htarget :
          (Phase.compiled version result).target? record.current ≠ some other := by
        intro htarget
        have heq : version = other := by
          cases result <;> exact Option.some_inj.mp htarget
        have hartifact := hcompiled.artifact
        rw [← heq, hnone] at hartifact
        cases hartifact
      rw [hafter, ← hbefore]
      exact Phase.run_version? htarget hrun
  | error e =>
      rw [advance_of_error hadvance]
      exact h

/-- **Nothing is handed to a back end** for a cell that was compiled. -/
lemma compilation?_of_compiled (h : w.Compiled cell version artifact) :
    compilation? machine compiler cell w = none := by
  have hnot (version' : Nat) (w₁ : World) :
      advance compiler cell 0 .start w ≠ (.ok (.compiling version'), w₁) := by
    intro hadvance
    obtain ⟨hcurrent, hnone⟩ := advance_compiling hadvance
    obtain rfl := Option.some_inj.mp (h.current.symm.trans hcurrent)
    exact Option.some_ne_none artifact (h.artifact.symm.trans hnone)
  rw [compilation?, toCompile]
  rcases hadvance : advance compiler cell 0 .start w with ⟨result, w₁⟩
  cases result with
  | error e => rw [bind_of_error hadvance]
  | ok p =>
      rw [bind_of_ok hadvance]
      cases p with
      | compiling version' => exact absurd hadvance (hnot version' w₁)
      | _ => rfl

/-- A compilation takes no artifact away, if the back end does not. -/
lemma artifactOf_retains (hcompile : ∀ w₁ after,
    compilation? machine compiler cell w = some (w₁, after) → Retains w₁ after) :
    Retains w (artifactOf machine compiler cell w).2 :=
  artifactOf_preserves (Retains.ignoresReports w) (advance_start_retains w compiler cell)
    (fun w₁ after hcompiles h => h.trans (hcompile w₁ after hcompiles))
    fun _ _ _ _ hadvance h => advance_compiled_retains h (advance_compiling hadvance).2

variable {entered : Entered}

lemma prepare_retains (hcompile : ∀ w₁ after,
    compilation? machine entered.compiler entered.cell w = some (w₁, after) → Retains w₁ after) :
    Retains w (prepare machine entered w).2 :=
  Preserves.bind_world (artifactOf_retains hcompile) fun _ w' _ h =>
    (Preserves.bind (Tolerant.methodOf _ _) fun _ => .pure _) w' h

/-- A cell that can run is there. -/
lemma lt_size_of_prepare {found : Artifact × Datum} (h : prepare machine entered w = (.ok found, w₁)) :
    entered.cell < w₁.cells.size := by
  obtain ⟨artifact, w₂, -, h₂⟩ := of_bind_ok h
  obtain ⟨method, w₃, hmethod, h₃⟩ := of_bind_ok h₂
  have hsame : w₃ = w₂ := eq_of_preserves (Tolerant.methodOf _ _) hmethod
  obtain ⟨record, w₄, hrecord, -⟩ := of_bind_ok hmethod
  obtain ⟨-, hcell⟩ := cellRecord_of_ok hrecord
  rw [← (Prod.mk.inj h₃).2, hsame]
  exact (Array.getElem?_eq_some_iff.mp hcell).1

end

end FormulaCube
