import FormulaCube.Proofs.Calls.System

/-!
# What a step of a call does

`Phase.step` has one case for each place where a call may stand. The lemmas here say once, for all
of them, what a step does to the lock, to a version and to the counters, and where the call stands
after it. Nothing below unfolds `Phase.step` again.

* `Phase.isLocked`, `Phase.about?`, `Phase.outcome?` — how much of a phase the invariants look at.
* `Phase.write` — what the step from a phase writes into the version it is about.
* `Phase.step_holder`, `Phase.step_version?`, `Phase.step_compiles`, `Phase.step_failures` — the
  effect of a step on what the calls share.
* `Phase.step_about`, `Phase.step_outcome` — how the call goes on.
-/

namespace FormulaCube.Phase

variable {α ε : Type}

/-- Whether a call in this phase holds the lock. -/
def isLocked : Phase α ε → Bool
  | .start | .readArtifact _ | .readFailure _ | .waiting _ | .done _ => false
  | _ => true

/-- Whether the next step takes the lock. -/
def isWaiting : Phase α ε → Bool
  | .waiting _ => true
  | _ => false

/-- Whether the next step releases the lock. -/
def isReleasing : Phase α ε → Bool
  | .releasing _ => true
  | _ => false

/-- Whether the version is being compiled. -/
def isCompiling : Phase α ε → Bool
  | .compiling _ => true
  | _ => false

/-- Whether the next step hands the version over to be compiled. -/
def isCounting : Phase α ε → Bool
  | .counting _ => true
  | _ => false

/-- Whether the next step counts a failure. -/
def isCountingFailure : Phase α ε → Bool
  | .countingFailure .. => true
  | _ => false

/-- Whether a call in this phase may have taken the lock. -/
def isPast : Phase α ε → Bool
  | .start | .readArtifact _ | .readFailure _ | .waiting _ => false
  | _ => true

/-- The version that a call in this phase works on. -/
def about? : Phase α ε → Option Nat
  | .start | .releasing _ | .done _ => none
  | .readArtifact v | .readFailure v | .waiting v | .recheckArtifact v | .recheckFailure v
  | .marking v | .counting v | .compiling v | .unmarking v _ | .keeping v _
  | .countingFailure v _ | .keepingCause v _ | .keepingWords v _ | .unmarkingFailed v _ _
  | .unmarkingWordless v _ => some v

/-- How a call in this phase ends. -/
def outcome? : Phase α ε → Option (Outcome α ε)
  | .releasing o | .done o => some o
  | _ => none

lemma isLocked_of_isReleasing {p : Phase α ε} (h : p.isReleasing = true) : p.isLocked = true := by
  cases p <;> first | rfl | cases h

lemma not_isLocked_of_isWaiting {p : Phase α ε} (h : p.isWaiting = true) : p.isLocked = false := by
  cases p <;> first | rfl | cases h

lemma about?_of_isReleasing {p : Phase α ε} (h : p.isReleasing = true) : p.about? = none := by
  cases p <;> first | rfl | cases h

lemma isLocked_of_isCounting {p : Phase α ε} (h : p.isCounting = true) : p.isLocked = true := by
  cases p <;> first | rfl | cases h

lemma isLocked_of_isCountingFailure {p : Phase α ε} (h : p.isCountingFailure = true) :
    p.isLocked = true := by
  cases p <;> first | rfl | cases h

lemma not_isCounting_of_isReleasing {p : Phase α ε} (h : p.isReleasing = true) :
    p.isCounting = false := by
  cases p <;> first | rfl | cases h

lemma isPast_of_isLocked {p : Phase α ε} (h : p.isLocked = true) : p.isPast = true := by
  cases p <;> first | rfl | cases h

/-- A call that takes the lock or holds on to it works on a version. -/
lemma about?_of_works {p : Phase α ε}
    (h : p.isWaiting = true ∨ (p.isLocked = true ∧ ¬ p.isReleasing = true)) :
    ∃ v, p.about? = some v := by
  rcases h with h | ⟨h, hr⟩
  · cases p <;> first | exact ⟨_, rfl⟩ | cases h
  · cases p <;> first | exact ⟨_, rfl⟩ | exact absurd rfl hr | cases h

/-- What the next step writes into the version that the phase is about. Words that cannot be formed
are not written. -/
def write (describe : Nat → ε → Except ε Text) : Phase α ε → Version α ε → Version α ε
  | .marking _, version => { version with compiling := true }
  | .unmarking _ _, version => { version with compiling := false }
  | .keeping _ a, version => { version with artifact := some a }
  | .keepingCause _ e, version => { version with cause := some e }
  | .keepingWords v e, version =>
    match describe v e with
    | .ok words => { version with words := some words }
    | .error _ => version
  | .unmarkingFailed _ _ _, version => { version with compiling := false }
  | .unmarkingWordless _ _, version => { version with compiling := false }
  | _, version => version

@[simp] lemma write_source (describe : Nat → ε → Except ε Text) (p : Phase α ε)
    (version : Version α ε) : (p.write describe version).source = version.source := by
  cases p with
  | keepingWords v e =>
      simp only [write]
      split <;> rfl
  | _ => rfl

lemma version?_update (s : Records α ε) (v w : Nat) (f : Version α ε → Version α ε) :
    (s.update v f).version? w = if v = w then (s.version? w).map f else s.version? w := by
  simp only [Records.update, Records.version?, Array.getElem?_modify]

lemma recordedArtifact_of_version? {s : Records α ε} {v : Nat} {version : Version α ε}
    (h : s.version? v = some version) :
    recordedArtifact s v = version.artifact.map .artifact := by
  rw [recordedArtifact, h]
  rfl

lemma recordedFailure_of_version? {s : Records α ε} {v : Nat} {version : Version α ε}
    (h : s.version? v = some version) :
    recordedFailure s v = version.words.map fun words => .failed v words version.cause := by
  rw [recordedFailure, h]
  show (version.words.bind fun words => some (Outcome.failed v words version.cause)) = _
  cases version.words <;> rfl

variable {me current : Nat} {describe : Nat → ε → Except ε Text} {p p' : Phase α ε} {s s' : Records α ε}

attribute [local simp] step

/-! ## What the calls share -/

/-- The lock is taken by a call that waits and freed by one that releases it. -/
lemma step_holder (h : p.step me current describe s = some (p', s')) :
    s'.holder = if p.isWaiting then some me else if p.isReleasing then none else s.holder := by
  cases p <;> simp only [step] at h <;> (try split at h) <;> cases h <;> rfl

/-- The lock is free when a waiting call takes it. -/
lemma step_waiting (h : p.step me current describe s = some (p', s')) (hp : p.isWaiting = true) :
    s.holder = none := by
  cases p with
  | waiting v =>
      simp only [step] at h
      split at h
      · assumption
      · cases h
  | _ => cases hp

lemma step_isLocked (h : p.step me current describe s = some (p', s')) :
    p'.isLocked = (p.isWaiting || (p.isLocked && !p.isReleasing)) := by
  cases p <;> simp only [step] at h <;> (try split at h) <;> cases h <;> rfl

/-- A step changes no version but the one that its phase is about. -/
lemma step_version? (h : p.step me current describe s = some (p', s')) (w : Nat) :
    s'.version? w =
      if p.about? = some w then (s.version? w).map (p.write describe) else s.version? w := by
  have hid : ∀ x : Option (Version α ε), x = x.map fun version => version := by
    rintro (_ | _) <;> rfl
  cases p with
  | keepingWords v e =>
      have hwrite (version : Version α ε) : (keepingWords v e : Phase α ε).write describe version =
          match describe v e with
          | .ok words => { version with words := some words }
          | .error _ => version := rfl
      simp only [step] at h
      split at h <;> rename_i hwords <;> cases h <;> simp only [hwords] at hwrite <;>
        simp only [about?, version?_update, Option.some.injEq, funext hwrite]
      split
      · exact hid _
      · rfl
  | _ =>
      simp only [step] at h
      (try split at h) <;> cases h <;>
        simp only [about?, version?_update, Option.some.injEq, reduceCtorEq, if_false] <;>
        first
          | rfl
          | (split <;> first | rfl | exact hid _)

lemma step_size (h : p.step me current describe s = some (p', s')) :
    s'.versions.size = s.versions.size := by
  cases p <;> simp only [step] at h <;> (try split at h) <;> cases h <;>
    simp only [Records.update, Array.size_modify]

lemma step_compiles (h : p.step me current describe s = some (p', s')) :
    s'.compiles = s.compiles + if p.isCounting then 1 else 0 := by
  cases p <;> simp only [step] at h <;> (try split at h) <;> cases h <;> rfl

lemma step_failures (h : p.step me current describe s = some (p', s')) :
    s'.failures = s.failures + if p.isCountingFailure then 1 else 0 := by
  cases p <;> simp only [step] at h <;> (try split at h) <;> cases h <;> rfl

/-! ## Where the call stands -/

/-- A call keeps to its version until it knows how it ends. -/
lemma step_about (h : p.step me current describe s = some (p', s')) {v : Nat}
    (hp : p.about? = some v) :
    p'.about? = some v ∨ (p'.about? = none ∧ ∃ o, p'.outcome? = some o) := by
  cases p <;> simp only [step] at h <;> (try split at h) <;> cases h <;>
    simp_all [about?, outcome?]

lemma step_outcome (h : p.step me current describe s = some (p', s')) {o : Outcome α ε}
    (hp : p.outcome? = some o) : p' = .done o := by
  cases p <;> simp only [step] at h <;> (try split at h) <;> cases h <;>
    simp_all [outcome?]

lemma step_isPast (h : p.step me current describe s = some (p', s')) (hp : p.isPast = true) :
    p'.isPast = true := by
  cases p <;> simp only [step] at h <;> (try split at h) <;> cases h <;> simp_all [isPast]

/-- A version is being compiled after it was handed over. -/
lemma step_isCompiling (h : p.step me current describe s = some (p', s')) :
    p'.isCompiling = p.isCounting := by
  cases p <;> simp only [step] at h <;> (try split at h) <;> cases h <;> rfl

/-- A call whose version is being compiled has no next step. -/
lemma not_isCompiling_of_step (h : p.step me current describe s = some (p', s')) :
    p.isCompiling = false := by
  cases p <;> first | rfl | cases h

lemma step_isCountingFailure (h : p.step me current describe s = some (p', s')) :
    p'.isCountingFailure = false := by
  cases p <;> simp only [step] at h <;> (try split at h) <;> cases h <;> rfl

/-- A call that reads the artifact of a version without the lock ends, or goes on because there is
none. -/
lemma step_readArtifact {v : Nat} {version : Version α ε}
    (h : (readArtifact v).step me current describe s = some (p', s'))
    (hversion : s.version? v = some version) :
    (∃ o, p' = .done o) ∨ (p' = .readFailure v ∧ version.artifact = none) := by
  simp only [step, recordedArtifact_of_version? hversion] at h
  cases ha : version.artifact with
  | none =>
      rw [ha] at h
      cases h
      exact Or.inr ⟨rfl, rfl⟩
  | some a =>
      rw [ha] at h
      cases h
      exact Or.inl ⟨_, rfl⟩

/-- A call that reads the words for a failure without the lock ends, or goes on because there are
none. -/
lemma step_readFailure {v : Nat} {version : Version α ε}
    (h : (readFailure v).step me current describe s = some (p', s'))
    (hversion : s.version? v = some version) :
    (∃ o, p' = .done o) ∨ (p' = .waiting v ∧ version.words = none) := by
  simp only [step, recordedFailure_of_version? hversion] at h
  cases hw : version.words with
  | none =>
      rw [hw] at h
      cases h
      exact Or.inr ⟨rfl, rfl⟩
  | some words =>
      rw [hw] at h
      cases h
      exact Or.inl ⟨_, rfl⟩

/-- What a version holds is not taken away. -/
lemma write_keeps (describe : Nat → ε → Except ε Text) (p : Phase α ε) (version : Version α ε) :
    (version.artifact.isSome = true → (p.write describe version).artifact.isSome = true) ∧
      (version.words.isSome = true → (p.write describe version).words.isSome = true) := by
  cases p with
  | keepingWords v e =>
      simp only [write]
      split
      · exact ⟨id, fun _ => rfl⟩
      · exact ⟨id, id⟩
  | _ => exact ⟨fun h => by first | exact h | rfl, id⟩

/-! ## What can be seen of a step -/

lemma mem_deeds {d : Deed α ε} (h : d ∈ p.deeds me current) :
    d = .captured me current ∨ d = .locked me ∨ ∃ v, d = .began me v := by
  cases p with
  | start => exact Or.inl (List.mem_singleton.mp h)
  | waiting v => exact Or.inr (Or.inl (List.mem_singleton.mp h))
  | counting v => exact Or.inr (Or.inr ⟨v, List.mem_singleton.mp h⟩)
  | _ => cases h

/-- Only the first step of a call captures a version, the current one. -/
lemma eq_start_of_deeds {i v : Nat} (h : p.deeds me current = [.captured i v]) :
    p = .start ∧ me = i ∧ current = v := by
  cases p with
  | start =>
      cases h
      exact ⟨rfl, rfl, rfl⟩
  | _ => cases h

lemma entersFor_eq_false {d : Deed α ε} {j : Nat} (hd : d ∈ p.deeds me current) (hj : me ≠ j) :
    d.entersFor j = false := by
  rcases mem_deeds hd with rfl | rfl | ⟨v, rfl⟩
  · rfl
  · exact beq_eq_false_iff_ne.mpr hj
  · exact beq_eq_false_iff_ne.mpr hj

lemma countP_isBegan_deeds (p : Phase α ε) :
    (p.deeds me current).countP Deed.isBegan = if p.isCounting then 1 else 0 := by
  cases p <;> rfl

lemma countP_isReturned_deeds (p : Phase α ε) :
    (p.deeds me current).countP Deed.isReturned = 0 := by
  cases p <;> rfl

lemma countP_isFailure_deeds (p : Phase α ε) :
    (p.deeds me current).countP Deed.isFailure = 0 := by
  cases p <;> rfl

/-- A step with which a call takes the lock or hands something over leads past the lock. -/
lemma isPast_of_entersFor (h : p.step me current describe s = some (p', s')) {d : Deed α ε}
    {j : Nat}
    (hd : d ∈ p.deeds me current) (hj : d.entersFor j = true) : me = j ∧ p'.isPast = true := by
  cases p with
  | start =>
      cases List.mem_singleton.mp hd
      cases hj
  | waiting v =>
      cases List.mem_singleton.mp hd
      refine ⟨beq_iff_eq.mp hj, isPast_of_isLocked ?_⟩
      rw [step_isLocked h]
      rfl
  | counting v =>
      cases List.mem_singleton.mp hd
      exact ⟨beq_iff_eq.mp hj, step_isPast h rfl⟩
  | _ => cases hd

end FormulaCube.Phase
