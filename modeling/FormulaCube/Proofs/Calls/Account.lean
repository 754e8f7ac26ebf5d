import FormulaCube.Proofs.Calls.Phases

/-!
# What is known of a version at each step

A reader without the lock sees the fields of a version between any two writes. The state of a
version is nevertheless determined: it is *settled* — pending, kept or failed — unless the holder of
the lock works on it, and then the phase of the holder says which writes are done.

**The past.**  A version is handed over again only if the words for its last failure could not be
formed. So an account has a past, the failures of the attempts that are over, and all of them are
without words. `words` are those that the cell of the version has for a failure of it.

* `Account` — the fields of a version, how often it was compiled, and with what results.
* `Account.Settled` — the three kinds of accounts that a version has when nobody works on it.
* `Phase.Allows` — the account of the version that the holder of the lock works on.
* `Phase.allows_step` — a step of the holder leads from the account of its phase to that of the
  next.
-/

namespace FormulaCube

variable {α ε : Type}

/-- What is recorded of a version, how often it was handed over to be compiled, and what came back.
-/
structure Account (α ε : Type) where
  /-- What it was compiled to. -/
  artifact : Option α
  /-- The words for the failure to compile it. -/
  words : Option Text
  /-- The cause of that failure. -/
  cause : Option ε
  /-- It is marked as being compiled. -/
  compiling : Bool
  /-- How often it was handed over to be compiled. -/
  begun : Nat
  /-- What came back, the last first. -/
  results : List (Except ε α)

namespace Account

/-- None of these failures can be put in words. -/
def Wordless (words : ε → Except ε Text) (past : List ε) : Prop :=
  ∀ e ∈ past, ∃ reason, words e = .error reason

/-- Neither an artifact nor words are kept after these failures, the last first. -/
def pending (past : List ε) : Account α ε :=
  ⟨none, none, past.head?, false, past.length, past.map .error⟩

/-- Nothing was done about the version. -/
def blank : Account α ε := .pending []

/-- The version was marked and handed over once more, with these results. -/
def handed (past : List ε) (results : List (Except ε α)) : Account α ε :=
  ⟨none, none, past.head?, true, past.length + 1, results ++ past.map .error⟩

/-- The version was compiled after these failures, and the artifact was kept. -/
def kept (past : List ε) (a : α) : Account α ε :=
  ⟨some a, none, past.head?, false, past.length + 1, .ok a :: past.map .error⟩

/-- The version failed after these failures, and the last one was kept with its words. -/
def failed (past : List ε) (words : Text) (e : ε) : Account α ε :=
  ⟨none, some words, some e, false, past.length + 1, .error e :: past.map .error⟩

/-- The accounts of versions that nobody works on. -/
inductive Settled (words : ε → Except ε Text) : Account α ε → Prop
  | pending {past : List ε} : Wordless words past → Settled words (pending past)
  | kept {past : List ε} (a : α) : Wordless words past → Settled words (kept past a)
  | failed {past : List ε} {e : ε} {t : Text} : Wordless words past → words e = .ok t →
      Settled words (failed past t e)

/-- The account is this one, after some failures without words. -/
def After (words : ε → Except ε Text) (account : List ε → Account α ε) (acc : Account α ε) : Prop :=
  ∃ past, Wordless words past ∧ acc = account past

/-- How a call ends that finds the version in this account. -/
inductive Tells (words : ε → Except ε Text) (v : Nat) (acc : Account α ε) : Outcome α ε → Prop
  | artifact {a : α} : acc.artifact = some a → Tells words v acc (.artifact a)
  | failed {t : Text} {e : ε} : acc.words = some t → acc.cause = some e →
      Tells words v acc (.failed v t (some e))
  | raised {e reason : ε} : .error e ∈ acc.results → words e = .error reason →
      Tells words v acc (.raised reason)

/-- The account after a write to the version. -/
def write (describe : Nat → ε → Except ε Text) (p : Phase α ε) (acc : Account α ε) : Account α ε :=
  match p with
  | .marking _ => { acc with compiling := true }
  | .counting _ => { acc with begun := acc.begun + 1 }
  | .unmarking _ _ => { acc with compiling := false }
  | .keeping _ a => { acc with artifact := some a }
  | .keepingCause _ e => { acc with cause := some e }
  | .keepingWords v e =>
    match describe v e with
    | .ok words => { acc with words := some words }
    | .error _ => acc
  | .unmarkingFailed _ _ _ => { acc with compiling := false }
  | .unmarkingWordless _ _ => { acc with compiling := false }
  | _ => acc

variable {words : ε → Except ε Text} {past : List ε}

lemma wordless_nil : Wordless words ([] : List ε) := fun _ h => nomatch h

/-- One more failure without words is added to the past. -/
lemma Wordless.cons (h : Wordless words past) {e reason : ε} (he : words e = .error reason) :
    Wordless words (e :: past) :=
  List.forall_mem_cons.mpr ⟨⟨reason, he⟩, h⟩

/-- Writing changes neither what came back nor how a call ended because of it. -/
@[simp] lemma write_results (describe : Nat → ε → Except ε Text) (p : Phase α ε)
    (acc : Account α ε) : (acc.write describe p).results = acc.results := by
  cases p with
  | keepingWords v e =>
      simp only [write]
      split <;> rfl
  | _ => rfl

end Account

namespace Phase

open Account (Wordless)

/-- What is known of the version that the holder of the lock works on in this phase. -/
@[simp] def Allows (words : ε → Except ε Text) : Phase α ε → Account α ε → Prop
  | .recheckFailure _, acc => acc.Settled words ∧ acc.artifact = none
  | .marking _, acc => acc.After words .pending
  | .counting _, acc => acc.After words fun past => { Account.pending past with compiling := true }
  | .compiling _, acc => acc.After words (.handed · [])
  | .unmarking _ a, acc => acc.After words (.handed · [.ok a])
  | .keeping _ a, acc =>
    acc.After words fun past => { Account.handed past [.ok a] with compiling := false }
  | .countingFailure _ e, acc => acc.After words (.handed · [.error e])
  | .keepingCause _ e, acc => acc.After words (.handed · [.error e])
  | .keepingWords _ e, acc =>
    acc.After words fun past => { Account.handed past [.error e] with cause := some e }
  | .unmarkingFailed _ t e, acc => words e = .ok t ∧
    acc.After words fun past => { Account.failed past t e with compiling := true }
  | .unmarkingWordless _ reason, acc => ∃ e, words e = .error reason ∧
    acc.After words fun past => { Account.pending (e :: past) with compiling := true }
  | _, acc => acc.Settled words

variable {words : ε → Except ε Text}

/-- Holding the lock is what allows anything but a settled account. -/
lemma allows_of_not_isLocked {p : Phase α ε} (hp : p.isLocked = false) (acc : Account α ε) :
    p.Allows words acc ↔ acc.Settled words := by
  cases p <;> first | exact Iff.rfl | cases hp

lemma allows_of_about?_eq_none {p : Phase α ε} (hp : p.about? = none) (acc : Account α ε) :
    p.Allows words acc ↔ acc.Settled words := by
  cases p <;> first | exact Iff.rfl | cases hp

/-- **A version has one artifact.**  Whatever the holder of the lock is doing, an account with an
artifact is that of a version which came to it with its last compilation, and has no words for a
failure. -/
lemma Allows.eq_kept {p : Phase α ε} {acc : Account α ε} {a : α} (h : p.Allows words acc)
    (ha : acc.artifact = some a) : acc.After words (.kept · a) := by
  have settled : acc.Settled words → acc.After words (.kept · a) := by
    intro hs
    cases hs with
    | kept b hpast => cases ha; exact ⟨_, hpast, rfl⟩
    | _ => cases ha
  have working {account : List ε → Account α ε} (h : acc.After words account)
      (hnone : ∀ past, (account past).artifact = none) : acc.After words (.kept · a) := by
    obtain ⟨past, -, rfl⟩ := h
    rw [hnone] at ha
    cases ha
  cases p with
  | recheckFailure v => exact settled h.1
  | unmarkingFailed v t e => exact working h.2 fun _ => rfl
  | unmarkingWordless v reason =>
      obtain ⟨e, -, h⟩ := h
      exact working h fun _ => rfl
  | _ => first | exact settled h | exact working h fun _ => rfl

/-- An account with the words for a failure is that of a version whose last compilation failed for
the cause that the words are about. -/
lemma Allows.of_words {p : Phase α ε} {acc : Account α ε} {t : Text} (h : p.Allows words acc)
    (hw : acc.words = some t) :
    ∃ e past, words e = .ok t ∧ acc.cause = some e ∧ acc.artifact = none ∧ Wordless words past ∧
      acc.results = .error e :: past.map .error := by
  have settled : acc.Settled words → ∃ e past, words e = .ok t ∧ acc.cause = some e ∧
      acc.artifact = none ∧ Wordless words past ∧ acc.results = .error e :: past.map .error := by
    intro hs
    cases hs with
    | failed hpast he => cases hw; exact ⟨_, _, he, rfl, rfl, hpast, rfl⟩
    | _ => cases hw
  have working {account : List ε → Account α ε} (h : acc.After words account)
      (hnone : ∀ past, (account past).words = none) : False := by
    obtain ⟨past, -, rfl⟩ := h
    rw [hnone] at hw
    cases hw
  cases p with
  | recheckFailure v => exact settled h.1
  | unmarkingFailed v t' e =>
      obtain ⟨he, past, hpast, rfl⟩ := h
      cases hw
      exact ⟨e, past, he, rfl, rfl, hpast, rfl⟩
  | unmarkingWordless v reason =>
      obtain ⟨e, -, h⟩ := h
      exact (working h fun _ => rfl).elim
  | _ => first | exact settled h | exact (working h fun _ => rfl).elim

/-- **A version is compiled again only after a failure without words.** -/
lemma Allows.begun_le {p : Phase α ε} {acc : Account α ε} (h : p.Allows words acc) :
    ∃ past, Wordless words past ∧ acc.begun ≤ past.length + 1 ∧
      past.map .error <:+ acc.results := by
  have settled : acc.Settled words → ∃ past, Wordless words past ∧ acc.begun ≤ past.length + 1 ∧
      past.map .error <:+ acc.results := by
    intro hs
    cases hs with
    | pending hpast => exact ⟨_, hpast, Nat.le_succ _, List.suffix_rfl⟩
    | kept a hpast => exact ⟨_, hpast, Nat.le_refl _, List.suffix_cons _ _⟩
    | failed hpast he => exact ⟨_, hpast, Nat.le_refl _, List.suffix_cons _ _⟩
  have working {account : List ε → Account α ε} (h : acc.After words account)
      (hbegun : ∀ past, (account past).begun ≤ past.length + 1)
      (hresults : ∀ past, past.map .error <:+ (account past).results) :
      ∃ past, Wordless words past ∧ acc.begun ≤ past.length + 1 ∧
        past.map .error <:+ acc.results := by
    obtain ⟨past, hpast, rfl⟩ := h
    exact ⟨past, hpast, hbegun past, hresults past⟩
  cases p with
  | recheckFailure v => exact settled h.1
  | marking v => exact working h (fun _ => Nat.le_succ _) fun _ => List.suffix_rfl
  | counting v => exact working h (fun _ => Nat.le_succ _) fun _ => List.suffix_rfl
  | unmarkingFailed v t e =>
      exact working h.2 (fun _ => Nat.le_refl _) fun _ => List.suffix_cons _ _
  | unmarkingWordless v reason =>
      obtain ⟨e, -, h⟩ := h
      exact working h (fun _ => Nat.le_refl _) fun _ => List.suffix_cons _ _
  | _ =>
      first
        | exact settled h
        | exact working h (fun _ => Nat.le_refl _) fun _ => List.suffix_append _ _

/-- A version without a result has neither an artifact nor words for a failure. -/
lemma Allows.of_results_eq_nil {p : Phase α ε} {acc : Account α ε} (h : p.Allows words acc)
    (hr : acc.results = []) : acc.artifact = none ∧ acc.words = none ∧ acc.cause = none := by
  have hartifact : acc.artifact = none := by
    cases ha : acc.artifact with
    | none => rfl
    | some a =>
        obtain ⟨past, -, rfl⟩ := h.eq_kept ha
        cases hr
  have hwords : acc.words = none := by
    cases hw : acc.words with
    | none => rfl
    | some t =>
        obtain ⟨e, past, -, -, -, -, hresults⟩ := h.of_words hw
        rw [hr] at hresults
        cases hresults
  have settled : acc.Settled words → acc.cause = none := by
    intro hs
    cases hs with
    | pending hpast =>
        obtain rfl := List.map_eq_nil_iff.mp hr
        rfl
    | _ => cases hr
  have working {account : List ε → Account α ε} (h : acc.After words account)
      (hcause : ∀ past, (account past).results = [] → (account past).cause = none) :
      acc.cause = none := by
    obtain ⟨past, -, rfl⟩ := h
    exact hcause past hr
  have head {past : List ε} (hnil : past.map (Except.error : ε → Except ε α) = []) :
      past.head? = none := by
    rw [List.map_eq_nil_iff.mp hnil, List.head?_nil]
  refine ⟨hartifact, hwords, ?_⟩
  cases p with
  | recheckFailure v => exact settled h.1
  | marking v => exact working h fun _ => head
  | counting v => exact working h fun _ => head
  | compiling v => exact working h fun _ => head
  | unmarkingFailed v t e => exact working h.2 fun _ hnil => nomatch hnil
  | unmarkingWordless v reason =>
      obtain ⟨e, -, h⟩ := h
      exact working h fun _ hnil => nomatch hnil
  | _ => first | exact settled h | exact working h fun _ hnil => nomatch hnil

/-! ## One step -/

lemma write_eq_of_not_isLocked (describe : Nat → ε → Except ε Text) {p : Phase α ε}
    (hp : p.isLocked = false) (acc : Account α ε) : acc.write describe p = acc := by
  cases p <;> first | rfl | cases hp

variable {me current v : Nat} {describe : Nat → ε → Except ε Text} {p p' : Phase α ε}
  {s s' : Records α ε} {version : Version α ε} {acc : Account α ε}

/-- **The writes are in order.** The step from a phase takes the account that the phase allows to
one that the next phase allows. -/
lemma allows_step (h : p.step me current describe s = some (p', s')) (hv : p.about? = some v)
    (hversion : s.version? v = some version) (hartifact : version.artifact = acc.artifact)
    (hwords : version.words = acc.words) (hcause : version.cause = acc.cause)
    (hp : p.Allows (describe v) acc) : p'.Allows (describe v) (acc.write describe p) := by
  have hreadArtifact := recordedArtifact_of_version? hversion
  have hreadFailure := recordedFailure_of_version? hversion
  rw [hartifact] at hreadArtifact
  rw [hwords, hcause] at hreadFailure
  cases p with
  | recheckArtifact w =>
      cases hv
      simp only [step, hreadArtifact] at h
      cases ha : acc.artifact with
      | none =>
          rw [ha] at h
          cases h
          exact ⟨hp, ha⟩
      | some a =>
          rw [ha] at h
          cases h
          exact hp
  | recheckFailure w =>
      cases hv
      obtain ⟨hsettled, hkept⟩ := hp
      simp only [step, hreadFailure] at h
      cases hsettled with
      | pending hpast =>
          cases h
          exact ⟨_, hpast, rfl⟩
      | kept a hpast => cases hkept
      | failed hpast he =>
          cases h
          exact .failed hpast he
  | keeping w a =>
      cases h
      obtain ⟨past, hpast, rfl⟩ := hp
      exact Account.Settled.kept a hpast
  | keepingWords w e =>
      cases hv
      obtain ⟨past, hpast, rfl⟩ := hp
      simp only [step] at h
      split at h <;> rename_i he <;> cases h <;> simp only [Account.write, he]
      · exact ⟨he, past, hpast, rfl⟩
      · exact ⟨e, he, past, hpast, rfl⟩
  | unmarkingFailed w t e =>
      cases h
      obtain ⟨he, past, hpast, rfl⟩ := hp
      exact Account.Settled.failed hpast he
  | unmarkingWordless w reason =>
      cases h
      obtain ⟨e, he, past, hpast, rfl⟩ := hp
      exact Account.Settled.pending (hpast.cons he)
  | _ =>
      simp only [step] at h
      (try split at h) <;> cases h <;>
        first
          | exact hp
          | (obtain ⟨past, hpast, rfl⟩ := hp; exact ⟨past, hpast, rfl⟩)

/-- **A call ends with what the version holds**, or with the reason why its failure has no words. -/
lemma tells_step (h : p.step me current describe s = some (p', s')) (hv : p.about? = some v)
    (hversion : s.version? v = some version) (hartifact : version.artifact = acc.artifact)
    (hwords : version.words = acc.words) (hcause : version.cause = acc.cause)
    (hfailure : ∀ t, acc.words = some t → ∃ e, acc.cause = some e)
    (hp : p.isLocked = true → p.Allows (describe v) acc) {o : Outcome α ε}
    (ho : p'.outcome? = some o) :
    Account.Tells (describe v) v (acc.write describe p) o := by
  have hartifact' : recordedArtifact s v = some o → Account.Tells (describe v) v acc o := by
    intro hread
    rw [recordedArtifact_of_version? hversion, hartifact, Option.map_eq_some_iff] at hread
    obtain ⟨a, ha, rfl⟩ := hread
    exact .artifact ha
  have hfailed' : recordedFailure s v = some o → Account.Tells (describe v) v acc o := by
    intro hread
    rw [recordedFailure_of_version? hversion, hwords, hcause, Option.map_eq_some_iff] at hread
    obtain ⟨t, hw, rfl⟩ := hread
    obtain ⟨e, he⟩ := hfailure t hw
    rw [he]
    exact .failed hw he
  cases p with
  | keeping w a =>
      cases hv
      cases h
      cases ho
      exact .artifact rfl
  | unmarkingFailed w t e =>
      cases hv
      cases h
      cases ho
      obtain ⟨-, past, -, rfl⟩ := hp rfl
      exact .failed rfl rfl
  | unmarkingWordless w reason =>
      cases hv
      cases h
      cases ho
      obtain ⟨e, he, past, -, rfl⟩ := hp rfl
      exact .raised List.mem_cons_self he
  | _ =>
      cases hv <;> simp only [step] at h <;> (try split at h) <;> cases h <;> cases ho <;>
        first
          | exact hartifact' (by assumption)
          | exact hfailed' (by assumption)

/-- What a version tells is never overwritten. -/
lemma tells_write {words : ε → Except ε Text} (hp : p.isLocked = true → p.Allows words acc)
    {o : Outcome α ε} (h : Account.Tells words v acc o) :
    Account.Tells words v (acc.write describe p) o := by
  cases h with
  | artifact ha =>
      cases p with
      | keeping w a =>
          obtain ⟨past, -, rfl⟩ := hp rfl
          cases ha
      | keepingWords w e =>
          simp only [Account.write]
          split
          · exact .artifact ha
          · exact .artifact ha
      | _ => exact .artifact ha
  | failed hw he =>
      cases p with
      | keepingCause w e =>
          obtain ⟨past, -, rfl⟩ := hp rfl
          cases hw
      | keepingWords w e =>
          obtain ⟨past, -, rfl⟩ := hp rfl
          cases hw
      | _ => exact .failed hw he
  | raised hresult hwords => exact .raised ((acc.write_results describe p).symm ▸ hresult) hwords

/-- A compilation that comes back leads from the account of a version being compiled to that of a
version with a result. -/
lemma allows_compiled (v : Nat) (result : Except ε α) {past : List ε} (h : Wordless words past) :
    (compiled v result).Allows words (Account.handed past [result]) := by
  cases result <;> exact ⟨past, h, rfl⟩

end Phase

end FormulaCube
