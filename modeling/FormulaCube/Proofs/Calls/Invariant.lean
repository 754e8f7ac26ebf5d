import FormulaCube.Proofs.Calls.Account

/-!
# What holds of calls in every order

`CallSystem.Sound` is the invariant of a system of calls, and `CallSystem.sound_of_reachable` says
that it holds whatever the order of the steps.

**The lock.** A call stands in a phase that holds the lock exactly if it is the holder.

**The versions.** Each version has the account that the phase of the holder allows, if the holder
works on it, and a settled one otherwise (`CallSystem.workOn`).

**The calls.** A call keeps to the version that it captured, and knows how it ends only from what
that version holds.

**The past.** A version belongs to one cell. The account that a phase allows is stated with the words
that this cell has for failures of the version's own source, so the words that a version holds quote
that source; and what it was compiled to is a result for it.
-/

namespace FormulaCube.CallSystem

variable {α ε : Type}

/-- What is recorded of a version, with what was done about it. -/
def account? (s : CallSystem α ε) (v : Nat) : Option (Account α ε) :=
  (s.version? v).map fun version =>
    ⟨version.artifact, version.words, version.cause, version.compiling, s.begun v, s.results v⟩

/-- Where the holder of the lock stands. Where there is none, that is as at the start of a call. -/
def work (s : CallSystem α ε) : Phase α ε :=
  match s.records.holder.bind (s.calls[·]?) with
  | some call => call.phase
  | none => .start

/-- Where the holder of the lock stands if it works on the version. -/
def workOn (s : CallSystem α ε) (v : Nat) : Phase α ε :=
  if s.work.about? = some v then s.work else .start

/-- A call keeps to the version that it captured, and ends with what that version holds, or with the
reason why its failure has no words. -/
def Fits (describe : Nat → Text → ε → Except ε Text) (s : CallSystem α ε) (call : Call α ε) : Prop :=
  (call.version = none ∧ call.phase = .start) ∨
  ∃ v acc, call.version = some v ∧ .made call.cell v ∈ s.deeds ∧ s.account? v = some acc ∧
    (call.phase.about? = some v ∨
      (call.phase.about? = none ∧ ∃ o, call.phase.outcome? = some o ∧
        acc.Tells (describe call.cell (s.sourceOf v)) v o))

/-- What holds in every reachable state. -/
structure Sound (describe : Nat → Text → ε → Except ε Text)
    (compiles : Nat → Text → Except ε α → Prop)
    (s : CallSystem α ε) : Prop where
  /-- The holder of the lock is the one call that stands in a phase with the lock. -/
  lock : ∀ (i : Nat) (call : Call α ε), s.calls[i]? = some call →
    (call.phase.isLocked = true ↔ s.records.holder = some i)
  /-- The holder of the lock is a call. -/
  held : ∀ i : Nat, s.records.holder = some i → i < s.calls.size
  /-- The account of a version follows from where the holder of the lock stands. -/
  accounts : ∀ v acc, s.account? v = some acc →
    ∃ c, .made c v ∈ s.deeds ∧ (s.workOn v).Allows (describe c (s.sourceOf v)) acc
  /-- Each call keeps to its version. -/
  fits : ∀ (i : Nat) (call : Call α ε), s.calls[i]? = some call → s.Fits describe call
  /-- Only versions that exist were made. -/
  made : ∀ c v, .made c v ∈ s.deeds → v < s.records.versions.size
  /-- A version was made for one cell. -/
  owner : ∀ c c' v, .made c v ∈ s.deeds → .made c' v ∈ s.deeds → c = c'
  /-- The current version of a cell was made for it. -/
  current : ∀ (c v : Nat), s.cells[c]? = some v → .made c v ∈ s.deeds
  /-- Nothing was done about versions that do not exist yet. -/
  unseen : ∀ v, s.records.versions.size ≤ v → s.begun v = 0 ∧ s.results v = []
  /-- Only a call that is past the lock took it or handed something over. -/
  entered : ∀ i : Nat, (∃ d ∈ s.deeds, d.entersFor i = true) →
    ∃ call : Call α ε, s.calls[i]? = some call ∧ call.phase.isPast = true
  /-- What came back for a version is a result for its source. -/
  returned : ∀ i v result, .returned i v result ∈ s.deeds →
    ∃ c version, .made c v ∈ s.deeds ∧ s.version? v = some version ∧
      compiles c version.source result
  /-- Each compilation was counted as it began. -/
  countedBegan : s.records.compiles = s.deeds.countP Deed.isBegan
  /-- Each compilation came back but the one that goes on. -/
  countedReturned :
    s.deeds.countP Deed.isReturned + (if s.work.isCompiling then 1 else 0) =
      s.deeds.countP Deed.isBegan
  /-- Each failure was counted but the one that is about to be. -/
  countedFailures :
    s.records.failures + (if s.work.isCountingFailure then 1 else 0) =
      s.deeds.countP Deed.isFailure

variable {describe : Nat → Text → ε → Except ε Text} {compiles : Nat → Text → Except ε α → Prop}
  {s : CallSystem α ε}

/-! ## What the invariant says of one version -/

lemma account?_eq_some {v : Nat} {acc : Account α ε} (h : s.account? v = some acc) :
    ∃ version, s.version? v = some version ∧
      acc = ⟨version.artifact, version.words, version.cause, version.compiling,
        s.begun v, s.results v⟩ := by
  obtain ⟨version, hversion, rfl⟩ := Option.map_eq_some_iff.mp h
  exact ⟨version, hversion, rfl⟩

lemma account?_of_version? {v : Nat} {version : Version α ε} (h : s.version? v = some version) :
    s.account? v = some ⟨version.artifact, version.words, version.cause, version.compiling,
      s.begun v, s.results v⟩ := by
  rw [account?, h]
  rfl

lemma account?_of_lt {v : Nat} (h : v < s.records.versions.size) :
    ∃ acc, s.account? v = some acc := by
  have hversion : s.version? v = some s.records.versions[v] := Array.getElem?_eq_getElem h
  exact ⟨_, account?_of_version? hversion⟩

lemma sourceOf_of_version? {v : Nat} {version : Version α ε} (h : s.version? v = some version) :
    s.sourceOf v = version.source := by
  rw [sourceOf, h]
  rfl

lemma lt_of_version? {v : Nat} {version : Version α ε} (h : s.version? v = some version) :
    v < s.records.versions.size := by
  rw [version?, Records.version?] at h
  exact (Array.getElem?_eq_some_iff.mp h).1

lemma workOn_eq_start (h : s.records.holder = none) (v : Nat) : s.workOn v = .start := by
  have hwork : s.work = .start := by
    rw [work, h]
    rfl
  rw [workOn, hwork]
  rfl

lemma work_eq {i : Nat} {call : Call α ε} (hcall : s.calls[i]? = some call)
    (h : s.records.holder = some i) : s.work = call.phase := by
  rw [work, h, Option.bind_some, hcall]

/-- The account of a version is stated with the words of the cell that it was made for. -/
lemma Sound.accountOf (hs : s.Sound describe compiles) {c v : Nat} {acc : Account α ε}
    (hmade : .made c v ∈ s.deeds) (hacc : s.account? v = some acc) :
    (s.workOn v).Allows (describe c (s.sourceOf v)) acc := by
  obtain ⟨c', hmade', hallows⟩ := hs.accounts v acc hacc
  exact hs.owner c c' v hmade hmade' ▸ hallows

/-- The words for a failure quote the source of their version. -/
lemma Sound.quoted (hs : s.Sound describe compiles) {v : Nat} {version : Version α ε} {words : Text}
    (hversion : s.version? v = some version) (hwords : version.words = some words) :
    ∃ c e, .made c v ∈ s.deeds ∧ version.cause = some e ∧
      describe c version.source e = .ok words := by
  obtain ⟨c, hmade, hallows⟩ := hs.accounts v _ (account?_of_version? hversion)
  obtain ⟨e, past, hdescribe, hcause, -⟩ := hallows.of_words hwords
  exact ⟨c, e, hmade, hcause, sourceOf_of_version? hversion ▸ hdescribe⟩

/-- The version that a call works on is the one that it captured, and was made for its cell. -/
lemma Fits.of_about? {call : Call α ε} (h : s.Fits describe call) {v : Nat}
    (hv : call.phase.about? = some v) : call.version = some v ∧ .made call.cell v ∈ s.deeds := by
  rcases h with ⟨-, hstart⟩ | ⟨w, acc, hw, hmade, -, h | ⟨h, -⟩⟩
  · rw [hstart] at hv
    cases hv
  · rw [hv] at h
    cases h
    exact ⟨hw, hmade⟩
  · rw [hv] at h
    cases h

/-- No call works on a version that does not exist yet. -/
lemma workOn_of_size_le (hs : s.Sound describe compiles) {v : Nat}
    (hv : s.records.versions.size ≤ v) : s.workOn v = .start := by
  rw [workOn, if_neg]
  intro habout
  cases hholder : s.records.holder with
  | none =>
      rw [work, hholder] at habout
      cases habout
  | some i =>
      have hcall := Array.getElem?_eq_getElem (hs.held i hholder)
      rw [work_eq hcall hholder] at habout
      have hlt := hs.made _ _ ((hs.fits i _ hcall).of_about? habout).2
      exact Nat.not_lt.mpr hv hlt

/-! ## Cells are made and edited -/

section NewVersion

variable {cell : Nat} {version : Version α ε} {cells : Array Nat}

lemma version?_withVersion (cell v : Nat) :
    (s.withVersion cell version).version? v =
      if v = s.records.versions.size then some version else s.version? v := by
  simp only [version?, withVersion, Records.version?, Array.getElem?_push]

lemma version?_withVersion_of_version? (cell : Nat) {version : Version α ε} {v : Nat}
    {old : Version α ε} (h : s.version? v = some old) :
    (s.withVersion cell version).version? v = some old := by
  rw [version?_withVersion, if_neg (Nat.ne_of_lt (lt_of_version? h)), h]

@[simp] lemma begun_withVersion (v : Nat) : (s.withVersion cell version).begun v = s.begun v := rfl

@[simp] lemma results_withVersion (v : Nat) :
    (s.withVersion cell version).results v = s.results v := rfl

lemma account?_withVersion (hs : s.Sound describe compiles) (source : Text) (number v : Nat) :
    (s.withVersion cell (Version.blank source number)).account? v =
      if v = s.records.versions.size then some .blank else s.account? v := by
  rw [account?, version?_withVersion]
  split
  · rename_i hv
    obtain ⟨hbegun, hresults⟩ := hs.unseen v (Nat.le_of_eq hv.symm)
    rw [Option.map_some, begun_withVersion, results_withVersion, hbegun, hresults]
    rfl
  · rfl

/-- A version keeps its source when others are added. -/
lemma sourceOf_withVersion {v : Nat} (hv : v < s.records.versions.size) (cell : Nat)
    (version : Version α ε) : (s.withVersion cell version).sourceOf v = s.sourceOf v := by
  rw [sourceOf, version?_withVersion, if_neg (Nat.ne_of_lt hv), sourceOf]

/-- A call that fits goes on fitting when versions are added. -/
lemma Fits.withVersion (hs : s.Sound describe compiles) {call : Call α ε} (h : s.Fits describe call)
    (source : Text) (number : Nat) :
    (s.withVersion cell (Version.blank source number)).Fits describe call := by
  rcases h with h | ⟨v, acc, hv, hmade, hacc, h⟩
  · exact Or.inl h
  · refine Or.inr ⟨v, acc, hv, List.mem_cons_of_mem _ hmade, ?_, ?_⟩
    · rw [account?_withVersion hs, if_neg (Nat.ne_of_lt (hs.made _ _ hmade)), hacc]
    · rw [sourceOf_withVersion (hs.made _ _ hmade)]
      exact h

/-- A version that is new has the account of one about which nothing was done. -/
lemma accounts_withVersion (hs : s.Sound describe compiles) (cell : Nat) (source : Text)
    (number v : Nat) (acc : Account α ε)
    (hacc : (s.withVersion cell (Version.blank source number)).account? v = some acc) :
    ∃ c, .made c v ∈ (s.withVersion cell (Version.blank source number)).deeds ∧
      (s.workOn v).Allows
        (describe c ((s.withVersion cell (Version.blank source number)).sourceOf v)) acc := by
  rw [account?_withVersion hs] at hacc
  split at hacc
  · rename_i hv
    cases hacc
    refine ⟨cell, hv ▸ List.mem_cons_self, ?_⟩
    rw [workOn_of_size_le hs (Nat.le_of_eq hv.symm)]
    exact .pending Account.wordless_nil
  · obtain ⟨c, hmade, hallows⟩ := hs.accounts v acc hacc
    rw [sourceOf_withVersion (hs.made _ _ hmade)]
    exact ⟨c, List.mem_cons_of_mem _ hmade, hallows⟩

/-- A version that is new does not concern any call: it is blank, and it belongs to its cell. -/
lemma sound_withVersion (hs : s.Sound describe compiles) (source : Text) (number : Nat)
    (hcells : ∀ c v, cells[c]? = some v →
      s.cells[c]? = some v ∨ (c = cell ∧ v = s.records.versions.size)) :
    Sound describe compiles
      { s.withVersion cell (Version.blank source number) with cells := cells } where
  lock := hs.lock
  held := hs.held
  accounts := accounts_withVersion hs cell source number
  fits := fun i call hcall => (hs.fits i call hcall).withVersion hs source number
  made := by
    intro c v hmade
    show v < (s.records.versions.push _).size
    rw [Array.size_push]
    rcases List.mem_cons.mp hmade with h | h
    · cases h
      omega
    · have := hs.made c v h
      omega
  owner := by
    intro c c' v hmade hmade'
    rcases List.mem_cons.mp hmade with h | h <;> rcases List.mem_cons.mp hmade' with h' | h'
    · cases h
      cases h'
      rfl
    · cases h
      exact absurd (hs.made _ _ h') (Nat.lt_irrefl _)
    · cases h'
      exact absurd (hs.made _ _ h) (Nat.lt_irrefl _)
    · exact hs.owner c c' v h h'
  current := by
    intro c v hv
    rcases hcells c v hv with h | ⟨rfl, rfl⟩
    · exact List.mem_cons_of_mem _ (hs.current c v h)
    · exact List.mem_cons_self
  unseen := by
    intro v hv
    change (s.records.versions.push _).size ≤ v at hv
    rw [Array.size_push] at hv
    exact hs.unseen v (by omega)
  entered := by
    rintro i ⟨d, hd, hi⟩
    rcases List.mem_cons.mp hd with rfl | hd
    · cases hi
    · exact hs.entered i ⟨d, hd, hi⟩
  returned := by
    intro i v result hd
    rcases List.mem_cons.mp hd with h | hd
    · cases h
    · obtain ⟨c, version, hmade, hversion, h⟩ := hs.returned i v result hd
      exact ⟨c, version, List.mem_cons_of_mem _ hmade,
        version?_withVersion_of_version? cell hversion, h⟩
  countedBegan := hs.countedBegan
  countedReturned := hs.countedReturned
  countedFailures := hs.countedFailures

end NewVersion

end FormulaCube.CallSystem
