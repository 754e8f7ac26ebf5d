import FormulaCube.Proofs.Calls.Agreement

/-!
# What a call read in the past

* `CallSystem.source_of_steps` — the source of a version stays what it was.
* `CallSystem.capture_of_reachable` — a call that keeps to a version read it, at some moment, as the
  current version of its cell.
* `CallSystem.untouched` — nothing is recorded of a version whose compilation did not come back.
* `CallSystem.comes_of_artifact`, `CallSystem.comes_of_words` — what is recorded of the others came
  of their own source.
-/

namespace FormulaCube.CallSystem

variable {α ε : Type} {describe : Nat → Text → ε → Except ε Text}
  {compiles : Nat → Text → Except ε α → Prop} {s t : CallSystem α ε}

/-- The source of a cell: that of its current version. -/
def source? (s : CallSystem α ε) (cell : Nat) : Option Text :=
  s.cells[cell]?.bind fun v => (s.version? v).map (·.source)

/-! ## Sources -/

/-- No step writes the source of a version. -/
lemma source_of_step (h : Step describe compiles s t) {v : Nat} {version : Version α ε}
    (hversion : s.version? v = some version) :
    ∃ version', t.version? v = some version' ∧ version'.source = version.source := by
  cases h with
  | make source number =>
      exact ⟨version, version?_withVersion_of_version? s.cells.size hversion, rfl⟩
  | edit cell source number hcell =>
      exact ⟨version, version?_withVersion_of_version? cell hversion, rfl⟩
  | call cell hcell => exact ⟨version, hversion, rfl⟩
  | comeBack i call w version' result hcall hphase hversion' hresult =>
      exact ⟨version, hversion, rfl⟩
  | advance i call current phase records hcall hcurrent hstep =>
      obtain ⟨version', hversion', hsource, -⟩ := version?_goOn hstep hversion
      exact ⟨version', hversion', hsource⟩

lemma source_of_steps (h : Steps describe compiles s t) {v : Nat} {version : Version α ε}
    (hversion : s.version? v = some version) :
    ∃ version', t.version? v = some version' ∧ version'.source = version.source := by
  induction h with
  | none => exact ⟨version, hversion, rfl⟩
  | more _ hstep ih =>
      obtain ⟨version', hversion', hsource⟩ := ih
      obtain ⟨version'', hversion'', hsource'⟩ := source_of_step hstep hversion'
      exact ⟨version'', hversion'', hsource'.trans hsource⟩

/-- The source of a cell, at a moment, is still that of the version that was current then. -/
lemma source?_of_steps (hs : s.Sound describe compiles) (h : Steps describe compiles s t)
    {cell v : Nat} (hcurrent : s.cells[cell]? = some v) {version : Version α ε}
    (hversion : t.version? v = some version) : s.source? cell = some version.source := by
  obtain ⟨acc, hacc⟩ := account?_of_lt (hs.made _ _ (hs.current _ _ hcurrent))
  obtain ⟨old, hold, -⟩ := account?_eq_some hacc
  obtain ⟨version', hversion', hsource⟩ := source_of_steps h hold
  obtain rfl : version = version' := Option.some.inj (hversion.symm.trans hversion')
  rw [source?, hcurrent, Option.bind_some, hold, Option.map_some, hsource]

/-- An edited cell has the new source. -/
lemma source?_edit {cell : Nat} (hcell : cell < s.cells.size) (source : Text) (number : Nat) :
    (s.edit cell source number).version? s.records.versions.size =
        some (Version.blank source number) ∧
      (s.edit cell source number).source? cell = some source := by
  have hversion : (s.edit cell source number).version? s.records.versions.size =
      some (Version.blank source number) :=
    (version?_withVersion cell s.records.versions.size).trans (if_pos rfl)
  have hcurrent : (s.edit cell source number).cells[cell]? = some s.records.versions.size := by
    rw [edit, Array.getElem?_setIfInBounds, if_pos rfl, if_pos hcell]
  refine ⟨hversion, ?_⟩
  rw [source?, hcurrent, Option.bind_some, hversion]
  rfl

/-! ## What a call read -/

/-- The version that a call keeps to was made for its cell. -/
lemma made_of_version (hs : s.Sound describe compiles) {i v : Nat} {call : Call α ε}
    (hcall : s.calls[i]? = some call) (hv : call.version = some v) :
    .made call.cell v ∈ s.deeds := by
  rcases hs.fits i call hcall with ⟨hnone, -⟩ | ⟨w, acc, hw, hmade, -⟩
  · rw [hnone] at hv
    cases hv
  · rw [hw] at hv
    cases hv
    exact hmade

/-- A call kept to its version already, or has just read it as the current one. -/
lemma capture_of_step (hs : s.Sound describe compiles) (h : Step describe compiles s t) {i v : Nat}
    {call : Call α ε} (hcall : t.calls[i]? = some call) (hv : call.version = some v) :
    (∃ old : Call α ε, s.calls[i]? = some old ∧ old.cell = call.cell ∧ old.version = some v) ∨
      (t.deeds = .captured i v :: s.deeds ∧ s.cells[call.cell]? = some v) := by
  cases h with
  | make source number => exact Or.inl ⟨call, hcall, rfl, hv⟩
  | edit cell source number hcell => exact Or.inl ⟨call, hcall, rfl, hv⟩
  | call cell hcell =>
      rw [CallSystem.call, Array.getElem?_push] at hcall
      split at hcall
      · cases hcall
        cases hv
      · exact Or.inl ⟨call, hcall, rfl, hv⟩
  | comeBack j other w version result hother hphase hversion hresult =>
      rw [calls_comeBack hother] at hcall
      split at hcall
      · rename_i hij
        subst hij
        cases hcall
        exact Or.inl ⟨other, hother, rfl, hv⟩
      · exact Or.inl ⟨call, hcall, rfl, hv⟩
  | advance j other current phase records hother hcurrent hstep =>
      rw [calls_goOn (Array.getElem?_eq_some_iff.mp hother).1] at hcall
      split at hcall
      · rename_i hij
        subst hij
        cases hcall
        cases hold : other.version with
        | some w =>
            rw [hold] at hv
            cases hv
            exact Or.inl ⟨other, hother, rfl, hold⟩
        | none =>
            rw [hold] at hv
            cases hv
            rcases hs.fits j other hother with ⟨-, hstart⟩ | ⟨w, -, hw, -⟩
            · refine Or.inr ⟨?_, hcurrent⟩
              rw [goOn, hstart]
              rfl
            · rw [hold] at hw
              cases hw
      · exact Or.inl ⟨call, hcall, rfl, hv⟩

/-- **Each call read its version at some moment.** A call that keeps to a version took a step, on
the way to this state, in which it read that version as the current one of its cell. -/
lemma capture_of_reachable (h : Reachable describe compiles t) {i v : Nat} {call : Call α ε}
    (hcall : t.calls[i]? = some call) (hv : call.version = some v) :
    ∃ before after, Reachable describe compiles before ∧ Step describe compiles before after ∧
      after.deeds = .captured i v :: before.deeds ∧ before.cells[call.cell]? = some v ∧
      Steps describe compiles after t := by
  induction h generalizing call with
  | none => cases hcall
  | @more t u hsteps hstep ih =>
      rcases capture_of_step (sound_of_reachable hsteps) hstep hcall hv with
        ⟨old, hold, hcell, hversion⟩ | ⟨hdeeds, hcurrent⟩
      · obtain ⟨before, after, hbefore, hread, hdeeds, hcurrent, hafter⟩ := ih hold hversion
        rw [hcell] at hcurrent
        exact ⟨before, after, hbefore, hread, hdeeds, hcurrent, hafter.more hstep⟩
      · exact ⟨t, u, hsteps, hstep, hdeeds, hcurrent, .none⟩

/-! ## Versions that were not compiled -/

/-- Nothing is recorded of a version whose compilation did not come back. -/
lemma untouched (hs : s.Sound describe compiles) {v : Nat} {version : Version α ε}
    (hversion : s.version? v = some version) (hresults : s.results v = []) :
    version.artifact = none ∧ version.words = none ∧ version.cause = none := by
  obtain ⟨c, -, hallows⟩ := hs.accounts v _ (account?_of_version? hversion)
  exact hallows.of_results_eq_nil hresults

/-! ## Versions that were compiled -/

lemma comes_of_results (hs : s.Sound describe compiles) {v : Nat} {version : Version α ε}
    (hversion : s.version? v = some version) {result : Except ε α} (hmem : result ∈ s.results v) :
    ∃ cell, .made cell v ∈ s.deeds ∧ compiles cell version.source result := by
  obtain ⟨d, hd, hresult⟩ := List.mem_filterMap.mp hmem
  cases d with
  | returned i w result' =>
      simp only [Deed.result?] at hresult
      split at hresult
      · rename_i hw
        subst hw
        cases hresult
        obtain ⟨cell, version', hmade, hversion', hcomes⟩ := hs.returned i w result hd
        rw [hversion] at hversion'
        cases hversion'
        exact ⟨cell, hmade, hcomes⟩
      · cases hresult
  | _ => cases hresult

/-- An artifact that a version holds came back from the compilation of its source. -/
lemma comes_of_artifact (hs : s.Sound describe compiles) {v : Nat} {version : Version α ε} {a : α}
    (hversion : s.version? v = some version) (ha : version.artifact = some a) :
    ∃ cell, .made cell v ∈ s.deeds ∧ compiles cell version.source (.ok a) := by
  obtain ⟨c, -, hallows⟩ := hs.accounts v _ (account?_of_version? hversion)
  obtain ⟨past, -, hkept⟩ := hallows.eq_kept ha
  refine comes_of_results hs hversion ?_
  rw [show s.results v = _ from (Account.mk.inj hkept).2.2.2.2.2]
  exact List.mem_cons_self

/-- The words for a failure that a version holds quote its source, and the cause is what came back
from the compilation of that source. -/
lemma comes_of_words (hs : s.Sound describe compiles) {v : Nat} {version : Version α ε}
    {words : Text}
    (hversion : s.version? v = some version) (hw : version.words = some words) :
    ∃ cell e, .made cell v ∈ s.deeds ∧ version.cause = some e ∧
      describe cell version.source e = .ok words ∧ compiles cell version.source (.error e) := by
  obtain ⟨cell, hmade, hallows⟩ := hs.accounts v _ (account?_of_version? hversion)
  obtain ⟨e, past, hwords, he, -, -, hresults⟩ := hallows.of_words hw
  rw [sourceOf_of_version? hversion] at hwords
  have hmem : .error e ∈ s.results v := by
    rw [show s.results v = _ from hresults]
    exact List.mem_cons_self
  obtain ⟨cell', hmade', hcomes⟩ := comes_of_results hs hversion hmem
  obtain rfl := hs.owner cell cell' v hmade hmade'
  exact ⟨cell, e, hmade, he, hwords, hcomes⟩

/-- A failure without words came back from the compilation of the source of its version. -/
lemma Wordless.comes (hs : s.Sound describe compiles) {v : Nat} {version : Version α ε}
    (hversion : s.version? v = some version) {e reason : ε} (h : s.Wordless describe v e reason) :
    ∃ cell, .made cell v ∈ s.deeds ∧ describe cell version.source e = .error reason ∧
      compiles cell version.source (.error e) := by
  obtain ⟨hmem, cell, hmade, hreason⟩ := h
  rw [sourceOf_of_version? hversion] at hreason
  obtain ⟨cell', hmade', hcomes⟩ := comes_of_results hs hversion hmem
  obtain rfl := hs.owner cell cell' v hmade hmade'
  exact ⟨cell, hmade, hreason, hcomes⟩

end FormulaCube.CallSystem
