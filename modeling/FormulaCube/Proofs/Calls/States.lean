import FormulaCube.Proofs.Calls.Fields
import Mathlib.Data.List.Destutter

/-!
# The states that a version goes through

A reader without the lock may ask for the state of a version between any two steps. The state does
not tell all: between the steps that take the mark away and keep the artifact, a version reads as one
that was never touched. `Stage` tells the two apart.

* `Account.stage` — how far the compilation of a version is, from what is known of it.
* `Stage.Next` — a stage and the one after it; `CallSystem.stage_step` says that a step of a system
  leaves a version in its stage, moves it to the next one, or gives up on putting its failure in words.
* `CallSystem.states_of_run` — so the states of a version along a run, without repetitions, are the
  beginning of one of two paths, after a round for each failure that was given up. One of the paths
  returns to the first state before it ends (`CallSystem.state_returns`).
-/

namespace FormulaCube

variable {α ε : Type}

/-! ## Stages -/

/-- How far the compilation of a version is. -/
inductive Stage where
  /-- It has no outcome, and nobody compiles it. -/
  | idle
  /-- It is marked, and has no outcome. -/
  | marked
  /-- It was compiled and the mark was taken away, but the artifact is not kept yet. -/
  | unmarked
  /-- It has an artifact. -/
  | kept
  /-- It has words for a failure. -/
  | failed

namespace Stage

/-- The state that a version has in a stage. -/
def state : Stage → CompileState
  | .idle => .uncompiled
  | .marked => .compiling
  | .unmarked => .uncompiled
  | .kept => .compiled
  | .failed => .failed

/-- A stage and one that may come after it on the way to an outcome. -/
inductive Next : Stage → Stage → Prop
  | mark : Next idle marked
  | unmark : Next marked unmarked
  | keep : Next unmarked kept
  | fail : Next marked failed

lemma Next.state_ne {q r : Stage} (h : Next q r) : q.state ≠ r.state := by
  cases h <;> decide

/-- The states that a version goes through from a stage on, without repetitions, when it is given up
a number of times. -/
inductive Path : Stage → Nat → List CompileState → Prop
  /-- It stays where it is. -/
  | here (q : Stage) : Path q 0 [q.state]
  /-- It goes on to the next stage. -/
  | next {q r : Stage} {n : Nat} {states : List CompileState} : Next q r → Path r n states →
      Path q n (q.state :: states)
  /-- Its failure cannot be put in words, and it is given up. -/
  | giveUp {n : Nat} {states : List CompileState} : Path idle n states →
      Path marked (n + 1) (marked.state :: states)

/-- The states that a version goes through when it is given up this many times. -/
def rounds (n : Nat) : List CompileState :=
  (List.replicate n [CompileState.uncompiled, .compiling]).flatten

lemma rounds_succ_append (n : Nat) (states : List CompileState) :
    rounds (n + 1) ++ states = .uncompiled :: .compiling :: (rounds n ++ states) := rfl

/-- **After the rounds, a version fails, or is unmarked before it is kept.** -/
lemma Path.isPrefix {n : Nat} {states : List CompileState} (h : Path .idle n states) :
    states <+: rounds n ++ [.uncompiled, .compiling, .failed] ∨
      states <+: rounds n ++ [.uncompiled, .compiling, .uncompiled, .compiled] := by
  induction n generalizing states with
  | zero =>
      cases h with
      | here => exact Or.inl (by decide)
      | next hq h =>
          cases hq
          cases h with
          | here => exact Or.inl (by decide)
          | next hq h =>
              cases hq with
              | unmark =>
                  cases h with
                  | here => exact Or.inr (by decide)
                  | next hq h =>
                      cases hq
                      cases h with
                      | here => exact Or.inr (by decide)
                      | next hq h => cases hq
              | fail =>
                  cases h with
                  | here => exact Or.inl (by decide)
                  | next hq h => cases hq
  | succ n ih =>
      cases h with
      | next hq h =>
          cases hq
          cases h with
          | next hq h =>
              -- a version that has an outcome is not given up
              cases hq with
              | unmark =>
                  cases h with
                  | next hq h =>
                      cases hq
                      cases h with
                      | next hq h => cases hq
              | fail =>
                  cases h with
                  | next hq h => cases hq
          | giveUp h =>
              rw [rounds_succ_append, rounds_succ_append]
              exact (ih h).imp (fun h => List.cons_prefix_cons.mpr
                ⟨rfl, List.cons_prefix_cons.mpr ⟨rfl, h⟩⟩) fun h => List.cons_prefix_cons.mpr
                ⟨rfl, List.cons_prefix_cons.mpr ⟨rfl, h⟩⟩

end Stage

namespace Account

/-- The stage of a version, from what is known of it. -/
def stage (acc : Account α ε) : Stage :=
  if acc.artifact.isSome then .kept
  else if acc.words.isSome then .failed
  else if acc.compiling then .marked
  else match acc.results with
    | .ok _ :: _ => .unmarked
    | _ => .idle

/-- A version without an outcome that nobody works on is idle. -/
lemma stage_pending (past : List ε) : (pending past : Account α ε).stage = .idle := by
  cases past <;> rfl

end Account

/-- **The step from a phase moves a version at most to its next stage**, unless a failure has no words. -/
lemma Phase.Allows.stage_write {words : ε → Except ε Text} {p : Phase α ε} {acc : Account α ε}
    (h : p.Allows words acc) (describe : Nat → ε → Except ε Text) :
    (acc.write describe p).stage = acc.stage ∨ acc.stage.Next (acc.write describe p).stage ∨
      (acc.stage = .marked ∧ (acc.write describe p).stage = .idle ∧
        ∃ e reason, .error e ∈ acc.results ∧ words e = .error reason) := by
  cases p with
  | marking v =>
      obtain ⟨past, -, rfl⟩ := h
      rw [Account.stage_pending]
      exact Or.inr (Or.inl .mark)
  | counting v =>
      obtain ⟨past, -, rfl⟩ := h
      exact Or.inl rfl
  | unmarking v a =>
      obtain ⟨past, -, rfl⟩ := h
      exact Or.inr (Or.inl .unmark)
  | keeping v a =>
      obtain ⟨past, -, rfl⟩ := h
      exact Or.inr (Or.inl .keep)
  | keepingWords v e =>
      obtain ⟨past, -, rfl⟩ := h
      simp only [Account.write]
      split
      · exact Or.inr (Or.inl .fail)
      · exact Or.inl rfl
  | unmarkingFailed v t e =>
      obtain ⟨-, past, -, rfl⟩ := h
      exact Or.inl rfl
  | unmarkingWordless v reason =>
      obtain ⟨e, he, past, -, rfl⟩ := h
      exact Or.inr (Or.inr ⟨rfl, rfl, e, reason, List.mem_cons_self, he⟩)
  | _ => exact Or.inl rfl

/-- **One phase hides that a version was compiled.** An account that reads as one of an untouched
version, although the version was handed over, is that of a version whose artifact is about to be
kept, or of one that has a failure without words. -/
lemma Phase.Allows.eq_keeping {words : ε → Except ε Text} {p : Phase α ε} {acc : Account α ε}
    (h : p.Allows words acc) (hstage : acc.stage.state = .uncompiled) (hbegun : acc.begun ≠ 0) :
    (∃ v a, p = .keeping v a ∧ acc.results.head? = some (.ok a)) ∨
      ∃ e reason, .error e ∈ acc.results ∧ words e = .error reason := by
  have pending {past : List ε} (hpast : Account.Wordless words past)
      (hbegun : (Account.pending past : Account α ε).begun ≠ 0) :
      ∃ e reason, .error e ∈ (Account.pending past : Account α ε).results ∧
        words e = .error reason := by
    cases past with
    | nil => exact absurd rfl hbegun
    | cons e past =>
        obtain ⟨reason, he⟩ := hpast e List.mem_cons_self
        exact ⟨e, reason, List.mem_cons_self, he⟩
  have settled : acc.Settled words → ∃ e reason, .error e ∈ acc.results ∧ words e = .error reason := by
    intro hs
    cases hs with
    | pending hpast => exact pending hpast hbegun
    | kept a => cases hstage
    | failed => cases hstage
  cases p with
  | recheckFailure v => exact Or.inr (settled h.1)
  | marking v =>
      obtain ⟨past, hpast, rfl⟩ := h
      exact Or.inr (pending hpast hbegun)
  | keeping v a =>
      obtain ⟨past, -, rfl⟩ := h
      exact Or.inl ⟨v, a, rfl, rfl⟩
  | unmarkingFailed v t e =>
      obtain ⟨-, past, -, rfl⟩ := h
      cases hstage
  | unmarkingWordless v reason =>
      obtain ⟨e, -, past, -, rfl⟩ := h
      cases hstage
  | _ =>
      first
        | exact Or.inr (settled h)
        | (obtain ⟨past, -, rfl⟩ := h; cases hstage)

namespace CallSystem

variable {describe : Nat → Text → ε → Except ε Text} {compiles : Nat → Text → Except ε α → Prop}
  {s t : CallSystem α ε}

/-! ## One step -/

/-- The state that a reader finds in a version, if there is one. -/
def reading (v : Nat) (s : CallSystem α ε) : Option CompileState :=
  (s.version? v).map Version.state

/-- The stage tells at least as much as the state. -/
lemma reading_of_account? {v : Nat} {acc : Account α ε} (hacc : s.account? v = some acc) :
    reading v s = some acc.stage.state := by
  obtain ⟨version, hversion, rfl⟩ := account?_eq_some hacc
  rw [reading, hversion, Option.map_some, Version.state, Account.stage]
  split_ifs <;> first | rfl | (split <;> rfl)

lemma reading_of_account?_eq_none {v : Nat} (hnone : s.account? v = none) :
    reading v s = none := by
  rw [account?, Option.map_eq_none_iff] at hnone
  rw [reading, hnone, Option.map_none]

/-- **A step moves a version at most to its next stage**, unless it gives up on putting its failure in
words. -/
lemma stage_step (hs : s.Sound describe compiles) (h : Step describe compiles s t) {v : Nat}
    {acc : Account α ε} (hacc : s.account? v = some acc) :
    ∃ acc', t.account? v = some acc' ∧ (acc'.stage = acc.stage ∨ acc.stage.Next acc'.stage ∨
      (acc.stage = .marked ∧ acc'.stage = .idle ∧ ∃ e reason, s.Wordless describe v e reason)) := by
  obtain ⟨version, hversion, heq⟩ := account?_eq_some hacc
  have hold : v ≠ s.records.versions.size := Nat.ne_of_lt (lt_of_version? hversion)
  cases h with
  | make source number =>
      refine ⟨acc, ?_, Or.inl rfl⟩
      exact (account?_withVersion hs source number v).trans ((if_neg hold).trans hacc)
  | edit cell source number hcell =>
      refine ⟨acc, ?_, Or.inl rfl⟩
      exact (account?_withVersion hs source number v).trans ((if_neg hold).trans hacc)
  | call cell hcell => exact ⟨acc, hacc, Or.inl rfl⟩
  | comeBack i call w version' result hcall hphase hversion' hresult =>
      rw [account?_comeBack, hacc]
      by_cases hw : w = v
      · subst hw
        -- the version is marked before the result comes back, and after it
        have hlocked : call.phase.isLocked = true := by
          rw [hphase]
          rfl
        have habout : call.phase.about? = some w := by
          rw [hphase]
          rfl
        have hallows := allows_of_isLocked hcall hs habout hacc hlocked
        rw [hphase] at hallows
        obtain ⟨past, -, rfl⟩ := hallows
        exact ⟨_, if_pos rfl, Or.inl rfl⟩
      · exact ⟨acc, if_neg hw, Or.inl rfl⟩
  | advance i call current phase records hcall hcurrent hstep =>
      rw [account?_goOn hstep, hacc]
      by_cases habout : call.phase.about? = some v
      · refine ⟨_, if_pos habout, ?_⟩
        cases hlocked : call.phase.isLocked with
        | true =>
            have hmade := ((hs.fits i call hcall).of_about? habout).2
            rcases (allows_of_isLocked hcall hs habout hacc hlocked).stage_write
                (fun v => describe call.cell (s.sourceOf v)) with
              hsame | hnext | ⟨hmarked, hidle, e, reason, hmem, hreason⟩
            · exact Or.inl hsame
            · exact Or.inr (Or.inl hnext)
            · subst heq
              exact Or.inr (Or.inr ⟨hmarked, hidle, e, reason, hmem, call.cell, hmade, hreason⟩)
        | false =>
            rw [Phase.write_eq_of_not_isLocked _ hlocked]
            exact Or.inl rfl
      · exact ⟨acc, if_neg habout, Or.inl rfl⟩

/-- A version that a step makes is idle. -/
lemma stage_of_new (hs : s.Sound describe compiles) (h : Step describe compiles s t) {v : Nat}
    (hnone : s.account? v = none) :
    t.account? v = none ∨ ∃ acc, t.account? v = some acc ∧ acc.stage = .idle := by
  have hmade (cell : Nat) (source : Text) (number : Nat) :
      (s.withVersion cell (Version.blank source number)).account? v = none ∨
        ∃ acc, (s.withVersion cell (Version.blank source number)).account? v = some acc ∧
          acc.stage = .idle := by
    rw [account?_withVersion hs]
    split
    · exact Or.inr ⟨.blank, rfl, rfl⟩
    · exact Or.inl hnone
  cases h with
  | make source number => exact hmade s.cells.size source number
  | edit cell source number hcell => exact hmade cell source number
  | call cell hcell => exact Or.inl hnone
  | comeBack i call w version' result hcall hphase hversion' hresult =>
      rw [account?_comeBack, hnone]
      exact Or.inl (ite_self none)
  | advance i call current phase records hcall hcurrent hstep =>
      rw [account?_goOn hstep, hnone]
      exact Or.inl (ite_self none)

/-! ## Runs -/

/-- The states that a reader finds in a version in one state of the calls after another, without
repetitions. -/
def statesOf (v : Nat) (run : List (CallSystem α ε)) : List CompileState :=
  (run.filterMap (reading v)).destutter (· ≠ ·)

/-- From a stage on, the states of a version are one of its paths, on which it is given up only if a
failure has no words. -/
lemma states_of_stage {v : Nat} (run : List (CallSystem α ε)) (hs : s.Sound describe compiles)
    (hrun : (s :: run).IsChain (Step describe compiles)) {acc : Account α ε}
    (hacc : s.account? v = some acc) :
    ∃ n, acc.stage.Path n (statesOf v (s :: run)) ∧
      (n ≠ 0 → ∃ t ∈ s :: run, ∃ e reason, t.Wordless describe v e reason) := by
  induction run generalizing s acc with
  | nil =>
      rw [statesOf, List.filterMap_cons_some (reading_of_account? hacc)]
      exact ⟨0, .here acc.stage, fun h => absurd rfl h⟩
  | cons t run ih =>
      obtain ⟨hstep, hrest⟩ := List.isChain_cons_cons.mp hrun
      obtain ⟨acc', hacc', hstage⟩ := stage_step hs hstep hacc
      obtain ⟨n, hpath, hwordless⟩ := ih (sound_step hstep hs) hrest hacc'
      have hlater : n ≠ 0 → ∃ u ∈ s :: t :: run, ∃ e reason, u.Wordless describe v e reason := by
        intro hn
        obtain ⟨u, hu, hfailure⟩ := hwordless hn
        exact ⟨u, List.mem_cons_of_mem _ hu, hfailure⟩
      rw [statesOf, List.filterMap_cons_some (reading_of_account? hacc'),
        List.destutter_cons'] at hpath
      rw [statesOf, List.filterMap_cons_some (reading_of_account? hacc),
        List.filterMap_cons_some (reading_of_account? hacc'), List.destutter_cons']
      rcases hstage with hsame | hnext | ⟨hmarked, hidle, hfailure⟩
      · rw [hsame] at hpath ⊢
        rw [List.destutter'_cons_neg _ (not_not.mpr rfl)]
        exact ⟨n, hpath, hlater⟩
      · rw [List.destutter'_cons_pos _ hnext.state_ne]
        exact ⟨n, .next hnext hpath, hlater⟩
      · have hne : acc.stage.state ≠ acc'.stage.state := by
          rw [hmarked, hidle]
          decide
        rw [List.destutter'_cons_pos _ hne]
        rw [hmarked]
        exact ⟨n + 1, .giveUp (hidle ▸ hpath), fun _ => ⟨s, List.mem_cons_self, hfailure⟩⟩

/-- The states of a version that is yet to be made are none, or a path from the first stage. -/
lemma states_of_new {v : Nat} (run : List (CallSystem α ε)) (hs : s.Sound describe compiles)
    (hrun : (s :: run).IsChain (Step describe compiles)) (hnone : s.account? v = none) :
    statesOf v (s :: run) = [] ∨ ∃ n, Stage.idle.Path n (statesOf v (s :: run)) ∧
      (n ≠ 0 → ∃ t ∈ s :: run, ∃ e reason, t.Wordless describe v e reason) := by
  have hunread := reading_of_account?_eq_none hnone
  induction run generalizing s with
  | nil =>
      rw [statesOf, List.filterMap_cons_none hunread]
      exact Or.inl rfl
  | cons t run ih =>
      obtain ⟨hstep, hrest⟩ := List.isChain_cons_cons.mp hrun
      have hskip : statesOf v (s :: t :: run) = statesOf v (t :: run) := by
        rw [statesOf, statesOf, List.filterMap_cons_none hunread]
      have hlater {n : Nat} (h : n ≠ 0 → ∃ u ∈ t :: run, ∃ e reason, u.Wordless describe v e reason)
          (hn : n ≠ 0) : ∃ u ∈ s :: t :: run, ∃ e reason, u.Wordless describe v e reason := by
        obtain ⟨u, hu, hfailure⟩ := h hn
        exact ⟨u, List.mem_cons_of_mem _ hu, hfailure⟩
      rw [hskip]
      rcases stage_of_new hs hstep hnone with hnone' | ⟨acc, hacc, hstage⟩
      · refine (ih (sound_step hstep hs) hrest hnone' (reading_of_account?_eq_none hnone')).imp_right ?_
        rintro ⟨n, hpath, hwordless⟩
        exact ⟨n, hpath, hlater hwordless⟩
      · obtain ⟨n, hpath, hwordless⟩ := states_of_stage run (sound_step hstep hs) hrest hacc
        exact Or.inr ⟨n, hstage ▸ hpath, hlater hwordless⟩

/-- All states of a run are reachable. -/
lemma reachable_of_mem {run : List (CallSystem α ε)} (hs : Reachable describe compiles s)
    (hrun : (s :: run).IsChain (Step describe compiles)) (ht : t ∈ s :: run) :
    Reachable describe compiles t := by
  induction run generalizing s with
  | nil => rwa [List.mem_singleton.mp ht]
  | cons u run ih =>
      obtain ⟨hstep, hrest⟩ := List.isChain_cons_cons.mp hrun
      rcases List.mem_cons.mp ht with rfl | ht
      · exact hs
      · exact ih (.more hs hstep) hrest ht

/-- A version that is uncompiled after it was handed over is one whose artifact the holder of the
lock is about to keep, or one that has a failure without words. -/
lemma keeping_of_uncompiled (hs : s.Sound describe compiles) {v : Nat}
    (hstate : reading v s = some .uncompiled) (hbegun : s.begun v ≠ 0) :
    (∃ (i : Nat) (call : Call α ε) (a : α), s.records.holder = some i ∧
      s.calls[i]? = some call ∧ call.phase = .keeping v a ∧
      (s.results v).head? = some (.ok a)) ∨ ∃ e reason, s.Wordless describe v e reason := by
  obtain ⟨version, hversion, -⟩ := Option.map_eq_some_iff.mp hstate
  have hacc := account?_of_version? hversion
  rw [reading_of_account? hacc] at hstate
  obtain ⟨c, hmade, hallows⟩ := hs.accounts v _ hacc
  rcases hallows.eq_keeping (Option.some.inj hstate) hbegun with
    ⟨w, a, hwork, hresults⟩ | ⟨e, reason, hmem, hreason⟩
  · have habout : (s.workOn v).about? = some w := by
      rw [hwork]
      rfl
    obtain ⟨i, call, hholder, hcall, -, hv, hphase⟩ := holder_of_workOn hs habout
    obtain rfl : v = w := Option.some.inj (hv.symm.trans (hphase ▸ habout))
    exact Or.inl ⟨i, call, a, hholder, hcall, hphase.trans hwork, hresults⟩
  · exact Or.inr ⟨e, reason, hmem, c, hmade, hreason⟩

/-- **The states of a version along a run.**  Whatever the order of the steps of any number of calls,
with cells made and edited between them, a version is first uncompiled and then compiling. After that
it either fails, or is uncompiled once more before it is compiled, and there it stays. Only a failure
that cannot be put in words leaves it uncompiled as it was, and then all this comes once more. After it
was handed over, it is uncompiled only while the holder of the lock is about to keep its artifact, or
after such a failure. -/
theorem states_of_run {run : List (CallSystem α ε)}
    (hrun : (empty :: run).IsChain (Step describe compiles)) (v : Nat) :
    (∃ n, (statesOf v (empty :: run) <+: Stage.rounds n ++ [.uncompiled, .compiling, .failed] ∨
        statesOf v (empty :: run) <+:
          Stage.rounds n ++ [.uncompiled, .compiling, .uncompiled, .compiled]) ∧
      (n ≠ 0 → ∃ s ∈ empty :: run, ∃ e reason, s.Wordless describe v e reason)) ∧
    ∀ s ∈ empty :: run, reading v s = some .uncompiled → s.begun v ≠ 0 →
      (∃ (i : Nat) (call : Call α ε) (a : α), s.records.holder = some i ∧
        s.calls[i]? = some call ∧ call.phase = .keeping v a ∧
        (s.results v).head? = some (.ok a)) ∨ ∃ e reason, s.Wordless describe v e reason := by
  constructor
  · rcases states_of_new (v := v) run sound_empty hrun rfl with hnil | ⟨n, hpath, hwordless⟩
    · rw [hnil]
      exact ⟨0, Or.inl List.nil_prefix, fun h => absurd rfl h⟩
    · exact ⟨n, hpath.isPrefix, hwordless⟩
  · intro s hmem hstate hbegun
    exact keeping_of_uncompiled (sound_of_reachable (reachable_of_mem .none hrun hmem)) hstate
      hbegun

/-! ## A call that runs alone -/

/-- The states after each entry of a schedule, as far as it can be done. -/
def trace (describe : Nat → Text → ε → Except ε Text) (compile : Nat → Text → Except ε α) :
    List Move → CallSystem α ε → List (CallSystem α ε)
  | [], _ => []
  | m :: moves, s =>
    match s.move describe compile m with
    | none => []
    | some t => t :: trace describe compile moves t

/-- The states of a schedule are a run. -/
lemma isChain_trace {compile : Nat → Text → Except ε α}
    (hcompile : ∀ cell source, compiles cell source (compile cell source)) (moves : List Move)
    (s : CallSystem α ε) :
    (s :: trace describe compile moves s).IsChain (Step describe compiles) := by
  induction moves generalizing s with
  | nil => exact .singleton s
  | cons m moves ih =>
      rw [trace]
      split
      · exact .singleton s
      · rename_i t ht
        exact .cons_cons (step_of_move hcompile m ht) (ih t)

/-- One call for one cell, from its beginning to its end. -/
def lone : List Move :=
  [.make ['a'] 1, .call 0, .advance 0, .advance 0, .advance 0, .advance 0, .advance 0, .advance 0,
    .advance 0, .advance 0, .comeBack 0, .advance 0, .advance 0, .advance 0]

/-- The states that the call leads through. -/
def loneRun : List (CallSystem Nat Text) := trace raceWords raceCompile lone .empty

lemma isChain_loneRun : (empty :: loneRun).IsChain (Step raceWords raceComes) :=
  isChain_trace raceComes_raceCompile lone .empty

/-- No state of the run has a failure without words. -/
lemma not_wordless_loneRun {t : CallSystem Nat Text} (ht : t ∈ empty :: loneRun) (e reason : Text) :
    ¬ t.Wordless raceWords 0 e reason := by
  have hsources : (empty :: loneRun).all (fun t => t.sourceOf 0 != ['c']) = true := rfl
  rintro ⟨-, c, -, hreason⟩
  have hsource : t.sourceOf 0 ≠ ['c'] := bne_iff_ne.mp (List.all_eq_true.mp hsources t ht)
  rw [raceWords, if_neg hsource] at hreason
  cases hreason

/-- What a reader finds in the version that the call compiles. -/
theorem lone_states_of_run :
    (statesOf 0 (empty :: loneRun) <+: [.uncompiled, .compiling, .failed] ∨
      statesOf 0 (empty :: loneRun) <+: [.uncompiled, .compiling, .uncompiled, .compiled]) ∧
    loneRun.length = 14 := by
  obtain ⟨n, hstates, hwordless⟩ := (states_of_run isChain_loneRun 0).1
  obtain rfl : n = 0 := by
    by_contra hn
    obtain ⟨t, ht, e, reason, hfailure⟩ := hwordless hn
    exact not_wordless_loneRun ht e reason hfailure
  exact ⟨hstates, rfl⟩

/-- **A version that is compiling may be uncompiled again.** Nobody else takes a step, and its
artifact is kept in the end. -/
theorem state_returns :
    (empty :: loneRun).IsChain (Step raceWords raceComes) ∧
    statesOf 0 (empty :: loneRun) = [.uncompiled, .compiling, .uncompiled, .compiled] ∧
    ¬ (statesOf 0 (empty :: loneRun) <+: [.uncompiled, .compiling, .compiled] ∨
      statesOf 0 (empty :: loneRun) <+: [.uncompiled, .compiling, .failed]) := by
  have hstates : statesOf 0 (empty :: loneRun) =
      [.uncompiled, .compiling, .uncompiled, .compiled] := rfl
  refine ⟨isChain_loneRun, hstates, ?_⟩
  rw [hstates]
  decide

end CallSystem

end FormulaCube
