import FormulaCube.Proofs.Calls.Advance

/-!
# Schedules

A schedule names the steps of calls one after another. Playing it computes what the relation
`CallSystem.Step` allows: `CallSystem.steps_of_play` says that a state reached by a schedule is
reached by steps, so that an order of steps can be given by listing it. `CallSystem.steps_of_run`
says the same of a call that `Phase.run` lets go on until it has no step left.
-/

namespace FormulaCube

variable {α ε : Type}

/-- One entry of a schedule. -/
inductive Move where
  /-- Make a cell of the source. -/
  | make (source : Text) (number : Nat)
  /-- Edit the source of a cell. -/
  | edit (cell : Nat) (source : Text) (number : Nat)
  /-- Begin a call for a cell. -/
  | call (cell : Nat)
  /-- Let a call take its next step. -/
  | advance (i : Nat)
  /-- Let the compilation that a call waits for come back. -/
  | comeBack (i : Nat)

/-- Whether a compilation comes back with the entry. -/
def Move.comesBack : Move → Bool
  | .comeBack _ => true
  | _ => false

namespace CallSystem

/-- The state after one entry, if it can be done. A compilation comes to what `compile` says. -/
def move (describe : Nat → Text → ε → Except ε Text) (compile : Nat → Text → Except ε α)
    (s : CallSystem α ε) : Move → Option (CallSystem α ε)
  | .make source number => some (s.make source number)
  | .edit cell source number =>
    if cell < s.cells.size then some (s.edit cell source number) else none
  | .call cell => if cell < s.cells.size then some (s.call cell) else none
  | .advance i =>
    match s.calls[i]? with
    | none => none
    | some call =>
      match s.cells[call.cell]? with
      | none => none
      | some current =>
        match call.phase.step i current (fun v => describe call.cell (s.sourceOf v)) s.records with
        | none => none
        | some (phase, records) => some (s.goOn i call current phase records)
  | .comeBack i =>
    match s.calls[i]? with
    | some ⟨cell, captured, .compiling v⟩ =>
      match s.version? v with
      | none => none
      | some version =>
        some (s.comeBack i ⟨cell, captured, .compiling v⟩ v (compile cell version.source))
    | _ => none

/-- The state after a schedule, if all of it can be done. -/
def play (describe : Nat → Text → ε → Except ε Text) (compile : Nat → Text → Except ε α) :
    List Move → CallSystem α ε → Option (CallSystem α ε)
  | [], s => some s
  | m :: moves, s => (s.move describe compile m).bind (play describe compile moves)

variable {describe : Nat → Text → ε → Except ε Text} {compile : Nat → Text → Except ε α}
  {compiles : Nat → Text → Except ε α → Prop}

/-- An entry that can be done is a step, whatever compilations may come to, where none comes back. -/
lemma step_of_quiet_move {s t : CallSystem α ε} (m : Move) (hm : m.comesBack = false)
    (h : s.move describe compile m = some t) : Step describe compiles s t := by
  cases m with
  | make source number =>
      cases h
      exact .make s source number
  | edit cell source number =>
      simp only [move] at h
      split at h
      · rename_i hcell
        cases h
        exact .edit s cell source number hcell
      · cases h
  | call cell =>
      simp only [move] at h
      split at h
      · rename_i hcell
        cases h
        exact .call s cell hcell
      · cases h
  | advance i =>
      simp only [move] at h
      split at h
      · cases h
      · rename_i call hcall
        split at h
        · cases h
        · rename_i current hcurrent
          split at h
          · cases h
          · rename_i phase records hstep
            cases h
            exact .advance s i call current phase records hcall hcurrent hstep
  | comeBack i => cases hm

variable (hcompile : ∀ cell source, compiles cell source (compile cell source))

include hcompile

/-- An entry that can be done is a step. -/
lemma step_of_move {s t : CallSystem α ε} (m : Move) (h : s.move describe compile m = some t) :
    Step describe compiles s t := by
  cases m with
  | comeBack i =>
      simp only [move] at h
      split at h
      · rename_i cell captured v hcall
        split at h
        · cases h
        · rename_i version hversion
          cases h
          exact .comeBack s i _ v version _ hcall rfl hversion (hcompile cell version.source)
      · cases h
  | _ => exact step_of_quiet_move _ rfl h

/-- **A schedule is an order of steps.** -/
theorem steps_of_play (moves : List Move) {s t : CallSystem α ε}
    (h : play describe compile moves s = some t) :
    Steps describe compiles s t := by
  induction moves generalizing s with
  | nil =>
      cases h
      exact .none
  | cons m moves ih =>
      obtain ⟨u, hu, h⟩ := Option.bind_eq_some_iff.mp h
      exact (Steps.more .none (step_of_move hcompile m hu)).trans (ih h)

omit hcompile

/-! ## One call that runs alone -/

/-- **A call that runs alone takes steps.** What `Phase.run` leads to is reached by steps, in which
the call is the only one that goes on. -/
theorem steps_of_run (bound : Nat) {s : CallSystem α ε} {i current : Nat} {call : Call α ε}
    (hcall : s.calls[i]? = some call) (hcurrent : s.cells[call.cell]? = some current) :
    ∃ t next, Steps describe compiles s t ∧ t.calls[i]? = some next ∧ next.cell = call.cell ∧
      (next.phase, t.records) = call.phase.run i current
        (fun v => describe call.cell (s.sourceOf v)) bound s.records := by
  induction bound generalizing s call with
  | zero => exact ⟨s, call, .none, hcall, rfl, rfl⟩
  | succ bound ih =>
      cases hstep : call.phase.step i current (fun v => describe call.cell (s.sourceOf v))
          s.records with
      | none =>
          refine ⟨s, call, .none, hcall, rfl, ?_⟩
          rw [Phase.run, hstep]
      | some next =>
          obtain ⟨phase, records⟩ := next
          have hi : i < s.calls.size := (Array.getElem?_eq_some_iff.mp hcall).1
          have hmoved : (s.goOn i call current phase records).calls[i]? =
              some ⟨call.cell, some (call.version.getD current), phase⟩ :=
            (calls_goOn hi i).trans (if_pos rfl)
          obtain ⟨t, last, hsteps, hlast, hcell, hrun⟩ := ih hmoved hcurrent
          refine ⟨t, last, ?_, hlast, hcell, ?_⟩
          · exact (Steps.more .none
              (.advance s i call current phase records hcall hcurrent hstep)).trans hsteps
          · rw [hrun, Phase.run, hstep, sourceOf_goOn hstep]
            rfl

end CallSystem

end FormulaCube
