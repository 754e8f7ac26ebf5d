import FormulaCube.Run.Machine

/-!
# Calls that meet

The first of several calls for the same cell is held while its module is being compiled; meanwhile the
others begin. They all wait for the lock and end with the same outcome.

* `race` — what the calls end with, and the state of the cell meanwhile and at the end.
-/

namespace FormulaCube.Run

open Eval

/-- What comes of calls that meet. -/
structure RaceReport where
  /-- The state of the cell while the first call was held. -/
  during : Text
  /-- How each call ends. -/
  outcomes : List (Except Failure Artifact)
  /-- The state of the cell at the end. -/
  state : Text

/-- Where the first call stands while it is held, and how it goes on from there. -/
def holdFirst (compiler cell : Nat) :
    Eval (Phase Artifact Failure × Option (Nat × Job × GeneratedModule)) := do
  match ← advance compiler cell 0 .start with
  | .compiling version =>
    let ended (f : Failure) : Eval (Phase Artifact Failure × Option (Nat × Job × GeneratedModule)) := do
      return (← advance compiler cell 0 (Phase.compiled version (.error f)), none)
    match ← jobFor compiler cell version with
    | .error f => ended (.fault f)
    | .ok job =>
      match job.module with
      | .error f => ended f
      | .ok module =>
        report (job.started module)
        return (.compiling version, some (version, job, module))
  | phase => return (phase, none)

/-- Lets the first call go on. -/
def releaseFirst (machine : Machine) (compiler cell : Nat) (phase : Phase Artifact Failure) :
    Option (Nat × Job × GeneratedModule) → Eval (Phase Artifact Failure)
  | none => return phase
  | some (version, job, module) => do
    let backEnd := (← compilerRecord compiler).backEnd
    let result ← handOver machine compiler backEnd module
    let result ← job.finish report module result
    advance compiler cell 0 (Phase.compiled version result)

/-- Several calls for the same cell, the first of which is held while its module is compiled. -/
def race (machine : Machine) (compiler cell calls : Nat) : Eval RaceReport := do
  let (first, held) ← holdFirst compiler cell
  let others ← (List.range (calls - 1)).mapM fun i => do
    return (i + 1, ← advance compiler cell (i + 1) .start)
  let during ← currentState cell
  let first ← releaseFirst machine compiler cell first held
  let ends ← others.mapM fun (me, phase) => advance compiler cell me phase
  let outcomes ← (first :: ends).mapM fun phase => (outcomeOf cell phase).attempt
  return ⟨during, outcomes, ← currentState cell⟩

end FormulaCube.Run
