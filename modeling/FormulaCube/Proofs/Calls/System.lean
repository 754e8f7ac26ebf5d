import FormulaCube.Cell.Compilation
import Mathlib.Tactic.Lemma

/-!
# Calls for artifacts, interleaved

Any number of calls for the artifacts of any cells, over one compiler, whose steps come in any
order, with cells made and edited between any two of them.

* `CallSystem` — what the calls share, the current version of each cell, and where each call stands.
* `CallSystem.Step` — one step: a cell is made or edited, a call begins, a call takes its next step
  (`Phase.step`), or the compilation that a call waits for comes back.
* `CallSystem.Steps`, `CallSystem.Reachable` — what any number of steps lead to.
* `Deed` — the steps that an observer can tell apart. They are kept in the order in which they were
  done, the last first, so that facts about the past are facts about a state.

The calls of one thread follow one another, and that is one of the orders covered here: a call may
begin at any time, so also just after the last call of its thread. Nothing here reads who made a
call.

What a compilation comes to is not computed. The relation `compiles cell source result` says which
results are possible, for a cell and the source of the version that was handed over. The words for a
failure are those of `describe cell source cause`, where they can be formed.
-/

namespace FormulaCube

variable {α ε : Type}

/-- What can be seen of the steps of calls. -/
inductive Deed (α ε : Type) where
  /-- A version of a source of the cell was begun. -/
  | made (cell version : Nat)
  /-- The call read that this is the current version of its cell. -/
  | captured (call version : Nat)
  /-- The call took the lock. -/
  | locked (call : Nat)
  /-- The call handed the version over to be compiled. -/
  | began (call version : Nat)
  /-- The compilation of the version came back to the call. -/
  | returned (call version : Nat) (result : Except ε α)

namespace Deed

/-- The version was handed over to be compiled. -/
def begins (v : Nat) : Deed α ε → Bool
  | .began _ w => w == v
  | _ => false

/-- A version was handed over to be compiled. -/
def isBegan : Deed α ε → Bool
  | .began .. => true
  | _ => false

/-- A compilation came back. -/
def isReturned : Deed α ε → Bool
  | .returned .. => true
  | _ => false

/-- A compilation came back with a failure. -/
def isFailure : Deed α ε → Bool
  | .returned _ _ (.error _) => true
  | _ => false

/-- What a compilation of the version came back with. -/
def result? (v : Nat) : Deed α ε → Option (Except ε α)
  | .returned _ w result => if w = v then some result else none
  | _ => none

/-- The call took the lock or handed something over to be compiled. -/
def entersFor (call : Nat) : Deed α ε → Bool
  | .locked i => i == call
  | .began i _ => i == call
  | _ => false

end Deed

/-- A call for the artifact of a cell. -/
structure Call (α ε : Type) where
  /-- The cell. -/
  cell : Nat
  /-- The version that the call read as the current one. -/
  version : Option Nat
  /-- Where the call stands. -/
  phase : Phase α ε

/-- All calls of one compiler, with what they share. -/
structure CallSystem (α ε : Type) where
  /-- What the calls share. -/
  records : Records α ε
  /-- The current version of each cell. -/
  cells : Array Nat
  /-- The calls. -/
  calls : Array (Call α ε)
  /-- What was done, the last first. -/
  deeds : List (Deed α ε)

/-- What can be seen of the next step of a call. -/
def Phase.deeds (call current : Nat) : Phase α ε → List (Deed α ε)
  | .start => [.captured call current]
  | .waiting _ => [.locked call]
  | .counting v => [.began call v]
  | _ => []

namespace CallSystem

/-- No cells and no calls. -/
def empty : CallSystem α ε := ⟨⟨#[], none, 0, 0⟩, #[], #[], []⟩

/-- A version by its number. -/
def version? (s : CallSystem α ε) (v : Nat) : Option (Version α ε) := s.records.version? v

/-- The source of a version. -/
def sourceOf (s : CallSystem α ε) (v : Nat) : Text := ((s.version? v).map (·.source)).getD []

/-- How often a version was handed over to be compiled. -/
def begun (s : CallSystem α ε) (v : Nat) : Nat := s.deeds.countP (Deed.begins v)

/-- What the compilations of a version came back with. -/
def results (s : CallSystem α ε) (v : Nat) : List (Except ε α) :=
  s.deeds.filterMap (Deed.result? v)

/-- A new version of a source of the cell that will have this number. -/
def withVersion (s : CallSystem α ε) (cell : Nat) (version : Version α ε) : CallSystem α ε :=
  { s with
    records := { s.records with versions := s.records.versions.push version }
    deeds := .made cell s.records.versions.size :: s.deeds }

/-- A call that goes on in another phase. The first step of a call reads the current version. -/
def goOn (s : CallSystem α ε) (i : Nat) (call : Call α ε) (current : Nat) (phase : Phase α ε)
    (records : Records α ε) : CallSystem α ε :=
  { s with
    records := records
    calls := s.calls.setIfInBounds i ⟨call.cell, some (call.version.getD current), phase⟩
    deeds := call.phase.deeds i current ++ s.deeds }

/-- The result of a compilation comes back to a call. -/
def comeBack (s : CallSystem α ε) (i : Nat) (call : Call α ε) (v : Nat) (result : Except ε α) :
    CallSystem α ε :=
  { s with
    calls := s.calls.setIfInBounds i { call with phase := Phase.compiled v result }
    deeds := .returned i v result :: s.deeds }

/-- A cell of the source is made. -/
def make (s : CallSystem α ε) (source : Text) (number : Nat) : CallSystem α ε :=
  { s.withVersion s.cells.size (Version.blank source number) with
    cells := s.cells.push s.records.versions.size }

/-- The source of a cell is edited: a new version becomes its current one. -/
def edit (s : CallSystem α ε) (cell : Nat) (source : Text) (number : Nat) : CallSystem α ε :=
  { s.withVersion cell (Version.blank source number) with
    cells := s.cells.setIfInBounds cell s.records.versions.size }

/-- A call for a cell begins. -/
def call (s : CallSystem α ε) (cell : Nat) : CallSystem α ε :=
  { s with calls := s.calls.push ⟨cell, none, .start⟩ }

/-- One step. The number of a new version does not matter to any call and is left open, as editors
that run at the same time may count alike. -/
inductive Step (describe : Nat → Text → ε → Except ε Text) (compiles : Nat → Text → Except ε α → Prop) :
    CallSystem α ε → CallSystem α ε → Prop
  /-- A cell is made. -/
  | make (s : CallSystem α ε) (source : Text) (number : Nat) :
      Step describe compiles s (s.make source number)
  /-- The source of a cell is edited. -/
  | edit (s : CallSystem α ε) (cell : Nat) (source : Text) (number : Nat)
      (hcell : cell < s.cells.size) :
      Step describe compiles s (s.edit cell source number)
  /-- A call begins. -/
  | call (s : CallSystem α ε) (cell : Nat) (hcell : cell < s.cells.size) :
      Step describe compiles s (s.call cell)
  /-- A call takes its next step. -/
  | advance (s : CallSystem α ε) (i : Nat) (call : Call α ε) (current : Nat) (phase : Phase α ε)
      (records : Records α ε) (hcall : s.calls[i]? = some call)
      (hcurrent : s.cells[call.cell]? = some current)
      (hstep : call.phase.step i current
        (fun v => describe call.cell (s.sourceOf v)) s.records = some (phase, records)) :
      Step describe compiles s (s.goOn i call current phase records)
  /-- The compilation that a call waits for comes back. -/
  | comeBack (s : CallSystem α ε) (i : Nat) (call : Call α ε) (v : Nat) (version : Version α ε)
      (result : Except ε α) (hcall : s.calls[i]? = some call) (hphase : call.phase = .compiling v)
      (hversion : s.version? v = some version)
      (hresult : compiles call.cell version.source result) :
      Step describe compiles s (s.comeBack i call v result)

/-- Any number of steps. -/
inductive Steps (describe : Nat → Text → ε → Except ε Text) (compiles : Nat → Text → Except ε α → Prop)
    (s : CallSystem α ε) : CallSystem α ε → Prop
  | none : Steps describe compiles s s
  | more {t u : CallSystem α ε} : Steps describe compiles s t → Step describe compiles t u →
      Steps describe compiles s u

lemma Steps.trans {describe : Nat → Text → ε → Except ε Text} {compiles : Nat → Text → Except ε α → Prop}
    {s t u : CallSystem α ε} (h : Steps describe compiles s t) (h' : Steps describe compiles t u) :
    Steps describe compiles s u := by
  induction h' with
  | none => exact h
  | more _ hstep ih => exact .more ih hstep

/-- What steps lead to when there were neither cells nor calls. -/
def Reachable (describe : Nat → Text → ε → Except ε Text) (compiles : Nat → Text → Except ε α → Prop)
    (s : CallSystem α ε) : Prop :=
  Steps describe compiles empty s

end CallSystem

end FormulaCube
