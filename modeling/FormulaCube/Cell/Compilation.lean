import FormulaCube.Cell.Version

/-!
# Compiling at most once

A call for the artifact of a cell goes through small steps, and the steps of several calls may be
interleaved. A version whose outcome is known is answered without the lock. Otherwise the call takes
the lock, looks once more, and compiles. A failure becomes known by its words; where these cannot be
formed, the call ends with the failure of that attempt, and the next call compiles once more.

* `Records` — what the calls of one compiler share.
* `Phase` — where a call stands.
* `Phase.step` — the next step of a call. A call that waits for the lock, that has handed its version
  to be compiled, or that is done has none.
* `Phase.compiled` — how a call goes on after its version was compiled.
-/

namespace FormulaCube

/-- What the calls of one compiler share. -/
structure Records (α ε : Type) where
  /-- The versions of all cells. -/
  versions : Array (Version α ε)
  /-- The call that holds the lock. -/
  holder : Option Nat
  /-- How many compilations were begun. -/
  compiles : Nat
  /-- How many of them failed. -/
  failures : Nat

/-- How a call ends. -/
inductive Outcome (α ε : Type) where
  /-- With an artifact. -/
  | artifact (a : α)
  /-- With the words and the cause of the failure to compile the version. -/
  | failed (version : Nat) (words : Text) (cause : Option ε)
  /-- With the failure to form these words. -/
  | raised (cause : ε)
  deriving Repr

/-- Where a call stands. -/
inductive Phase (α ε : Type) where
  /-- The current version of the cell is about to be read. -/
  | start
  /-- The artifact of the version is about to be read. -/
  | readArtifact (version : Nat)
  /-- The words for a failure are about to be read. -/
  | readFailure (version : Nat)
  /-- The lock is about to be taken. -/
  | waiting (version : Nat)
  /-- With the lock, the artifact is about to be read again. -/
  | recheckArtifact (version : Nat)
  /-- With the lock, the words for a failure are about to be read again. -/
  | recheckFailure (version : Nat)
  /-- The version is about to be marked. -/
  | marking (version : Nat)
  /-- The compilation is about to be counted. -/
  | counting (version : Nat)
  /-- The version is being compiled. -/
  | compiling (version : Nat)
  /-- It was compiled, and its mark is about to be taken away. -/
  | unmarking (version : Nat) (artifact : α)
  /-- The artifact is about to be kept. -/
  | keeping (version : Nat) (artifact : α)
  /-- It failed, and the failure is about to be counted. -/
  | countingFailure (version : Nat) (cause : ε)
  /-- The cause is about to be kept. -/
  | keepingCause (version : Nat) (cause : ε)
  /-- The words are about to be kept. -/
  | keepingWords (version : Nat) (cause : ε)
  /-- The mark is about to be taken away after a failure. -/
  | unmarkingFailed (version : Nat) (words : Text) (cause : ε)
  /-- The mark is about to be taken away after a failure whose words could not be formed. -/
  | unmarkingWordless (version : Nat) (cause : ε)
  /-- The lock is about to be released. -/
  | releasing (outcome : Outcome α ε)
  /-- The call is over. -/
  | done (outcome : Outcome α ε)
  deriving Repr

namespace Records

variable {α ε : Type}

/-- A version by its number. -/
def version? (s : Records α ε) (v : Nat) : Option (Version α ε) := s.versions[v]?

/-- The records with a version changed. -/
def update (s : Records α ε) (v : Nat) (f : Version α ε → Version α ε) : Records α ε :=
  { s with versions := s.versions.modify v f }

end Records

namespace Phase

variable {α ε : Type}

/-- The outcome that a version records: its failure, if it has one. -/
def recordedFailure (s : Records α ε) (v : Nat) : Option (Outcome α ε) := do
  let version ← s.version? v
  let words ← version.words
  some (.failed v words version.cause)

/-- The artifact that a version records. -/
def recordedArtifact (s : Records α ε) (v : Nat) : Option (Outcome α ε) := do
  let version ← s.version? v
  (version.artifact).map .artifact

/-- The next step of call number `me`. `current` is the current version of its cell, and `describe`
forms the words for a failure to compile a version. -/
def step (me current : Nat) (describe : Nat → ε → Except ε Text) (s : Records α ε) :
    Phase α ε → Option (Phase α ε × Records α ε)
  | .start => some (.readArtifact current, s)
  | .readArtifact v =>
    match recordedArtifact s v with
    | some outcome => some (.done outcome, s)
    | none => some (.readFailure v, s)
  | .readFailure v =>
    match recordedFailure s v with
    | some outcome => some (.done outcome, s)
    | none => some (.waiting v, s)
  | .waiting v =>
    match s.holder with
    | none => some (.recheckArtifact v, { s with holder := some me })
    | some _ => none
  | .recheckArtifact v =>
    match recordedArtifact s v with
    | some outcome => some (.releasing outcome, s)
    | none => some (.recheckFailure v, s)
  | .recheckFailure v =>
    match recordedFailure s v with
    | some outcome => some (.releasing outcome, s)
    | none => some (.marking v, s)
  | .marking v => some (.counting v, s.update v ({ · with compiling := true }))
  | .counting v => some (.compiling v, { s with compiles := s.compiles + 1 })
  | .compiling _ => none
  | .unmarking v artifact =>
    some (.keeping v artifact, s.update v ({ · with compiling := false }))
  | .keeping v artifact =>
    some (.releasing (.artifact artifact), s.update v ({ · with artifact := some artifact }))
  | .countingFailure v cause =>
    some (.keepingCause v cause, { s with failures := s.failures + 1 })
  | .keepingCause v cause =>
    some (.keepingWords v cause, s.update v ({ · with cause := some cause }))
  | .keepingWords v cause =>
    match describe v cause with
    | .ok words =>
      some (.unmarkingFailed v words cause, s.update v ({ · with words := some words }))
    | .error other => some (.unmarkingWordless v other, s)
  | .unmarkingFailed v words cause =>
    some (.releasing (.failed v words (some cause)), s.update v ({ · with compiling := false }))
  | .unmarkingWordless v other =>
    some (.releasing (.raised other), s.update v ({ · with compiling := false }))
  | .releasing outcome => some (.done outcome, { s with holder := none })
  | .done _ => none

/-- How a call goes on after its version was compiled with this result. -/
def compiled (v : Nat) : Except ε α → Phase α ε
  | .ok artifact => .unmarking v artifact
  | .error cause => .countingFailure v cause

/-- The most steps that a call takes before its version is compiled, or after it. -/
def stepBound : Nat := 10

/-- The steps of a call until it has none left, and at most `bound` of them. -/
def run (me current : Nat) (describe : Nat → ε → Except ε Text) :
    (bound : Nat) → Phase α ε → Records α ε → Phase α ε × Records α ε
  | 0, phase, s => (phase, s)
  | bound + 1, phase, s =>
    match phase.step me current describe s with
    | some (phase, s) => run me current describe bound phase s
    | none => (phase, s)

end Phase

end FormulaCube
