import FormulaCube.Text.Basic

/-!
# Versions of a source

Every edit of a cell begins a new version. What came of compiling a source is kept with its version,
so that an edit drops it.

* `Version` — a source and what came of it, over the types of artifacts and of causes.
* `Version.state` — how far the compilation of a version is.
-/

namespace FormulaCube

/-- How far the compilation of a version is. -/
inductive CompileState where
  | uncompiled | compiling | compiled | failed
  deriving DecidableEq, Repr

/-- The name of a state. -/
def CompileState.label : CompileState → Text
  | .uncompiled => "uncompiled".toList
  | .compiling => "compiling".toList
  | .compiled => "compiled".toList
  | .failed => "failed".toList

/-- One version of a source. -/
structure Version (α ε : Type) where
  /-- The source. -/
  source : Text
  /-- The number of the version, counted from one. -/
  number : Nat
  /-- What it was compiled to. -/
  artifact : Option α
  /-- The words for the failure to compile it. -/
  words : Option Text
  /-- The cause of that failure. -/
  cause : Option ε
  /-- It is being compiled. -/
  compiling : Bool
  deriving Repr

/-- A version about which nothing is known. -/
def Version.blank {α ε : Type} (source : Text) (number : Nat) : Version α ε :=
  ⟨source, number, none, none, none, false⟩

/-- The state of a version, as a reader without the lock sees it. -/
def Version.state {α ε : Type} (v : Version α ε) : CompileState :=
  if v.artifact.isSome then .compiled
  else if v.words.isSome then .failed
  else if v.compiling then .compiling
  else .uncompiled

end FormulaCube
