import FormulaCube.Shortcut.Coordinate
import FormulaCube.Value.Basic

/-!
# Failures

Why a cell gives no value: a fault of the code that was run, or an error about cells themselves.

* `Failure` — the causes.
* `Failure.kind`, `Failure.message` — the name of its kind and its words.
* `Failure.isAboutCells` — whether it passes through enclosing cells unchanged.

An error about cells is raised with its words, and these name a coordinate. Where they cannot be formed,
the fault of that is raised in its place.

* `Failure.words` — the words of a failure, if it can be put in words.
* `Failure.unresolvedAt`, `Failure.notFoundAt`, `Failure.invocationOf` — the errors about cells as they
  are raised.
* `compilationWords` — the words for a cell whose source could not be compiled.
-/

namespace FormulaCube

/-- Why a cell gives no value. -/
inductive Failure where
  /-- A fault of the code that was run. -/
  | fault (f : Fault)
  /-- A shortcut that cannot be read. -/
  | shortcut (e : ShortcutError)
  /-- A cell of the cube `owner` referred to a cube that is not registered; `kind` says how. -/
  | unresolved (owner : Text) (target coordinate : Value) (kind : Text)
  /-- No cell of the cube matches the coordinate. -/
  | notFound (cube : Text) (coordinate : Value)
  /-- The source of a cell could not be compiled. The words were chosen when that happened. -/
  | compilation (words cube : Text) (coordinate : Value) (source : Text) (cause : Failure)
  /-- The code of a cell was stopped by a fault. -/
  | invocation (cube : Text) (coordinate : Value) (cause : Failure)
  deriving Repr, Inhabited

namespace Failure

/-- The name of the kind of a failure. -/
def kind : Failure → Text
  | .fault f => f.kind
  | .shortcut _ => "ShortcutSyntaxError".toList
  | .unresolved .. => "UnresolvedReferenceError".toList
  | .notFound .. => "CoordinateNotFoundError".toList
  | .compilation .. => "CompilationError".toList
  | .invocation .. => "RuntimeInvocationError".toList

/-- Kind and words of a failure in one; of a source that is no valid program only the kind. -/
def headline (kind message : Text) : Failure → Text
  | .fault .syntaxError => kind
  | _ => kind ++ ": ".toList ++ message

/-- A failure in words, as far as it can be put in words. -/
def message : Failure → Text
  | .fault f => f.message
  | .shortcut e => e.message
  | .unresolved owner target coordinate kind =>
    "Cube '".toList ++ target.display ++ "' is not registered, cube '".toList ++ owner ++
      "' attempted a ".toList ++ kind ++ " reference to cell: ".toList ++
      coordinate.coordinateText
  | .notFound cube coordinate =>
    "No cell in cube '".toList ++ cube ++ "' matches: ".toList ++ coordinate.coordinateText
  | .compilation words .. => words
  | .invocation cube coordinate cause =>
    "Error running cell [".toList ++ coordinate.coordinateText ++ "], cube '".toList ++ cube ++
      "': ".toList ++ headline cause.kind cause.message cause

/-- Kind and words of a failure. -/
def description (f : Failure) : Text := headline f.kind f.message f

/-- Whether the failure is about cells themselves, so that enclosing cells pass it on unchanged. -/
def isAboutCells : Failure → Bool
  | .fault _ => false
  | _ => true

/-! ## Words -/

/-- The words of a failure, or the fault of the attempt to form them. -/
def words : Failure → Except Fault Text
  | .fault f => f.words
  | f => .ok f.message

/-- A failure that is raised with words made of these texts. The fault of the first that cannot be formed
comes in its place. -/
def raisedWith (texts : List (Except Fault Text)) (f : Failure) : Failure :=
  match texts.mapM id with
  | .ok _ => f
  | .error reason => .fault reason

/-- The failure of a reference to a cube that is not registered. -/
def unresolvedAt (owner : Text) (target coordinate : Value) (kind : Text) : Failure :=
  raisedWith [target.displayed, coordinate.formatted] (.unresolved owner target coordinate kind)

/-- The failure of a lookup that no cell matches. -/
def notFoundAt (cube : Text) (coordinate : Value) : Failure :=
  raisedWith [coordinate.formatted] (.notFound cube coordinate)

/-- The failure of a cell whose code was stopped by a fault. -/
def invocationOf (cube : Text) (coordinate : Value) (cause : Failure) : Failure :=
  raisedWith [coordinate.formatted, cause.words] (.invocation cube coordinate cause)

/-- A failure comes out in its own words if both of its texts can be formed. -/
theorem raisedWith_of_ok {t u : Text} {first second : Except Fault Text} (h : first = .ok t)
    (h' : second = .ok u) (f : Failure) : raisedWith [first, second] f = f := by
  rw [h, h']
  rfl

/-- The fault of the first text comes in its place, whatever the others are. -/
theorem raisedWith_of_error {reason : Fault} {first : Except Fault Text} (h : first = .error reason)
    (texts : List (Except Fault Text)) (f : Failure) :
    raisedWith (first :: texts) f = .fault reason := by
  rw [h, raisedWith, List.mapM_cons]
  rfl

/-- The fault of the second text comes in its place, if the first can be formed. -/
theorem raisedWith_of_ok_of_error {t : Text} {reason : Fault} {first second : Except Fault Text}
    (h : first = .ok t) (h' : second = .error reason) (f : Failure) :
    raisedWith [first, second] f = .fault reason := by
  rw [h, h']
  rfl

/-- A lookup fails as such if its coordinate can be written. -/
theorem notFoundAt_of_ok {cube place : Text} {coordinate : Value} (h : coordinate.formatted = .ok place) :
    notFoundAt cube coordinate = .notFound cube coordinate := by
  rw [notFoundAt, h]
  rfl

end Failure

/-- The words for a cell whose source could not be compiled; `quoted` is the source as it is quoted. -/
def compilationWords (cube : Text) (coordinate : Value) (quoted : Text) (cause : Failure) :
    Except Fault Text := do
  let place ← coordinate.formatted
  let words ← cause.words
  return "Failed to compile cell [".toList ++ place ++ "], cube '".toList ++ cube ++
    "', source ".toList ++ Text.quoted quoted ++ ": ".toList ++
    Failure.headline cause.kind words cause

end FormulaCube
