import FormulaCube.Run.Collections
import FormulaCube.Run.Lineage

/-!
# Special methods

The classes that cells define may say themselves how their objects behave where the language asks for
something: what counts as true, how long something is, which integer it stands for. They say so by
methods with special names. Where they say nothing, what every standard type does holds.

* `Caller` — how something is called.
* `special?`, `askSpecial?` — a special method of an object, and what it answers.
* `isTrue`, `lengthOf`, `indexOf`, `hashKey` — what the language asks for.
-/

namespace FormulaCube.Run

open Eval

/-- How something is called with arguments. -/
abbrev Caller := Datum → List Datum → List (Text × Datum) → Eval Datum

/-- What the class of an object says under a special name. A standard type that comes first in its line
settles that there is nothing. -/
def special? (d : Datum) (name : String) : Eval (Option Datum) := do
  let found (type : Datum) : Eval (Option Datum) := do
    match type with
    | .type _ => return none
    | type =>
      match ← inheritedMember? type name.toList with
      | some (.member ..) => return none
      | found => return found
  match d with
  | .ref address =>
    match ← read address with
    | .instance type _ _ => found type
    | .exception type _ _ => found type
    | _ => return none
  | _ => return none

/-- Calls what a class has under a name for an object: a function is given the object first. -/
def callFor (call : Caller) (d f : Datum) (ds : List Datum) : Eval Datum := do
  match f with
  | .ref address =>
    match ← read address with
    | .procedure _ => call f (d :: ds) []
    | .wrapped kind g =>
      if kind = "classmethod".toList then call g ((← typeOf d) :: ds) []
      else if kind = "property".toList then call (← call g [d] []) ds []
      else call g ds []
    | _ => call f ds []
  | .member .. => call f (d :: ds) []
  | f => call f ds []

/-- What a special method of an object answers, if there is one. -/
def askSpecial? (call : Caller) (d : Datum) (name : String) (ds : List Datum) :
    Eval (Option Datum) := do
  (← special? d name).mapM fun f => callFor call d f ds

/-- What a special method of an object answers, unless it says that it does not apply. -/
def askApplicable? (call : Caller) (d : Datum) (name : String) (ds : List Datum) :
    Eval (Option Datum) := do
  return (← askSpecial? call d name ds).filter fun answer => !isNotApplicable answer

/-! ## Integers -/

/-- The integer that something stands for as an index, if it does. -/
def indexOf (call : Caller) (d : Datum) : Eval (Option Int) := do
  match indexOf? (← coreOf d) with
  | some i => return some i
  | none =>
    match ← askSpecial? call d "__index__" [] with
    | none => return none
    | some answer =>
      match indexOf? (← coreOf answer) with
      | some i => return some i
      | none =>
        fault (.typeMisuse ("__index__ returned non-int (type ".toList ++ (← typeName answer) ++
          [')']))

/-- The fault of something that stands for no integer. -/
def noInteger {α : Type} (d : Datum) : Eval α := do
  fault (.typeMisuse (Text.apostrophe :: ((← typeName d) ++
    "' object cannot be interpreted as an integer".toList)))

/-- The integer that something stands for. -/
def integerOf (call : Caller) (d : Datum) : Eval Int := do
  match ← indexOf call d with
  | some i => return i
  | none => noInteger d

/-- Whether an integer fits a machine word. -/
def fitsWord (i : Int) : Bool := -2 ^ 63 ≤ i && i < 2 ^ 63

/-- The words for an integer that does not fit a machine word. -/
def wordMisfit : Text := "cannot fit 'int' into an index-sized integer".toList

/-- The integer that something stands for as an index into a sequence. -/
def wordIndexOf (call : Caller) (d : Datum) : Eval (Option Int) := do
  match ← indexOf call d with
  | some i => if fitsWord i then return some i else fault (.rangeWords wordMisfit)
  | none => return none

/-- The integer that something stands for as a number of steps, which has to fit a machine word. -/
def stepsOf (call : Caller) (d : Datum) : Eval Int := do
  let i ← integerOf call d
  if fitsWord i then return i
  else fault (.overflow "Python int too large to convert to C ssize_t".toList)

/-! ## Lengths and truth -/

/-- How many members something of a standard type has. -/
def standardLength? (d : Datum) : Eval (Option Nat) := do
  match ← coreOf d with
  | .str t _ => return some t.length
  | .tuple items _ => return some items.length
  | .bytes data => return some data.length
  | .range start stop step => return some (Datum.rangeLength start stop step)
  | .registry => return some (← get).directory.length
  | .ref address =>
    match ← read address with
    | .list items => return some items.length
    | .dict entries => return some entries.length
    | .set entries => return some entries.length
    | .dictView _ dict =>
      match ← read dict with
      | .dict entries => return some entries.length
      | _ => return some 0
    | _ => return none
  | _ => return none

/-- A length that a special method answers. -/
def answeredLength (call : Caller) (answer : Datum) : Eval Nat := do
  let i ← integerOf call answer
  if i < 0 then fault (.improper "__len__() should return >= 0".toList)
  else if !fitsWord i then fault (.overflow wordMisfit)
  else return i.toNat

/-- How many members something has. -/
def lengthOf (call : Caller) (d : Datum) : Eval Nat := do
  match ← askSpecial? call d "__len__" [] with
  | some answer => answeredLength call answer
  | none =>
    match ← standardLength? d with
    | some n =>
      if fitsWord n then return n
      else fault (.overflow "Python int too large to convert to C ssize_t".toList)
    | none => fault (.noLength (← typeName d))

/-- Whether something of a standard type counts as true: it is not nothing, zero or empty. -/
def standardTruth (d : Datum) : Eval Bool := do
  match ← coreOf d with
  | .none => return false
  | .bool b => return b
  | .int i _ => return i ≠ 0
  | .float x _ => return !x.isZero
  | d => return (← standardLength? d).getD 1 ≠ 0

/-- Whether something counts as true where a condition is asked for. -/
def isTrue (call : Caller) (d : Datum) : Eval Bool := do
  match ← askSpecial? call d "__bool__" [] with
  | some (.bool b) => return b
  | some answer =>
    fault (.typeMisuse ("__bool__ should return bool, returned ".toList ++ (← typeName answer)))
  | none =>
    match ← askSpecial? call d "__len__" [] with
    | some answer => return (← answeredLength call answer) ≠ 0
    | none => standardTruth d

/-! ## Keys -/

/-- The key under which something is looked up. Objects whose class says how they are looked up are told
apart by what it says. -/
def hashKey (call : Caller) (d : Datum) : Eval Key := do
  match ← special? d "__hash__" with
  | none => keyOf d
  | some .none => keyOf d
  | some f =>
    match ← callFor call d f [] with
    | .int i _ => return .tuple [.object 14 0, .int i]
    | .bool b => return .tuple [.object 14 0, Key.ofBool b]
    | _ => fault (.typeMisuse "__hash__ method should return an integer".toList)

end FormulaCube.Run
