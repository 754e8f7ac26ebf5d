import FormulaCube.Run.Amount
import FormulaCube.Run.Shown
import FormulaCube.Value.Written

/-!
# Numbers out of other things

* `wholePart?` — the integer that a number, or an object that says so, comes to.
* `toInteger`, `toIntegerIn` — an integer from a number or a text.
* `toDouble`, `realOf` — a double from a number or a text, and from a number alone.
-/

namespace FormulaCube.Run

open Eval

/-! ## Integers -/

/-- The integer that a special method answers. -/
def answeredInteger (name : String) (answer : Datum) : Eval Int := do
  match indexOf? (← coreOf answer) with
  | some i => return i
  | none =>
    fault (.typeMisuse (name.toList ++ " returned non-int (type ".toList ++ (← typeName answer) ++
      [')']))

/-- The integer that a number comes to without its fraction. Objects say themselves which one it is. -/
def wholePart? (call : Caller) (d : Datum) : Eval (Option Datum) := do
  match ← askSpecial? call d "__int__" [] with
  | some answer => return some (← newInt (← answeredInteger "__int__" answer))
  | none =>
    match ← coreOf d with
    | .int i mark => return some (.int i mark)
    | .bool b => return some (.ofInt (if b then 1 else 0) 0)
    | .float x _ => return some (← roundedInteger x x.truncate?)
    | _ =>
      match ← askSpecial? call d "__index__" [] with
      | some answer => return some (← newInt (← answeredInteger "__index__" answer))
      | none =>
        match ← askSpecial? call d "__trunc__" [] with
        | some answer => return some (← newInt (← answeredInteger "__trunc__" answer))
        | none => return none

/-- An integer, from a number or a text. -/
def toInteger (call : Caller) (d : Datum) : Eval Datum := do
  match ← wholePart? call d with
  | some i => return i
  | none =>
    match ← coreOf d with
    | .str t _ => newInt (← ofExcept (writtenInteger 10 t))
    | _ =>
      fault (.typeMisuse
        ("int() argument must be a string, a bytes-like object or a real number, not '".toList ++
          (← typeName d) ++ [Text.apostrophe]))

/-- An integer that a text is written as in a base. -/
def toIntegerIn (call : Caller) (d base : Datum) : Eval Datum := do
  let base ← integerOf call base
  if (base ≠ 0 && base < 2) || 36 < base then
    fault (.improper "int() base must be >= 2 and <= 36, or 0".toList)
  else
    match ← coreOf d with
    | .str t _ => newInt (← ofExcept (writtenInteger base.toNat t))
    | _ => fault (.typeMisuse "int() can't convert non-string with explicit base".toList)

/-! ## Doubles -/

/-- The double that a number, or an object that says so, comes to. -/
def doubleOf? (call : Caller) (d : Datum) : Eval (Option Datum) := do
  match ← askSpecial? call d "__float__" [] with
  | some answer =>
    match ← coreOf answer with
    | .float x mark => return some (.float x mark)
    | _ =>
      fault (.typeMisuse ((← typeName d) ++ ".__float__ returned non-float (type ".toList ++
        (← typeName answer) ++ [')']))
  | none =>
    match ← coreOf d with
    | .float x mark => return some (.float x mark)
    | core =>
      match amount? core with
      | some a => return some (← newFloat (← a.toFloat))
      | none =>
        match ← indexOf call d with
        | some i => return some (← newFloat (← floatOf i))
        | none => return none

/-- A double, from a number or a text. -/
def toDouble (call : Caller) (d : Datum) : Eval Datum := do
  match ← doubleOf? call d with
  | some x => return x
  | none =>
    match ← coreOf d with
    | .str t _ => newFloat (← ofExcept (writtenDouble t))
    | _ =>
      fault (.typeMisuse ("float() argument must be a string or a real number, not '".toList ++
        (← typeName d) ++ [Text.apostrophe]))

/-- The double that a number comes to; a text is no number. -/
def realOf (call : Caller) (d : Datum) : Eval Binary64 := do
  match ← doubleOf? call d with
  | some (.float x _) => return x
  | _ => fault (.typeMisuse ("must be real number, not ".toList ++ (← typeName d)))

end FormulaCube.Run
