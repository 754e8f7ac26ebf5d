import FormulaCube.Run.Special

/-!
# Arithmetic

Integers are exact. Where a double takes part, both operands become doubles.

* `Amount` — a number: an integer, or a double.
* `combineAmounts` — an operator on two numbers.
* `roundedTo` — a number rounded to decimal places.
-/

namespace FormulaCube.Run

open Eval Code

/-- A number: an integer, or a double. -/
inductive Amount where
  /-- An integer. -/
  | int (i : Int)
  /-- A double. -/
  | float (x : Binary64)

/-- What is held as a number, if it is one. -/
def amount? : Datum → Option Amount
  | .bool b => some (.int (if b then 1 else 0))
  | .int i _ => some (.int i)
  | .float x _ => some (.float x)
  | _ => none

/-- The double nearest to an integer; large integers have none. -/
def floatOf (i : Int) : Eval Binary64 := do
  let x := Binary64.ofInt i
  if x.isFinite then return x else fault (.overflow "int too large to convert to float".toList)

namespace Amount

/-- A number as it is held. -/
def toDatum : Amount → Eval Datum
  | .int i => newInt i
  | .float x => newFloat x

/-- A number as a double. -/
def toFloat : Amount → Eval Binary64
  | .int i => floatOf i
  | .float x => return x

end Amount

/-! ## Quotients and powers -/

/-- The fault of a division by zero. -/
def zeroDivision {α : Type} (words : String) : Eval α := fault (.zeroDivision words.toList)

/-- The quotient of two integers as a double. -/
def quotient (a b : Int) : Eval Datum := do
  if b = 0 then zeroDivision "division by zero"
  else
    let x := Binary64.ofRatio ((a < 0) != (b < 0)) a.natAbs b.natAbs
    if x.isFinite then newFloat x
    else fault (.overflow "integer division result too large for a float".toList)

/-- A power of doubles. -/
def floatPower (x y : Binary64) : Eval Datum := do
  if x.isZero && y.isNegative && y.isFinite && !y.isZero then
    zeroDivision "0.0 cannot be raised to a negative power"
  else if x.isNegative && !x.isZero && x.isFinite && y.isFinite && (y.toInt?).isNone then
    return .plain "complex".toList (Datum.plainText "complex".toList)
  else
    let z := x.pow y
    if !z.isFinite && !z.isNan && x.isFinite && y.isFinite then
      fault (.overflow "(34, 'Numerical result out of range')".toList)
    else newFloat z

/-- A power of integers, which is a double where the exponent is negative. -/
def intPower (a b : Int) : Eval Datum := do
  if 0 ≤ b then newInt (a ^ b.toNat) else floatPower (← floatOf a) (← floatOf b)

/-! ## Bits -/

/-- The bits that two integers have in common, where a negative one has endless bits. -/
def commonBits : Int → Int → Int
  | .ofNat m, .ofNat n => ((m &&& n : Nat) : Int)
  | .ofNat m, .negSucc n => ((m ^^^ (m &&& n) : Nat) : Int)
  | .negSucc m, .ofNat n => ((n ^^^ (n &&& m) : Nat) : Int)
  | .negSucc m, .negSucc n => .negSucc (m ||| n)

/-- The bits that at least one of two integers has. -/
def eitherBits (a b : Int) : Int := a + b - commonBits a b

/-! ## Operators on numbers -/

/-- An operator on integers. -/
def combineInts (op : BinaryOp) (a b : Int) : Eval (Option Datum) := do
  match op with
  | .add => return some (← newInt (a + b))
  | .sub => return some (← newInt (a - b))
  | .mul => return some (← newInt (a * b))
  | .div => return some (← quotient a b)
  | .floorDiv =>
    if b = 0 then zeroDivision "integer division or modulo by zero"
    else return some (← newInt (a.fdiv b))
  | .mod =>
    if b = 0 then zeroDivision "integer modulo by zero" else return some (← newInt (a.fmod b))
  | .pow => return some (← intPower a b)
  | .shiftLeft =>
    if b < 0 then fault (.improper "negative shift count".toList)
    else return some (← newInt (a * 2 ^ b.toNat))
  | .shiftRight =>
    if b < 0 then fault (.improper "negative shift count".toList)
    else return some (← newInt (a.fdiv (2 ^ b.toNat)))
  | .bitAnd => return some (← newInt (commonBits a b))
  | .bitOr => return some (← newInt (eitherBits a b))
  | .bitXor => return some (← newInt (eitherBits a b - commonBits a b))
  | .matMul => return none

/-- An operator on doubles. -/
def combineFloats (op : BinaryOp) (x y : Binary64) : Eval (Option Datum) := do
  match op with
  | .add => return some (← newFloat (x.add y))
  | .sub => return some (← newFloat (x.sub y))
  | .mul => return some (← newFloat (x.mul y))
  | .div =>
    if y.isZero then zeroDivision "float division by zero" else return some (← newFloat (x.div y))
  | .floorDiv =>
    if y.isZero then zeroDivision "float floor division by zero"
    else return some (← newFloat (x.floorDivMod y).1)
  | .mod =>
    if y.isZero then zeroDivision "float modulo" else return some (← newFloat (x.floorDivMod y).2)
  | .pow => return some (← floatPower x y)
  | _ => return none

/-- An operator on numbers, if it applies to them. -/
def combineAmounts (op : BinaryOp) (a b : Amount) : Eval (Option Datum) := do
  match a, b with
  | .int i, .int j => combineInts op i j
  | a, b =>
    match op with
    | .shiftLeft | .shiftRight | .bitAnd | .bitOr | .bitXor | .matMul => return none
    | op => combineFloats op (← a.toFloat) (← b.toFloat)

/-- An operator on truth values that gives one. -/
def combineBools? (op : BinaryOp) (a b : Datum) : Option Datum :=
  match op, a, b with
  | .bitAnd, .bool a, .bool b => some (.bool (a && b))
  | .bitOr, .bool a, .bool b => some (.bool (a || b))
  | .bitXor, .bool a, .bool b => some (.bool (a != b))
  | _, _, _ => none

/-! ## Rounding -/

/-- The integer that a rounding of a double gives; what is no finite number has none. -/
def roundedInteger (x : Binary64) (rounded : Option Int) : Eval Datum := do
  match rounded with
  | some i => newInt i
  | none =>
    if x.isNan then fault (.improper "cannot convert float NaN to integer".toList)
    else fault (.overflow "cannot convert float infinity to integer".toList)

/-- An integer rounded to so many decimal places, a half to the even neighbour. -/
def roundedInt (i places : Int) : Int :=
  if 0 ≤ places then i
  else
    let unit := 10 ^ (-places).toNat
    let size : Int := Binary64.roundHalfEven i.natAbs unit * unit
    if i < 0 then -size else size

/-- A double rounded to the nearest integer, a half to the even neighbour. -/
def roundedDouble? (x : Binary64) : Option Int :=
  match x.shape with
  | .finite negative m q =>
    let n : Int := Binary64.roundHalfEven (m * 2 ^ q.toNat) (2 ^ (-q).toNat)
    some (if negative then -n else n)
  | _ => none

/-- Beyond so many places before or after the point, all digits of a double are zeros. -/
def placesLimit : Int := 400

/-- A double rounded to so many decimal places, a half to the even neighbour. -/
def roundedPlaces (x : Binary64) (places : Int) : Binary64 :=
  match x.shape with
  | .finite negative m q =>
    if placesLimit < places then x
    else if places < -placesLimit then .zero negative
    else
    let num := m * 2 ^ q.toNat * 10 ^ places.toNat
    let den := 2 ^ (-q).toNat * 10 ^ (-places).toNat
    Binary64.ofDecimal negative (Binary64.roundHalfEven num den) (-places)
  | _ => x

end FormulaCube.Run
