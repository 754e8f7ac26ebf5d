import FormulaCube.Text.Basic

/-!
# Double-precision numbers

A double is its 64 bits. Everything that must be exact (reading decimals, comparing with integers,
choosing digits) goes through its value `m · 2 ^ q` in natural numbers.

* `Binary64.shape` — what the bits stand for.
* `Binary64.ofRatio` — the double nearest to a fraction, ties to the even neighbour.
* `Binary64.toInt?` — the integer that a double equals.
* `Binary64.add` and its neighbours — the arithmetic of the processor.
-/

namespace FormulaCube

/-- A double-precision number, as its bits. -/
structure Binary64 where
  /-- Sign, eleven bits of exponent, 52 bits of fraction. -/
  bits : UInt64
  deriving DecidableEq, Repr, Inhabited

namespace Binary64

/-- What a double stands for. -/
inductive Shape where
  /-- Not a number. -/
  | nan
  /-- Beyond every finite number, below zero if `negative`. -/
  | infinite (negative : Bool)
  /-- The number `m · 2 ^ q`, negated if `negative`; zero has a sign too. -/
  | finite (negative : Bool) (m : Nat) (q : Int)
  deriving DecidableEq, Repr

/-- The meaning of the bits. -/
def shape (x : Binary64) : Shape :=
  let n := x.bits.toNat
  let negative := n / 2 ^ 63 = 1
  let exponent : Nat := n / 2 ^ 52 % 2048
  let fraction : Nat := n % 2 ^ 52
  if exponent = 2047 then
    if fraction = 0 then .infinite negative else .nan
  else if exponent = 0 then .finite negative fraction (-1074)
  else .finite negative (2 ^ 52 + fraction) ((exponent : Int) - 1075)

/-- The double with the given fields. -/
def ofFields (negative : Bool) (exponent fraction : Nat) : Binary64 :=
  ⟨UInt64.ofNat ((if negative then 2 ^ 63 else 0) + exponent * 2 ^ 52 + fraction)⟩

/-- The infinity of the given sign. -/
def infinity (negative : Bool) : Binary64 := ofFields negative 2047 0

/-- The double that is not a number. -/
def nan : Binary64 := ofFields false 2047 (2 ^ 51)

/-- Zero with the given sign. -/
def zero (negative : Bool) : Binary64 := ofFields negative 0 0

/-! ## Rounding -/

/-- The natural number nearest to `num / den`, a tie going to the even one. -/
def roundHalfEven (num den : Nat) : Nat :=
  let k := num / den
  let r := num % den
  if 2 * r < den then k else if den < 2 * r then k + 1 else if k % 2 = 0 then k else k + 1

/-- The largest `k` with `2 ^ k ≤ num / den`, for positive numbers. -/
def floorLog2 (num den : Nat) : Int :=
  let k : Int := (num.log2 : Int) - (den.log2 : Int)
  let reached : Bool := if 0 ≤ k then den * 2 ^ k.toNat ≤ num else den ≤ num * 2 ^ (-k).toNat
  if reached then k else k - 1

/-- The double nearest to `num / den`, a tie going to the even neighbour, and infinity beyond the
largest double. -/
def ofRatio (negative : Bool) (num den : Nat) : Binary64 :=
  if num = 0 then zero negative
  else
    let q := max (floorLog2 num den - 52) (-1074)
    let m := if 0 ≤ q then roundHalfEven num (den * 2 ^ q.toNat)
      else roundHalfEven (num * 2 ^ (-q).toNat) den
    if m < 2 ^ 52 then ofFields negative 0 m
    else
      let (m, q) := if m = 2 ^ 53 then (2 ^ 52, q + 1) else (m, q)
      let exponent := (q + 1075).toNat
      if 2047 ≤ exponent then infinity negative else ofFields negative exponent (m - 2 ^ 52)

/-- The double nearest to an integer. -/
def ofInt (i : Int) : Binary64 := ofRatio (i < 0) i.natAbs 1

/-- The double nearest to `digits · 10 ^ exponent`. Exponents far outside the range of doubles are
settled without computing the power. -/
def ofDecimal (negative : Bool) (digits : Nat) (exponent : Int) : Binary64 :=
  if digits = 0 then zero negative
  else if 400 < exponent then infinity negative
  else if exponent + (Nat.toDigits 10 digits).length < -400 then zero negative
  else if 0 ≤ exponent then ofRatio negative (digits * 10 ^ exponent.toNat) 1
  else ofRatio negative digits (10 ^ (-exponent).toNat)

/-! ## Looking at a double -/

/-- Whether the double is not a number. -/
def isNan (x : Binary64) : Bool := x.shape = .nan

/-- Whether the double is finite. -/
def isFinite (x : Binary64) : Bool :=
  match x.shape with
  | .finite .. => true
  | _ => false

/-- The integer part toward zero of a finite double. -/
def truncate? (x : Binary64) : Option Int :=
  match x.shape with
  | .finite negative m q =>
    let n : Nat := if 0 ≤ q then m * 2 ^ q.toNat else m / 2 ^ (-q).toNat
    some (if negative then -(n : Int) else n)
  | _ => none

/-- The integer that the double equals, if it equals one. -/
def toInt? (x : Binary64) : Option Int :=
  match x.shape with
  | .finite _ m q => if 0 ≤ q || m % 2 ^ (-q).toNat = 0 then x.truncate? else none
  | _ => none

/-- The largest integer not above a finite double. -/
def floor? (x : Binary64) : Option Int :=
  match x.shape with
  | .finite negative m q =>
    let num : Int := if negative then -(m : Int) else m
    some (if 0 ≤ q then num * 2 ^ q.toNat else num.fdiv (2 ^ (-q).toNat))
  | _ => none

/-- The smallest integer not below a finite double. -/
def ceil? (x : Binary64) : Option Int :=
  match x.shape with
  | .finite negative m q =>
    let num : Int := if negative then -(m : Int) else m
    some (if 0 ≤ q then num * 2 ^ q.toNat else -((-num).fdiv (2 ^ (-q).toNat)))
  | _ => none

/-- How a double compares with an integer; `none` where the double is not a number. -/
def compareInt? (x : Binary64) (i : Int) : Option Ordering :=
  match x.shape with
  | .nan => none
  | .infinite negative => some (if negative then .lt else .gt)
  | .finite negative m q =>
    let num : Int := if negative then -(m : Int) else m
    if 0 ≤ q then some (compare (num * 2 ^ q.toNat) i)
    else some (compare num (i * 2 ^ (-q).toNat))

/-- The number `m · 2 ^ q` as a multiple of the smallest positive double. -/
def units (negative : Bool) (m : Nat) (q : Int) : Int :=
  (if negative then -(m : Int) else m) * 2 ^ (q + 1074).toNat

/-- Order of numbers; what is not a number is neither above nor below anything. -/
def less (x y : Binary64) : Bool :=
  match x.shape, y.shape with
  | .nan, _ => false
  | _, .nan => false
  | .infinite negative, .infinite negative' => negative && !negative'
  | .infinite negative, .finite .. => negative
  | .finite .., .infinite negative => !negative
  | .finite negative m q, .finite negative' m' q' => units negative m q < units negative' m' q'

/-! ## Arithmetic of the processor -/

/-- The processor's number with these bits. -/
def toFloat (x : Binary64) : Float := Float.ofBits x.bits

/-- The bits of a processor's number. -/
def ofFloat (x : Float) : Binary64 := ⟨x.toBits⟩

/-- Sum. -/
def add (x y : Binary64) : Binary64 := ofFloat (x.toFloat + y.toFloat)

/-- Difference. -/
def sub (x y : Binary64) : Binary64 := ofFloat (x.toFloat - y.toFloat)

/-- Product. -/
def mul (x y : Binary64) : Binary64 := ofFloat (x.toFloat * y.toFloat)

/-- Quotient. -/
def div (x y : Binary64) : Binary64 := ofFloat (x.toFloat / y.toFloat)

/-- Power. -/
def pow (x y : Binary64) : Binary64 := ofFloat (Float.pow x.toFloat y.toFloat)

/-- The double with the other sign. -/
def neg (x : Binary64) : Binary64 := ofFloat (-x.toFloat)

/-- Whether the double is a zero of either sign. -/
def isZero (x : Binary64) : Bool :=
  match x.shape with
  | .finite _ m _ => m = 0
  | _ => false

/-- Whether the sign is the minus sign. -/
def isNegative (x : Binary64) : Bool := x.bits.toNat / 2 ^ 63 = 1

/-- The remainder of a division by a nonzero double that has the sign of the divisor, with the
quotient rounded to the floor. Both operands finite; the remainder toward zero is exact. -/
def floorDivMod (x y : Binary64) : Binary64 × Binary64 :=
  match x.shape, y.shape with
  | .finite nx mx qx, .finite ny my qy =>
    let q := min qx qy
    let a := mx * 2 ^ (qx - q).toNat
    let b := my * 2 ^ (qy - q).toNat
    let r := a % b
    let toRemainder := fun (negative : Bool) (r : Nat) =>
      if 0 ≤ q then ofRatio negative (r * 2 ^ q.toNat) 1 else ofRatio negative r (2 ^ (-q).toNat)
    let mod0 := toRemainder nx r
    let div0 := (x.sub mod0).div y
    let (md, dv) :=
      if r = 0 then (zero ny, div0)
      else if nx != ny then (mod0.add y, div0.sub (ofInt 1))
      else (mod0, div0)
    if dv.isZero then (zero (x.div y).isNegative, md)
    else
      let floored := ofFloat dv.toFloat.floor
      let floored :=
        if (dv.sub floored).toFloat > 0.5 then floored.add (ofInt 1) else floored
      (floored, md)
  | .finite nx mx _, .infinite ny =>
    if mx = 0 then (zero (nx != ny), zero ny)
    else if nx = ny then (zero false, x)
    else (ofInt (-1), y)
  | _, _ => (nan, nan)

end Binary64

end FormulaCube
