import FormulaCube.Number.Shortest

/-!
# Doubles with a number of digits

A double is written with as many digits as are asked for. The last one is rounded from the exact
value, a tie going to the even digit.

* `Style` — in which way the digits are counted.
* `fixedDigits`, `leadingDigits` — the digits after the point, and the digits from the first one on.
* `Binary64.textWith` — the text of a double in a style.
-/

namespace FormulaCube

/-- In which way the digits of a number are counted. -/
inductive Style where
  /-- Those after the point. -/
  | fixed
  /-- Those after the point, which stands after the first one; an exponent follows. -/
  | exponent
  /-- All of them; the point is written in place unless it lies too far away. -/
  | general
  deriving DecidableEq, Repr

namespace Binary64

/-- A positive number as the quotient of two natural numbers. -/
def quotientOf (m : Nat) (q : Int) : Nat × Nat := (m * 2 ^ q.toNat, 2 ^ (-q).toNat)

/-- A number with so many digits after the point, before and after it. -/
def fixedDigits (places num den : Nat) : Text × Text :=
  let digits := Text.ofNat (roundHalfEven (num * 10 ^ places) den)
  let digits := List.replicate (places + 1 - digits.length) '0' ++ digits
  digits.splitAt (digits.length - places)

/-- The first digits of a number, so many after the first one, and its exponent. -/
def leadingDigits (places num den : Nat) : Text × Int :=
  if num = 0 then (List.replicate (places + 1) '0', 0)
  else
    let exponent := decimalPlace num den - 1
    let shift := (places : Int) - exponent
    let n := roundHalfEven (num * 10 ^ shift.toNat) (den * 10 ^ (-shift).toNat)
    if n = 10 ^ (places + 1) then (Text.ofNat (n / 10), exponent + 1) else (Text.ofNat n, exponent)

/-- Digits before and after a point. The point is left out where nothing follows, unless it is to stay. -/
def pointed (keep : Bool) (whole fraction : Text) : Text :=
  if fraction.isEmpty && !keep then whole else whole ++ '.' :: fraction

/-- An exponent with a sign and at least two digits. -/
def exponentText (exponent : Int) : Text :=
  let digits := Text.ofNat exponent.natAbs
  'e' :: (if exponent < 0 then '-' else '+') :: (List.replicate (2 - digits.length) '0' ++ digits)

/-- A number in the general style with so many digits. Zeros at the end are left out unless they are to
stay. -/
def generalText (keep : Bool) (digits num den : Nat) : Text :=
  let places := digits - 1
  let (all, exponent) := leadingDigits places num den
  let shorten (t : Text) : Text := if keep then t else Text.dropTailWhile (· == '0') t
  if -4 ≤ exponent && exponent ≤ places then
    let (whole, fraction) := fixedDigits ((places : Int) - exponent).toNat num den
    pointed keep whole (shorten fraction)
  else pointed keep (all.take 1) (shorten (all.drop 1)) ++ exponentText exponent

/-- The text of a double in a style, with so many digits. A point at the end and zeros that add nothing
stay if they are to be kept. -/
def textWith (style : Style) (keep : Bool) (places : Nat) (x : Binary64) : Text :=
  match x.shape with
  | .nan => "nan".toList
  | .infinite negative => (if negative then "-inf" else "inf").toList
  | .finite negative m q =>
    let (num, den) := quotientOf m q
    let size :=
      match style with
      | .fixed =>
        let (whole, fraction) := fixedDigits places num den
        pointed keep whole fraction
      | .exponent =>
        let (digits, exponent) := leadingDigits places num den
        pointed keep (digits.take 1) (digits.drop 1) ++ exponentText exponent
      | .general => generalText keep (max places 1) num den
    if negative then '-' :: size else size

end Binary64

end FormulaCube
