import FormulaCube.Number.Binary64

/-!
# The shortest decimal of a double

The fewest decimal digits that read back as the double, and of those the nearest to it.

* `Binary64.shortest` — digits and the place of the decimal point.
* `Layout`, `Layout.render` — how digits become text: which magnitudes are written positionally
  and how an exponent looks.
* `Binary64.text` — the text of a double in values and messages.
* `Binary64.ofText?` — reads a decimal, an infinity or a not-a-number.
-/

namespace FormulaCube

namespace Binary64

/-- The `k` with `10 ^ (k - 1) ≤ num / den < 10 ^ k`, for positive numbers. -/
def decimalPlace (num den : Nat) : Int :=
  if den ≤ num then (Nat.toDigits 10 (num / den)).length
  else
    let d := (Nat.toDigits 10 (den / num)).length
    if den ≤ num * 10 ^ (d - 1) then 2 - (d : Int) else 1 - (d : Int)

/-- Whether `candidate · 10 ^ place` reads back as the double with the interval from `lo / den` to
`hi / den`, whose ends count if `closed`. -/
def withinInterval (lo hi den : Nat) (closed : Bool) (candidate : Nat) (place : Int) : Bool :=
  let a := if 0 ≤ place then candidate * 10 ^ place.toNat * den else candidate * den
  let scale := if 0 ≤ place then 1 else 10 ^ (-place).toNat
  if closed then lo * scale ≤ a && a ≤ hi * scale else lo * scale < a && a < hi * scale

/-- The best decimal with `n` digits that reads back, if there is one: the nearer of the two
neighbours of the value on the grid, the even one at a tie. -/
def onGrid (lo val hi den : Nat) (closed : Bool) (k : Int) (n : Nat) : Option (Nat × Int) :=
  let place := k - (n : Int)
  let num := if 0 ≤ place then val else val * 10 ^ (-place).toNat
  let unit := if 0 ≤ place then den * 10 ^ place.toNat else den
  let below := num / unit
  let fits := withinInterval lo hi den closed
  let nearer := roundHalfEven num unit
  let other := if nearer = below then below + 1 else below
  if fits nearer place then some (nearer, place)
  else if fits other place then some (other, place)
  else none

/-- The first hit among the grids with `n`, `n + 1`, … digits, for at most `more` further grids. -/
def firstGrid (lo val hi den : Nat) (closed : Bool) (k : Int) : (more n : Nat) → Nat × Int
  | 0, n => (onGrid lo val hi den closed k n).getD (val, 0)
  | more + 1, n =>
    match onGrid lo val hi den closed k n with
    | some hit => hit
    | none => firstGrid lo val hi den closed k more (n + 1)

/-- The digits of the shortest decimal of `m · 2 ^ q`, and the place of the decimal point relative
to their beginning. Seventeen digits always suffice. -/
def shortest (m : Nat) (q : Int) : Text × Int :=
  let lowGap := if m = 2 ^ 52 && q != -1074 then 1 else 2
  let scale := if 2 ≤ q then 2 ^ (q - 2).toNat else 1
  let den := if 2 ≤ q then 1 else 2 ^ (2 - q).toNat
  let val := 4 * m * scale
  let (digits, place) := firstGrid ((4 * m - lowGap) * scale) val ((4 * m + 2) * scale) den
    (m % 2 = 0) (decimalPlace val den) 16 1
  let ds := Text.ofNat digits
  (Text.dropTailWhile (· == '0') ds, place + ds.length)

end Binary64

/-- How the digits of a number become text. -/
structure Layout where
  /-- The point is written in place if it lies after at least this many digits, counted from the
  first digit; negative where zeros come before it. -/
  positionalFrom : Int
  /-- The point is written in place if it lies after at most this many digits. -/
  positionalTo : Int
  /-- The least number of digits of an exponent. -/
  exponentDigits : Nat

namespace Layout

/-- The text of the number `0.digits · 10 ^ point`. -/
def render (layout : Layout) (digits : Text) (point : Int) : Text :=
  if layout.positionalFrom ≤ point && point ≤ layout.positionalTo then
    if point ≤ 0 then '0' :: '.' :: (List.replicate (-point).toNat '0' ++ digits)
    else
      let whole := digits.take point.toNat
      let fraction := digits.drop point.toNat
      whole ++ List.replicate (point.toNat - digits.length) '0' ++
        ('.' :: if fraction.isEmpty then ['0'] else fraction)
  else
    let exponent := point - 1
    let exponentText := Text.ofNat exponent.natAbs
    digits.take 1 ++ (if digits.length ≤ 1 then [] else '.' :: digits.drop 1) ++
      ('e' :: (if exponent < 0 then '-' else '+') ::
        (List.replicate (layout.exponentDigits - exponentText.length) '0' ++ exponentText))

end Layout

namespace Binary64

/-- Numbers from a ten-thousandth up to sixteen digits are written positionally, with a zero after
a point that would otherwise end the text; an exponent has two digits or more. -/
def layout : Layout := ⟨-3, 16, 2⟩

/-- The text of a double: the shortest decimal that reads back. -/
def text (x : Binary64) : Text :=
  match x.shape with
  | .nan => "nan".toList
  | .infinite negative => (if negative then "-inf" else "inf").toList
  | .finite negative m q =>
    let body :=
      if m = 0 then "0.0".toList
      else
        let (digits, point) := shortest m q
        layout.render digits point
    if negative then '-' :: body else body

/-- Reads an unsigned decimal with optional fraction and exponent. -/
def ofUnsigned? (negative : Bool) (t : Text) : Option Binary64 :=
  let whole := t.takeWhile Text.isAsciiDigit
  let rest := t.dropWhile Text.isAsciiDigit
  let (fraction, rest) : Text × Text :=
    match rest with
    | '.' :: r => (r.takeWhile Text.isAsciiDigit, r.dropWhile Text.isAsciiDigit)
    | r => ([], r)
  let digits := whole ++ fraction
  let number := fun (e : Int) =>
    ofDecimal negative (Text.digitsValue digits) (e - (fraction.length : Int))
  let readExponent := fun (r : Text) (sign : Int) =>
    if r.isEmpty || !r.all Text.isAsciiDigit then none
    else some (number (sign * (Text.digitsValue r : Int)))
  if digits.isEmpty then none
  else
    match rest with
    | [] => some (number 0)
    | e :: r =>
      if e = 'e' || e = 'E' then
        match r with
        | '-' :: r => readExponent r (-1)
        | '+' :: r => readExponent r 1
        | r => readExponent r 1
      else none

/-- Reads a decimal, an infinity or a not-a-number, with an optional sign. -/
def ofText? (t : Text) : Option Binary64 :=
  let (negative, t) : Bool × Text :=
    match t with
    | '-' :: r => (true, r)
    | '+' :: r => (false, r)
    | r => (false, r)
  let lower := t.map Char.toLower
  if lower = "inf".toList || lower = "infinity".toList then some (infinity negative)
  else if lower = "nan".toList then some nan
  else ofUnsigned? negative t

end Binary64

end FormulaCube
