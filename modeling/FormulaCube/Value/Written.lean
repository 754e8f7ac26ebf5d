import FormulaCube.Text.Digit
import FormulaCube.Value.Basic

/-!
# Numbers that are written as texts

A text may stand for a number: with white space around it, a sign, digits of any script, and single
underscores between the digits.

* `writtenInteger` — an integer in a base up to thirty-six, or in the base that its beginning says.
* `writtenDouble` — a double.
-/

namespace FormulaCube

/-! ## Digits -/

/-- The value of a digit; letters go on after nine. -/
def digitValue? (c : Char) : Option Nat :=
  if '0' ≤ c && c ≤ '9' then some (c.toNat - '0'.toNat)
  else if 'a' ≤ c && c ≤ 'z' then some (c.toNat - 'a'.toNat + 10)
  else if 'A' ≤ c && c ≤ 'Z' then some (c.toNat - 'A'.toNat + 10)
  else none

/-- Whether a character is a digit in a base. -/
def isDigitIn (base : Nat) (c : Char) : Bool := (digitValue? c).any (· < base)

/-- The number that digits in a base stand for; other characters do not count. -/
def numberIn (base : Nat) (digits : Text) : Nat :=
  (digits.filterMap digitValue?).foldl (fun n d => n * base + d) 0

/-- White space within ASCII. -/
def isPlainSpace (c : Char) : Bool := c = ' ' || ('\t' ≤ c && c ≤ '\r')

/-- A text in which all digits and spaces beyond ASCII are those of ASCII. -/
def plainNumeral (t : Text) : Text :=
  Text.plainDigits (t.map fun c => if 127 ≤ c.toNat && Text.isBlank c then ' ' else c)

/-- Whether two underscores stand next to each other. -/
def hasDoubleMark : Text → Bool
  | '_' :: '_' :: _ => true
  | _ :: t => hasDoubleMark t
  | [] => false

/-- The sign of a number and what follows it. -/
def signAndRest : Text → Bool × Text
  | '-' :: t => (true, t)
  | '+' :: t => (false, t)
  | t => (false, t)

/-! ## Integers -/

/-- The base that a letter after a zero stands for. -/
def baseOfMark? (c : Char) : Option Nat :=
  if c = 'x' || c = 'X' then some 16
  else if c = 'o' || c = 'O' then some 8
  else if c = 'b' || c = 'B' then some 2
  else none

/-- The base of a number and what follows the mark of that base. Where no base is given, the mark says
it. -/
def baseAndRest (base : Nat) (t : Text) : Nat × Text :=
  match t with
  | '0' :: mark :: rest =>
    match baseOfMark? mark with
    | some marked =>
      if base = 0 || base = marked then
        (marked, if rest.head? = some '_' then rest.drop 1 else rest)
      else (base, t)
    | none => (if base = 0 then 10 else base, t)
  | _ => (if base = 0 then 10 else base, t)

/-- The words for an integer with more digits than are read. -/
def tooManyDigits (count : Nat) : Fault :=
  .improper ("Exceeds the limit (".toList ++ Text.ofNat decimalLimit ++
    " digits) for integer string conversion: value has ".toList ++ Text.ofNat count ++
    " digits; use sys.set_int_max_str_digits() to increase the limit".toList)

/-- The integer that a text is written as. Where no base is given, by zero, only zero may begin with
zeros. -/
def writtenInteger (base : Nat) (t : Text) : Except Fault Int :=
  let wrong := Fault.integerText base t
  let (negative, s) := signAndRest ((plainNumeral t).dropWhile isPlainSpace)
  let (radix, body) := baseAndRest base s
  let run := body.takeWhile fun c => isDigitIn radix c || c = '_'
  let rest := body.drop run.length
  let digits := run.filter (· != '_')
  if run.head? = some '_' || hasDoubleMark run || run.getLast? = some '_' then .error wrong
  else if ! [2, 4, 8, 16, 32].contains radix && decimalLimit < digits.length then
    .error (tooManyDigits digits.length)
  else
    let n := numberIn radix digits
    if digits.isEmpty || !rest.all isPlainSpace then .error wrong
    else if base = 0 && body.length = s.length && s.head? = some '0' && n != 0 then .error wrong
    else .ok (if negative then -(n : Int) else n)

/-! ## Doubles -/

/-- Whether every underscore stands between two digits. -/
def marksStandBetweenDigits : (before : Option Char) → Text → Bool
  | _, [] => true
  | before, c :: t =>
    (c != '_' ||
      (before.any Text.isAsciiDigit && t.head?.any Text.isAsciiDigit)) &&
      marksStandBetweenDigits (some c) t

/-- The double that a text is written as. -/
def writtenDouble (t : Text) : Except Fault Binary64 :=
  let s := (plainNumeral t).dropWhile isPlainSpace
  let s := Text.dropTailWhile isPlainSpace s
  let read := if marksStandBetweenDigits none s then Binary64.ofText? (s.filter (· != '_')) else none
  match read with
  | some x => .ok x
  | none => .error (.improper ("could not convert string to float: ".toList ++ Text.quoted t))

end FormulaCube
