import FormulaCube.Code.Token

/-!
# Reading numbers

* `numeral?` — the number at the beginning of a text. Digits may be grouped by single underscores;
  a number must not run into a word, unless the word is one that may follow a value.
-/

namespace FormulaCube.Code

/-- A character that a word may go on with; what lies beyond ASCII is judged with the whole word. -/
def isWordPart (c : Char) : Bool := Text.isAsciiWord c || 128 ≤ c.toNat

/-- A character that a word may begin with. -/
def isWordStart (c : Char) : Bool := Text.isAsciiNameStart c || 128 ≤ c.toNat

/-- A run of digits in groups, without the underscores between them, and what follows. A digit must
stand at the beginning unless one stands just before. -/
def digitRun (isDigit : Char → Bool) : (afterDigit : Bool) → Text → Option (Text × Text)
  | afterDigit, [] => if afterDigit then some ([], []) else none
  | afterDigit, c :: rest =>
    if isDigit c then (digitRun isDigit true rest).map fun (run, after) => (c :: run, after)
    else if !afterDigit then none
    else if c = '_' then digitRun isDigit false rest
    else some ([], c :: rest)

/-- The words that may follow a number without a blank. -/
def wordsAfterNumber : List Text :=
  ["and".toList, "else".toList, "for".toList, "or".toList, "not".toList]

/-- Whether the text goes on with one of the words that may follow a number. -/
def startsWithWordAfterNumber (t : Text) : Bool :=
  wordsAfterNumber.contains (t.takeWhile isWordPart) ||
    ["if".toList, "in".toList, "is".toList].any (·.isPrefixOf t)

/-- Whether a number may end before the text. -/
def endsNumber : Text → Bool
  | [] => true
  | c :: rest => !isWordPart c || startsWithWordAfterNumber (c :: rest)

/-- A digit in hexadecimal. -/
def isHexDigit (c : Char) : Bool :=
  Text.isAsciiDigit c || ('a' ≤ c && c ≤ 'f') || ('A' ≤ c && c ≤ 'F')

/-- The value of a digit in hexadecimal. -/
def hexDigitValue (c : Char) : Nat :=
  if Text.isAsciiDigit c then c.toNat - '0'.toNat
  else if 'a' ≤ c then c.toNat - 'a'.toNat + 10
  else c.toNat - 'A'.toNat + 10

/-- The value of a run of digits. -/
def radixValue (radix : Nat) (digits : Text) : Nat :=
  digits.foldl (fun n c => n * radix + hexDigitValue c) 0

/-- An integer in another radix, after its two letters of introduction. -/
def radixNumeral? (radix : Nat) (isDigit : Char → Bool) (t : Text) : Option (Numeral × Text) := do
  let t := match t with
    | '_' :: rest => rest
    | t => t
  let (digits, after) ← digitRun isDigit false t
  if endsNumber after then some (.int (radixValue radix digits), after) else none

/-- A number up to its exponent: the digits before and after its point. -/
structure Mantissa where
  /-- The digits before the point. -/
  whole : Text
  /-- The digits after the point. -/
  fraction : Text
  /-- A point is written. -/
  pointed : Bool

/-- The double with a mantissa and an exponent. -/
def Mantissa.toFloat (m : Mantissa) (exponent : Int) : Binary64 :=
  Binary64.ofDecimal false (Text.digitsValue (m.whole ++ m.fraction))
    (exponent - (m.fraction.length : Int))

/-- A number that ends here, unless it is imaginary. An integer with a leading zero must be zero. -/
def finishNumeral (m : Mantissa) (exponent : Option Int) (t : Text) : Option (Numeral × Text) :=
  let imaginary : Option Text :=
    match t with
    | 'j' :: rest => some rest
    | 'J' :: rest => some rest
    | _ => none
  match imaginary with
  | some rest =>
    if endsNumber rest then some (.imaginary (m.toFloat (exponent.getD 0)), rest) else none
  | none =>
    if !endsNumber t then none
    else if m.pointed || exponent.isSome then some (.float (m.toFloat (exponent.getD 0)), t)
    else if m.whole.head? = some '0' && m.whole.any (· != '0') then none
    else some (.int (Text.digitsValue m.whole), t)

/-- A number after its mantissa. -/
def exponentNumeral? (m : Mantissa) (t : Text) : Option (Numeral × Text) :=
  let read := fun (sign : Int) (digits : Text) => do
    let (run, after) ← digitRun Text.isAsciiDigit false digits
    finishNumeral m (some (sign * (Text.digitsValue run : Int))) after
  match t with
  | e :: rest =>
    if e = 'e' || e = 'E' then
      match rest with
      | '+' :: digits => read 1 digits
      | '-' :: digits => read (-1) digits
      | c :: _ => if Text.isAsciiDigit c then read 1 rest else finishNumeral m none t
      | [] => none
    else finishNumeral m none t
  | [] => finishNumeral m none t

/-- A number after its point. -/
def fractionNumeral? (whole t : Text) : Option (Numeral × Text) :=
  match t with
  | c :: _ =>
    if Text.isAsciiDigit c then do
      let (fraction, after) ← digitRun Text.isAsciiDigit false t
      exponentNumeral? ⟨whole, fraction, true⟩ after
    else exponentNumeral? ⟨whole, [], true⟩ t
  | [] => exponentNumeral? ⟨whole, [], true⟩ t

/-- A decimal number. -/
def decimalNumeral? (t : Text) : Option (Numeral × Text) := do
  let (whole, after) ← digitRun Text.isAsciiDigit false t
  match after with
  | '.' :: rest => fractionNumeral? whole rest
  | after => exponentNumeral? ⟨whole, [], false⟩ after

/-- The number at the beginning of a text, which is a digit or a point before a digit. -/
def numeral? (t : Text) : Option (Numeral × Text) :=
  match t with
  | '0' :: c :: rest =>
    if c = 'x' || c = 'X' then radixNumeral? 16 isHexDigit rest
    else if c = 'o' || c = 'O' then radixNumeral? 8 (fun d => '0' ≤ d && d ≤ '7') rest
    else if c = 'b' || c = 'B' then radixNumeral? 2 (fun d => d = '0' || d = '1') rest
    else decimalNumeral? t
  | '.' :: rest => fractionNumeral? [] rest
  | t => decimalNumeral? t

end FormulaCube.Code
