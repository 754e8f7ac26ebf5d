import FormulaCube.Text.Ranges

/-!
# Texts

A text is a list of characters; offsets count characters.

* `Text.trim` and its halves remove white space at the ends.
* `Text.splitOn`, `Text.join` — cutting at one character and putting together again.
* `Text.brokenLines` — lines at every line boundary of Unicode, each with its ending.
* `Text.unifyNewlines` — the three line ends of files written as one.
* `Text.ofNat`, `Text.ofInt` — numbers in decimal.
-/

namespace FormulaCube

-- Powers are those of the numbers themselves, also where a theory has powers in other structures.
attribute [instance (20000), default_instance 20000] instPowNat

/-- A text is the list of its characters. -/
abbrev Text := List Char

namespace Text

/-! ## White space at the ends -/

/-- The text without the longest tail whose characters all satisfy `p`. -/
def dropTailWhile (p : Char → Bool) : Text → Text
  | [] => []
  | c :: rest =>
    match dropTailWhile p rest with
    | [] => if p c then [] else [c]
    | d :: kept => c :: d :: kept

/-- The text without leading white space. -/
def trimLeft (t : Text) : Text := t.dropWhile isBlank

/-- The text without trailing white space. -/
def trimRight (t : Text) : Text := dropTailWhile isBlank t

/-- The text without white space at either end. -/
def trim (t : Text) : Text := trimRight (trimLeft t)

/-- Nothing but white space, or nothing at all. -/
def isBlankText (t : Text) : Bool := t.all isBlank

/-- The text without newlines at either end. -/
def trimNewlines (t : Text) : Text :=
  dropTailWhile (· == '\n') (t.dropWhile (· == '\n'))

/-! ## Cutting and joining -/

/-- The parts between the occurrences of `sep`: always one more than there are occurrences. -/
def splitOn (sep : Char) : Text → List Text
  | [] => [[]]
  | c :: rest =>
    if c = sep then [] :: splitOn sep rest
    else
      match splitOn sep rest with
      | [] => [[c]]
      | part :: parts => (c :: part) :: parts

/-- The parts with `sep` between neighbours. -/
def join (sep : Text) : List Text → Text
  | [] => []
  | [part] => part
  | part :: parts => part ++ sep ++ join sep parts

/-- Whether `needle` occurs in the text as consecutive characters. -/
def occursIn (needle : Text) : Text → Bool
  | [] => needle.isEmpty
  | c :: rest => needle.isPrefixOf (c :: rest) || occursIn needle rest

/-- The text after `lead`, if it starts with it. -/
def after? : (lead t : Text) → Option Text
  | [], t => some t
  | _ :: _, [] => none
  | a :: lead, b :: t => if a = b then after? lead t else none

/-! ## Lines -/

/-- A character that ends a line in some convention of Unicode. -/
def isLineBreak (c : Char) : Bool :=
  let n := c.toNat
  (10 ≤ n && n ≤ 13) || (28 ≤ n && n ≤ 30) || n = 0x85 || n = 0x2028 || n = 0x2029

/-- The lines of a text with their endings. A carriage return with a newline is one ending; the
last line has an empty ending, and there is no line after a final ending. -/
def brokenLines : Text → List (Text × Text)
  | [] => []
  | '\r' :: '\n' :: rest => ([], ['\r', '\n']) :: brokenLines rest
  | c :: rest =>
    if isLineBreak c then ([], [c]) :: brokenLines rest
    else
      match brokenLines rest with
      | [] => [([c], [])]
      | (line, ending) :: lines => (c :: line, ending) :: lines

/-- The lines of a text at the line boundaries of Unicode, without their endings. -/
def lines (t : Text) : List Text := (brokenLines t).map (·.1)

/-- The lines of a text at the line boundaries of Unicode, with their endings. -/
def linesWithEndings (t : Text) : List Text := (brokenLines t).map fun l => l.1 ++ l.2

/-- A carriage return, alone or before a newline, becomes one newline. -/
def unifyNewlines : Text → Text
  | [] => []
  | '\r' :: '\n' :: rest => '\n' :: unifyNewlines rest
  | c :: rest => (if c = '\r' then '\n' else c) :: unifyNewlines rest

/-! ## Numbers and bytes -/

/-- A natural number in decimal. -/
def ofNat (n : Nat) : Text := Nat.toDigits 10 n

/-- An integer in decimal, with a minus sign where it is negative. -/
def ofInt : Int → Text
  | .ofNat n => ofNat n
  | .negSucc n => '-' :: ofNat (n + 1)

/-- A number in lower-case hexadecimal with at least `width` digits. -/
def hex (width n : Nat) : Text :=
  let digits := Nat.toDigits 16 n
  List.replicate (width - digits.length) '0' ++ digits

/-- The value of a run of decimal digits. -/
def digitsValue (digits : Text) : Nat :=
  digits.foldl (fun n c => n * 10 + (c.toNat - '0'.toNat)) 0

/-- Digits, in groups with single underscores between them. -/
def groupedDigits? : (afterDigit : Bool) → Text → Option Text
  | afterDigit, [] => if afterDigit then some [] else none
  | afterDigit, c :: rest =>
    if isAsciiDigit c then (groupedDigits? true rest).map (c :: ·)
    else if c = '_' && afterDigit then groupedDigits? false rest
    else none

/-- The number of characters that lie wholly within the first `bytes` bytes of the UTF-8 form. -/
def charsWithin : (bytes : Nat) → Text → Nat
  | _, [] => 0
  | bytes, c :: rest => if c.utf8Size ≤ bytes then charsWithin (bytes - c.utf8Size) rest + 1 else 0

/-- A letter of either case in upper case, as far as the result is an ASCII letter: the dotless
`ı` and the long `ſ` are the only single letters beyond ASCII with that property. -/
def upperChar (c : Char) : Char :=
  if c = 'ı' then 'I' else if c = 'ſ' then 'S' else c.toUpper

/-- Every letter in upper case, in the sense of `upperChar`. -/
def upper (t : Text) : Text := t.map upperChar

/-- Order by code point. -/
def less : Text → Text → Bool
  | [], [] => false
  | [], _ :: _ => true
  | _ :: _, [] => false
  | a :: s, b :: t => if a = b then less s t else a.toNat < b.toNat

/-- The texts in order of code points. -/
def sorted (texts : List Text) : List Text := texts.mergeSort fun a b => !less b a

end Text

end FormulaCube
