/-!
# Character classes as ranges

ASCII classes are given by comparison and classes beyond ASCII by tables of code point ranges.

* `isAsciiLetter`, `isAsciiDigit`, `isAsciiWord` — the ASCII classes that names are made of.
* `isBlank` — white space in any script.
* `inTable` — membership in a table of ranges.
-/

namespace FormulaCube.Text

/-- An ASCII letter of either case. -/
def isAsciiLetter (c : Char) : Bool :=
  ('a' ≤ c && c ≤ 'z') || ('A' ≤ c && c ≤ 'Z')

/-- An ASCII decimal digit. -/
def isAsciiDigit (c : Char) : Bool :=
  '0' ≤ c && c ≤ '9'

/-- An ASCII letter, digit or underscore: the characters of a simple name. -/
def isAsciiWord (c : Char) : Bool :=
  isAsciiLetter c || isAsciiDigit c || c = '_'

/-- An ASCII letter or underscore: what a simple name begins with. -/
def isAsciiNameStart (c : Char) : Bool :=
  isAsciiLetter c || c = '_'

/-- White space: the ASCII blanks and separators, and the space characters of Unicode. -/
def isBlank (c : Char) : Bool :=
  let n := c.toNat
  (9 ≤ n && n ≤ 13) || (28 ≤ n && n ≤ 32) || n = 0x85 || n = 0xa0 || n = 0x1680 ||
    (0x2000 ≤ n && n ≤ 0x200a) || n = 0x2028 || n = 0x2029 || n = 0x202f || n = 0x205f ||
    n = 0x3000

/-- Whether the code point lies in one of the ranges of the table, ends included. -/
def inTable (table : List (List (Nat × Nat))) (n : Nat) : Bool :=
  table.any fun part => part.any fun range => range.1 ≤ n && n ≤ range.2

end FormulaCube.Text
