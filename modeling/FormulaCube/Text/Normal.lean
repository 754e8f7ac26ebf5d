import FormulaCube.Text.Basic
import FormulaCube.Text.Normal.Mark
import FormulaCube.Text.Normal.Part

/-!
# One spelling of each name

The same name may be written in several ways: with characters that differ only in how they look, and
with letters that have their marks on them or after them. All of them count as one name, in which
variants are replaced by what they stand for and letters have their marks on them.

* `Text.takenApart` — a character as the letters and marks that it is made of.
* `Text.inOrder` — the marks after each letter, in the order of their classes.
* `Text.putTogether` — letters with the marks after them in one.
* `Text.normal` — the one spelling.
-/

namespace FormulaCube.Text

/-! ## Taking apart -/

/-- The number that digits in hexadecimal stand for. -/
def hexNumber (digits : List Char) : Nat :=
  digits.foldl (fun n c =>
    n * 16 + (if c.isDigit then c.toNat - '0'.toNat else c.toNat - 'a'.toNat + 10)) 0

/-- The entries of a listing, each as the code points it gives. -/
def listedParts (lines : List String) : List (List Nat) :=
  lines.flatMap fun line => (line.toList.splitOnP (· == ';')).map fun entry =>
    (entry.splitOnP (· == ' ')).map hexNumber

/-- What a code point is made of, by listings. -/
def partsIn? (n : Nat) (listings : List (Nat × List String)) : Option (List Nat) :=
  match (listings.takeWhile fun listing => listing.1 ≤ n).getLast? with
  | some (first, lines) => (listedParts lines)[n - first]?
  | none => none

/-- The first syllable of Hangul, and how many there are. -/
def syllables : Nat × Nat := (0xac00, 11172)

/-- The numbers of vowels and of endings of syllables, of which one is no ending. -/
def vowelCount : Nat := 21

/-- The number of endings of syllables, of which one is no ending. -/
def endingCount : Nat := 28

/-- The first letters of the three kinds that syllables are made of; the ending before the first one is
none. -/
def leadingLetter : Nat := 0x1100

/-- The first vowel. -/
def vowelLetter : Nat := 0x1161

/-- The place before the first ending. -/
def endingLetter : Nat := 0x11a7

/-- The letters of a syllable of Hangul. -/
def syllableParts? (n : Nat) : Option (List Nat) :=
  if syllables.1 ≤ n && n < syllables.1 + syllables.2 then
    let s := n - syllables.1
    let ending := s % endingCount
    some ([leadingLetter + s / (vowelCount * endingCount),
      vowelLetter + s % (vowelCount * endingCount) / endingCount] ++
      (if ending = 0 then [] else [endingLetter + ending]))
  else none

/-- What a code point is made of, if it is made of others or stands for them. -/
def parts? (n : Nat) : Option (List Nat) :=
  (syllableParts? n).orElse fun _ =>
    (partsIn? n canonicalParts).orElse fun _ => partsIn? n compatibleParts

/-- How often parts are taken apart again. -/
def partDepth : Nat := 8

/-- The letters and marks that a code point is made of, taken apart at most so often. -/
def takenApart : (depth : Nat) → Nat → List Nat
  | 0, n => [n]
  | depth + 1, n =>
    match parts? n with
    | none => [n]
    | some ps => ps.flatMap (takenApart depth)

/-! ## Order -/

/-- The class of the character at a code point. -/
def classAt (n : Nat) : Nat := markClass (Char.ofNat n)

/-- Puts a character behind others, of which the last comes first: a mark goes before marks of higher
classes. -/
def settle (n : Nat) : List Nat → List Nat
  | [] => [n]
  | m :: ms => if classAt n != 0 && classAt n < classAt m then m :: settle n ms else n :: m :: ms

/-- The marks after each letter in the order of their classes. -/
def inOrder (ns : List Nat) : List Nat := (ns.foldl (fun done n => settle n done) []).reverse

/-! ## Putting together -/

/-- Letters that are made of others but are never put together from them. -/
def neverTogether : List (Nat × Nat) :=
  [(0x344, 0x344), (0x958, 0x95f), (0x9dc, 0x9dd), (0x9df, 0x9df), (0xa33, 0xa33), (0xa36, 0xa36),
    (0xa59, 0xa5b), (0xa5e, 0xa5e), (0xb5c, 0xb5d), (0xf43, 0xf43), (0xf4d, 0xf4d), (0xf52, 0xf52),
    (0xf57, 0xf57), (0xf5c, 0xf5c), (0xf69, 0xf69), (0xf73, 0xf73), (0xf75, 0xf76), (0xf78, 0xf78),
    (0xf81, 0xf81), (0xf93, 0xf93), (0xf9d, 0xf9d), (0xfa2, 0xfa2), (0xfa7, 0xfa7), (0xfac, 0xfac),
    (0xfb9, 0xfb9), (0xfb1d, 0xfb1d), (0xfb1f, 0xfb1f), (0xfb2a, 0xfb36), (0xfb38, 0xfb3c),
    (0xfb3e, 0xfb3e), (0xfb40, 0xfb41), (0xfb43, 0xfb44), (0xfb46, 0xfb4e)]

/-- The listed letter that is made of two others. -/
def listedPair? (a b : Nat) : Option Nat :=
  canonicalParts.findSome? fun (first, lines) =>
    ((listedParts lines).zipIdx.find? fun (ps, i) =>
      ps == [a, b] &&
        !(neverTogether.any fun range => range.1 ≤ first + i && first + i ≤ range.2)).map fun found =>
      first + found.2

/-- The letter that is made of two others. -/
def pair? (a b : Nat) : Option Nat :=
  let leading := syllables.2 / (vowelCount * endingCount)
  if leadingLetter ≤ a && a < leadingLetter + leading && vowelLetter ≤ b &&
      b < vowelLetter + vowelCount then
    some (syllables.1 + ((a - leadingLetter) * vowelCount + (b - vowelLetter)) * endingCount)
  else if syllables.1 ≤ a && a < syllables.1 + syllables.2 && (a - syllables.1) % endingCount = 0 &&
      endingLetter < b && b < endingLetter + endingCount then
    some (a + (b - endingLetter))
  else listedPair? a b

/-- Letters with the marks after them in one. `letter` is the last letter and `marks` are those after it
that stay by themselves, the last of them first. A mark reaches its letter unless one of no lower class
stands between them. -/
def putTogether : (letter : Nat) → (marks : List Nat) → List Nat → List Nat
  | letter, marks, [] => letter :: marks.reverse
  | letter, marks, n :: ns =>
    let free := match marks with
      | [] => true
      | m :: _ => classAt m < classAt n
    match if free then pair? letter n else none with
    | some together => putTogether together marks ns
    | none =>
      if classAt n = 0 then letter :: marks.reverse ++ putTogether n [] ns
      else putTogether letter (n :: marks) ns

/-- The one spelling of a name. -/
def normal (t : Text) : Text :=
  if t.all fun c => c.toNat < 128 then t
  else
    match inOrder (t.flatMap fun c => takenApart partDepth c.toNat) with
    | [] => []
    | n :: ns => (putTogether n [] ns).map Char.ofNat

end FormulaCube.Text
