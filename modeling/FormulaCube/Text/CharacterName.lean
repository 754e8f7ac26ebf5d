import FormulaCube.Text.Basic
import FormulaCube.Text.CharacterName.Ancient
import FormulaCube.Text.CharacterName.Asian
import FormulaCube.Text.CharacterName.European
import FormulaCube.Text.CharacterName.Ideographic
import FormulaCube.Text.CharacterName.Supplement
import FormulaCube.Text.CharacterName.Symbol

/-!
# Names of characters

String literals may give a character by its name. Most names are listed; those of ideographs, of
syllables of Hangul and of variation selectors follow rules.

* `Text.listedIn?` — a name looked up in a listing.
* `Text.syllable?`, `Text.ideograph?`, `Text.numbered?`, `Text.selector?` — the names that follow
  rules.
* `Text.named?` — the character of a name.
-/

namespace FormulaCube.Text

/-! ## Listed names

A listing gives the names of consecutive characters in lines, with semicolons between them. Before a
name stands a digit: with so many words of the name before it the name begins. -/

/-- The listings with their first code points. -/
def nameListings : List (Nat × List String) :=
  europeanNames ++ middleEasternNames ++ southAsianNames ++ eastAsianNames ++ phoneticNames ++
    signNames ++ ideographicNames ++ yiNames ++ supplementNames ++ ancientNames ++ brahmicNames ++
    cuneiformNames ++ hieroglyphNames ++ tangutNames ++ notationNames ++ gestureNames ++
    pictographNames

/-- How many words two names begin with in common. -/
def commonWords : List String → List String → Nat
  | a :: as, b :: bs => if a = b then commonWords as bs + 1 else 0
  | _, _ => 0

/-- The words of a text, between single blanks; an empty text has none. -/
def nameWords (t : List Char) : List String :=
  if t.isEmpty then [] else (t.splitOnP (· == ' ')).map String.ofList

/-- The place of a name among entries of a listing that begin at a place, where the name before them
begins with `shared` words of the looked-for name. An entry with more words of the name before it
cannot be the one. -/
def placeAmong (name : List String) : (shared place : Nat) → List String → Option Nat
  | _, _, [] => none
  | shared, place, entry :: entries =>
    match entry.toList with
    | [] => none
    | digit :: rest =>
      let kept := digit.toNat - '0'.toNat
      if shared < kept then placeAmong name shared (place + 1) entries
      else
        let more := nameWords rest
        let now := kept + commonWords (name.drop kept) more
        if now = name.length && now = kept + more.length then some place
        else placeAmong name now (place + 1) entries

/-- The code point of a name in one of the listings. -/
def listedIn? (name : List String) : List (Nat × List String) → Option Nat
  | [] => none
  | (first, lines) :: listings =>
    match placeAmong name 0 0 (lines.flatMap fun line => line.splitOn ";") with
    | some place => some (first + place)
    | none => listedIn? name listings

/-! ## Names that follow rules -/

/-- The value of a digit in hexadecimal, whose letters are capitals. -/
def capitalHexValue? (c : Char) : Option Nat :=
  if '0' ≤ c && c ≤ '9' then some (c.toNat - '0'.toNat)
  else if 'A' ≤ c && c ≤ 'F' then some (c.toNat - 'A'.toNat + 10)
  else none

/-- The value of digits in hexadecimal. -/
def capitalHex? (t : List Char) : Option Nat :=
  (t.mapM capitalHexValue?).map fun digits => digits.foldl (fun n d => n * 16 + d) 0

/-- Whether a number lies in one of the ranges. -/
def liesIn (n : Nat) (ranges : List (Nat × Nat)) : Bool :=
  ranges.any fun range => range.1 ≤ n && n ≤ range.2

/-- The ideographs. -/
def ideographRanges : List (Nat × Nat) :=
  [(0x3400, 0x4dbf), (0x4e00, 0x9fff), (0x20000, 0x2a6df), (0x2a700, 0x2b738), (0x2b740, 0x2b81d),
    (0x2b820, 0x2cea1), (0x2ceb0, 0x2ebe0), (0x30000, 0x3134a)]

/-- An ideograph by the four or five digits of its code point. -/
def ideograph? (name : List Char) : Option Nat := do
  let digits ← after? "CJK UNIFIED IDEOGRAPH-".toList name
  let n ← capitalHex? digits
  if (digits.length = 4 || digits.length = 5) && liesIn n ideographRanges then some n else none

/-- The names of characters that are numbered by their code points, with their ranges. -/
def numberedNames : List (String × List (Nat × Nat)) :=
  [("CJK COMPATIBILITY IDEOGRAPH-", [(0xf900, 0xfa6d), (0xfa70, 0xfad9), (0x2f800, 0x2fa1d)]),
    ("KHITAN SMALL SCRIPT CHARACTER-", [(0x18b00, 0x18cd5)]),
    ("NUSHU CHARACTER-", [(0x1b170, 0x1b2fb)])]

/-- A character that is numbered by its code point, without zeros in front. -/
def numbered? (name : List Char) : Option Nat :=
  numberedNames.findSome? fun entry => do
    let digits ← after? entry.1.toList name
    let n ← capitalHex? digits
    if digits.head? != some '0' && liesIn n entry.2 then some n else none

/-- The letters that begin a syllable of Hangul. -/
def leadingJamo : List String :=
  ["G", "GG", "N", "D", "DD", "R", "M", "B", "BB", "S", "SS", "", "J", "JJ", "C", "K", "T", "P", "H"]

/-- The vowels of syllables of Hangul. -/
def vowelJamo : List String :=
  ["A", "AE", "YA", "YAE", "EO", "E", "YEO", "YE", "O", "WA", "WAE", "OE", "YO", "U", "WEO", "WE",
    "WI", "YU", "EU", "YI", "I"]

/-- The letters that end a syllable of Hangul. -/
def trailingJamo : List String :=
  ["", "G", "GG", "GS", "N", "NJ", "NH", "D", "L", "LG", "LM", "LB", "LS", "LT", "LP", "LH", "M", "B",
    "BS", "S", "SS", "NG", "J", "C", "K", "T", "P", "H"]

/-- The number of the longest of the letters with which a text begins, and what follows it. -/
def longestOf (letters : List String) (t : List Char) : Option (Nat × List Char) :=
  (letters.zipIdx.filterMap fun (letter, i) =>
    (after? letter.toList t).map fun rest => (i, rest)).foldl (fun best found =>
      match best with
      | none => some found
      | some b => if found.2.length < b.2.length then some found else some b) none

/-- A syllable of Hangul by its letters. -/
def syllable? (name : List Char) : Option Nat := do
  let t ← after? "HANGUL SYLLABLE ".toList name
  let (l, t) ← longestOf leadingJamo t
  let (v, t) ← longestOf vowelJamo t
  let (e, t) ← longestOf trailingJamo t
  if t.isEmpty then some (0xac00 + (l * vowelJamo.length + v) * trailingJamo.length + e) else none

/-- A variation selector by its number. -/
def selector? (name : List Char) : Option Nat := do
  let digits ← after? "VS".toList name
  let n ← (String.ofList digits).toNat?
  if digits.head? = some '0' || digits.contains '_' then none
  else if 1 ≤ n && n ≤ 16 then some (0xfe00 + n - 1)
  else if 17 ≤ n && n ≤ 256 then some (0xe0100 + n - 17)
  else none

/-! ## All names -/

/-- The character of a name. Listed names may be in either case, and so may numbers and those of
variation selectors; syllables of Hangul and ideographs have capitals only. -/
def named? (name : List Char) : Option Char :=
  let capitals := name.map Char.toUpper
  let place :=
    (syllable? name).orElse fun _ => (ideograph? name).orElse fun _ =>
      (numbered? capitals).orElse fun _ => (selector? capitals).orElse fun _ =>
        (furtherNames.lookup (String.ofList capitals)).orElse fun _ =>
          listedIn? (nameWords capitals) nameListings
  place.map Char.ofNat

end FormulaCube.Text
