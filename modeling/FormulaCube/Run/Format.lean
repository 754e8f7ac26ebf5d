import FormulaCube.Number.Places
import FormulaCube.Run.Conversion
import FormulaCube.Run.Entry

/-!
# Texts with places to be filled

A text may have places that are filled with values: a percent sign, perhaps the key of the value, then
how wide the place is and how many digits it gets, and a letter for the kind of value.

* `Frame` — how a place is laid out.
* `Supply` — the values that are left.
* `fillPlaces` — a text with its places filled.
-/

namespace FormulaCube.Run

open Eval

/-- How a place is laid out. -/
structure Frame where
  /-- What is too short is filled up at its end. -/
  left : Bool
  /-- Numbers that are not negative get a plus sign. -/
  plus : Bool
  /-- Numbers that are not negative get a space. -/
  blank : Bool
  /-- Numbers keep what tells their base, and points keep standing at the end. -/
  alternate : Bool
  /-- Numbers are filled up with zeros. -/
  zeros : Bool
  /-- How wide the place is at least. -/
  width : Nat
  /-- How many digits, or at most how many characters, there are. -/
  places : Option Nat

/-- A place without anything special. -/
def Frame.plain : Frame := ⟨false, false, false, false, false, 0, none⟩

/-- The values that are left for places. -/
structure Supply where
  /-- Those that are taken one after the other. -/
  rest : List Datum
  /-- The one that is asked for keys. -/
  keyed : Option Datum

/-- The next value for a place. -/
def Supply.next (s : Supply) : Eval (Datum × Supply) := do
  match s.rest with
  | d :: rest => return (d, { s with rest := rest })
  | [] => fault (.typeMisuse "not enough arguments for format string".toList)

/-! ## Reading a place -/

/-- The fault of a place that does not end. -/
def endless {α : Type} : Eval α := fault (.improper "incomplete format".toList)

/-- A frame with one more mark, if the character is one. -/
def Frame.marked? (f : Frame) (c : Char) : Option Frame :=
  if c = '-' then some { f with left := true }
  else if c = '+' then some { f with plus := true }
  else if c = ' ' then some { f with blank := true }
  else if c = '#' then some { f with alternate := true }
  else if c = '0' then some { f with zeros := true }
  else none

/-- The marks at the beginning of a place, and what follows them. -/
def readMarks (f : Frame) : Text → Frame × Text
  | [] => (f, [])
  | c :: t =>
    match f.marked? c with
    | some f => readMarks f t
    | none => (f, c :: t)

/-- A key between parentheses, which may stand in it in pairs, and what follows it. -/
def readKey : (depth : Nat) → (key : Text) → Text → Option (Text × Text)
  | _, _, [] => none
  | depth, key, c :: t =>
    if c = ')' then
      match depth with
      | 0 => some (key.reverse, t)
      | depth + 1 => readKey depth (c :: key) t
    else readKey (if c = '(' then depth + 1 else depth) (c :: key) t

/-- The value under the key of a place, if the place has one, and what follows it. -/
def takeKeyed (call : Caller) (s : Supply) (t : Text) : Eval (Supply × Text) := do
  match t with
  | '(' :: t =>
    match s.keyed, readKey 0 [] t with
    | none, _ => fault (.typeMisuse "format requires a mapping".toList)
    | some _, none => fault (.improper "incomplete format key".toList)
    | some mapping, some (key, t) =>
      let d ← entryAt call mapping (← newText key)
      return (⟨[d], s.keyed⟩, t)
  | t => return (s, t)

/-- A number of characters that is a value itself. -/
def takeMeasure (s : Supply) : Eval (Int × Supply) := do
  let (d, s) ← s.next
  match indexOf? (← coreOf d) with
  | some i =>
    if fitsWord i then return (i, s)
    else fault (.overflow "Python int too large to convert to C ssize_t".toList)
  | none => fault (.typeMisuse "* wants int".toList)

/-- The most characters that a place may be asked to have. -/
def widthLimit : Nat := 2 ^ 32

/-- A number of characters that is written in the text. -/
def readMeasure (words : String) (t : Text) : Eval (Nat × Text) := do
  let digits := t.takeWhile Text.isAsciiDigit
  let n := Text.digitsValue digits
  if !fitsWord n then fault (.improper words.toList) else return (n, t.drop digits.length)

/-- How wide a place is, and what follows. -/
def takeWidth (f : Frame) (s : Supply) (t : Text) : Eval (Frame × Supply × Text) := do
  match t with
  | '*' :: t =>
    let (i, s) ← takeMeasure s
    return ({ f with width := i.natAbs, left := f.left || i < 0 }, s, t)
  | t =>
    let (n, t) ← readMeasure "width too big" t
    return ({ f with width := n }, s, t)

/-- How many digits a place has, and what follows. -/
def takePlaces (f : Frame) (s : Supply) (t : Text) : Eval (Frame × Supply × Text) := do
  match t with
  | '.' :: '*' :: t =>
    let (i, s) ← takeMeasure s
    return ({ f with places := some i.toNat }, s, t)
  | '.' :: t =>
    let (n, t) ← readMeasure "precision too big" t
    return ({ f with places := some n }, s, t)
  | t => return (f, s, t)

/-- What follows a letter for the size of a number, which means nothing. -/
def withoutSize : Text → Text
  | c :: t => if c = 'h' || c = 'l' || c = 'L' then t else c :: t
  | [] => []

/-! ## Filling a place -/

/-- Characters that fill up a text to a width. -/
def filling (c : Char) (width length : Nat) : Text := List.replicate (width - length) c

/-- Something that is no number, in its place. -/
def placeText (f : Frame) (t : Text) : Text :=
  let fill := filling ' ' f.width t.length
  if f.left then t ++ fill else fill ++ t

/-- A number in its place: its sign, what tells its base, and its digits. -/
def placeNumber (f : Frame) (negative : Bool) (lead digits : Text) : Text :=
  let sign :=
    if negative then ['-'] else if f.plus then ['+'] else if f.blank then [' '] else []
  let length := sign.length + lead.length + digits.length
  if f.left then sign ++ lead ++ digits ++ filling ' ' f.width length
  else if f.zeros then sign ++ lead ++ filling '0' f.width length ++ digits
  else filling ' ' f.width length ++ sign ++ lead ++ digits

/-- The base that a letter stands for. -/
def baseOfKind (kind : Char) : Nat :=
  if kind = 'o' then 8 else if kind = 'x' || kind = 'X' then 16 else 10

/-- The integer for a place of a kind. -/
def placeInteger (call : Caller) (kind : Char) (d : Datum) : Eval Int := do
  let isDecimal := baseOfKind kind = 10
  let found ←
    if isDecimal then do
      match ← wholePart? call d with
      | some (.int i _) => pure (some i)
      | _ => pure none
    else indexOf call d
  match found with
  | some i => return i
  | none =>
    fault (.typeMisuse ('%' :: kind :: (if isDecimal then " format: a real number is required, not "
      else " format: an integer is required, not ").toList ++ (← typeName d)))

/-- An integer in its place. -/
def filledInteger (call : Caller) (f : Frame) (kind : Char) (d : Datum) : Eval Text := do
  let i ← placeInteger call kind d
  let base := baseOfKind kind
  if base = 10 then
    let _ ← ofExcept (decimalText i)
  let digits := Nat.toDigits base i.natAbs
  let digits := if kind = 'X' then Text.upper digits else digits
  let digits := filling '0' (f.places.getD 0) digits.length ++ digits
  let lead := if f.alternate && base ≠ 10 then ['0', kind] else []
  return placeNumber f (i < 0) lead digits

/-- In which style a letter says that a double is written. -/
def styleOfKind (kind : Char) : Style :=
  if kind = 'e' || kind = 'E' then .exponent
  else if kind = 'g' || kind = 'G' then .general
  else .fixed

/-- A double in its place. -/
def filledDouble (call : Caller) (f : Frame) (kind : Char) (d : Datum) : Eval Text := do
  let x ← realOf call d
  let t := Binary64.textWith (styleOfKind kind) f.alternate (f.places.getD 6) x
  let t := if kind = 'E' || kind = 'F' || kind = 'G' then Text.upper t else t
  match t with
  | '-' :: digits => return placeNumber f true [] digits
  | digits => return placeNumber f false [] digits

/-- A character in its place. -/
def filledCharacter (call : Caller) (f : Frame) (d : Datum) : Eval Text := do
  match ← coreOf d with
  | .str [c] _ => return placeText f [c]
  | _ =>
    match ← indexOf call d with
    | some i =>
      if 0 ≤ i && i < 0x110000 then return placeText f [Char.ofNat i.toNat]
      else fault (.overflow "%c arg not in range(0x110000)".toList)
    | none => fault (.typeMisuse "%c requires int or char".toList)

/-- A character beyond ASCII by its number. -/
def asciiChar (c : Char) : Text :=
  let n := c.toNat
  if n < 128 then [c]
  else if n < 256 then '\\' :: 'x' :: Text.hex 2 n
  else if n < 65536 then '\\' :: 'u' :: Text.hex 4 n
  else '\\' :: 'U' :: Text.hex 8 n

/-- A text, or something shown as one, in its place. -/
def filledText (f : Frame) (t : Text) : Text :=
  placeText f (match f.places with
    | some n => t.take n
    | none => t)

/-- A value in its place; `index` is where the letter for its kind stands. -/
def filledValue (call : Caller) (f : Frame) (kind : Char) (index : Nat) (d : Datum) : Eval Text := do
  if kind = 's' then return filledText f (← textOf call d)
  else if kind = 'r' then return filledText f (← shown call d)
  else if kind = 'a' then return filledText f ((← shown call d).flatMap asciiChar)
  else if ['d', 'i', 'u', 'o', 'x', 'X'].contains kind then filledInteger call f kind d
  else if ['e', 'E', 'f', 'F', 'g', 'G'].contains kind then filledDouble call f kind d
  else if kind = 'c' then filledCharacter call f d
  else
    let sign := if 31 ≤ kind.toNat && kind.toNat ≤ 126 then kind else '?'
    fault (.improper ("unsupported format character '".toList ++ sign :: "' (0x".toList ++
      Text.hex 1 kind.toNat ++ ") at index ".toList ++ Text.ofNat index))

/-! ## Filling all places -/

/-- One place of a text of a length, what fills it, and what follows it. -/
def fillPlace (call : Caller) (length : Nat) (s : Supply) (t : Text) :
    Eval (Text × Supply × Text) := do
  let (s, t) ← takeKeyed call s t
  let (f, t) := readMarks .plain t
  let (f, s, t) ← takeWidth f s t
  let (f, s, t) ← takePlaces f s t
  match withoutSize t with
  | [] => endless
  | '%' :: t => return (['%'], s, t)
  | kind :: t =>
    let (d, s) ← s.next
    if widthLimit < f.width then fault (.raised "MemoryError".toList [])
    else return (← filledValue call f kind (length - t.length - 1) d, s, t)

/-- The parts of a text of a length, with at most `bound` characters left. -/
def fillAll (call : Caller) (length : Nat) : (bound : Nat) → Supply → Text → Eval (Text × Supply)
  | 0, s, t => return (t, s)
  | bound + 1, s, t => do
    let plain := t.takeWhile (· != '%')
    match t.drop plain.length with
    | [] => return (plain, s)
    | _ :: t =>
      let (filled, s, t) ← fillPlace call length s t
      let (more, s) ← fillAll call length bound s t
      return (plain ++ filled ++ more, s)

/-- Whether something is asked for the keys of places. -/
def isAskedForKeys (d : Datum) : Eval Bool := do
  if (← special? d "__getitem__").isSome then return true
  else
    match ← coreOf d with
    | .range .. => return true
    | .bytes _ => return true
    | .ref address =>
      match ← read address with
      | .list _ => return true
      | .dict _ => return true
      | _ => return false
    | _ => return false

/-- A text with its places filled: by the members of a tuple, by the entries of a dictionary, or by a
single value. -/
def fillPlaces (call : Caller) (t : Text) (values : Datum) : Eval Datum := do
  let supply ←
    match ← coreOf values with
    | .tuple items _ => pure ⟨items, none⟩
    | _ => do
      let asked ← isAskedForKeys values
      pure (Supply.mk [values] (if asked then some values else none))
  let (filled, supply) ← fillAll call t.length (t.length + 1) supply t
  if supply.keyed.isNone && !supply.rest.isEmpty then
    fault (.typeMisuse "not all arguments converted during string formatting".toList)
  else newText filled

end FormulaCube.Run
