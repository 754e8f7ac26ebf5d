import FormulaCube.Markup.Moment
import FormulaCube.Text.Sextets
import FormulaCube.Value.Written

/-!
# Values of scalars

What a scalar with a tag stands for. A tag may be written before any text, so each can be unreadable in
its own way.

* `scalarValue` — the value of a text with a tag.
-/

namespace FormulaCube.Markup

/-- The fault of a text whose first character is asked for where there is none. -/
def noCharacter : Fault := .rangeWords "string index out of range".toList

/-- The characters without underscores. -/
def withoutMarks (t : Text) : Text := t.filter (· != '_')

/-- A truth value by its word. -/
def truthOf (t : Text) : Except Fault Value :=
  let word := String.ofList (t.map Char.toLower)
  if ["yes", "true", "on"].contains word then .ok (.bool true)
  else if ["no", "false", "off"].contains word then .ok (.bool false)
  else .error (.missingKey (Text.quoted (String.toList word)))

/-- The value of places to the base sixty. -/
def sixtieths (places : List Int) : Int := places.foldl (fun n place => n * 60 + place) 0

/-- An integer in one of the ways of writing it, without its sign. -/
def unsignedInteger (t : Text) : Except Fault Int :=
  match t with
  | [] => .error noCharacter
  | ['0'] => .ok 0
  | '0' :: 'b' :: rest => writtenInteger 2 rest
  | '0' :: 'x' :: rest => writtenInteger 16 rest
  | '0' :: _ => writtenInteger 8 t
  | _ =>
    if t.contains ':' then
      ((Text.splitOn ':' t).mapM (writtenInteger 10)).map sixtieths
    else writtenInteger 10 t

/-- An integer. -/
def integerOf (t : Text) : Except Fault Value :=
  let t := withoutMarks t
  if t.isEmpty then .error noCharacter
  else
    let sign : Int := if t.head? = some '-' then -1 else 1
    (unsignedInteger (unsigned t)).map fun n => .int (sign * n)

/-- The sum of places to the base sixty, of which the last comes first. -/
def sixtiethsOf : (unit total : Binary64) → List Binary64 → Binary64
  | _, total, [] => total
  | unit, total, place :: places =>
    sixtiethsOf (unit.mul (Binary64.ofInt 60)) (total.add (place.mul unit)) places

/-- A double in one of the ways of writing it, without its sign. -/
def unsignedDouble (t : Text) : Except Fault Binary64 :=
  if t = ".inf".toList then .ok (Binary64.infinity false)
  else if t = ".nan".toList then .ok Binary64.nan
  else if t.contains ':' then
    ((Text.splitOn ':' t).mapM writtenDouble).map fun places =>
      sixtiethsOf (Binary64.ofInt 1) (Binary64.ofInt 0) places.reverse
  else writtenDouble t

/-- A double. -/
def doubleOf (t : Text) : Except Fault Value :=
  let t := (withoutMarks t).map Char.toLower
  if t.isEmpty then .error noCharacter
  else (unsignedDouble (unsigned t)).map fun x => .float (if t.head? = some '-' then x.neg else x)

/-- A date or a point in time. -/
def momentOf (t : Text) : Except Fault Value :=
  match moment? t with
  | some m => m.check.map fun _ => .object m.typeName (.ok [])
  | none => .error (.noAttribute "NoneType".toList "groupdict".toList)

/-- Bytes. -/
def binaryOf (t : Text) : Except Fault Value :=
  match if t.all (·.toNat < 128) then Text.sextets t else none with
  | some bytes => .ok (.bytes bytes)
  | none => .error .unreadableMarkup

/-- What stands for a text that holds half of a pair of codes: it is a text of which nothing is known. -/
def halvedText : Value := .object "str".toList (.ok [])

/-- The value of a text with a tag; tags of sequences and mappings do not fit a text. Half of a pair of
codes is no digit, no letter and no word. -/
def scalarValue (tag : Tag) (t : Option Text) : Except Fault Value :=
  match tag, t with
  | .null, _ => .ok .none
  | .truth, some t => truthOf t
  | .integer, some t => integerOf t
  | .double, some t => doubleOf t
  | .binary, some t => binaryOf t
  | .moment, t => momentOf (t.getD [])
  | .text, some t => .ok (.str t)
  | .text, none => .ok halvedText
  | _, _ => .error .unreadableMarkup

end FormulaCube.Markup
