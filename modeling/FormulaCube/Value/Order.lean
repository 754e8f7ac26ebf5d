import FormulaCube.Sorting
import FormulaCube.Value.Key

/-!
# Order of values

* `Value.same` — equality of values: numbers by what they stand for, collections by their members.
* `Value.less` — the order of numbers, texts and sequences; other values are not ordered.
* `sortEntries` — entries in the order of their keys.
-/

namespace FormulaCube

namespace Value

/-- How two numbers compare; `Option.none` where one of them is not a number. -/
def compareNumbers? : Value → Value → Option (Option Ordering)
  | .int i, .int j => some (some (compare i j))
  | .float x, .int j => some (x.compareInt? j)
  | .int i, .float y => some ((y.compareInt? i).map Ordering.swap)
  | .float x, .float y =>
    if x.isNan || y.isNan then some Option.none
    else some (some (if x.less y then .lt else if y.less x then .gt else .eq))
  | _, _ => Option.none

/-- A truth value as a number. -/
def asNumber : Value → Value
  | .bool b => .int (if b then 1 else 0)
  | value => value

mutual

/-- Equality of values. -/
def same : Value → Value → Bool
  | .none, .none => true
  | .str s, .str t => s == t
  | .list items, .list others => sameAll items others
  | .tuple items, .tuple others => sameAll items others
  | .dict entries, .dict others =>
    entries.length == others.length && sameEntries entries others
  | .set items, .set others => items.length == others.length && sameMembers items others
  | .cell s, .cell t => s == t
  | .cube s, .cube t => s == t
  | .bytes s, .bytes t => s == t
  | .frame owner input, .frame owner' input' => same owner owner' && same input input'
  | a, b =>
    match compareNumbers? a.asNumber b.asNumber with
    | some (some .eq) => true
    | _ => false

/-- Equality of sequences. -/
def sameAll : List Value → List Value → Bool
  | [], [] => true
  | item :: items, other :: others => same item other && sameAll items others
  | _, _ => false

/-- Whether every entry is one of the others. -/
def sameEntries : List (Value × Value) → List (Value × Value) → Bool
  | [], _ => true
  | (key, value) :: entries, others =>
    others.any (fun other => same key other.1 && same value other.2) && sameEntries entries others

/-- Whether every member is one of the others. -/
def sameMembers : List Value → List Value → Bool
  | [], _ => true
  | item :: items, others => others.any (fun other => same item other) && sameMembers items others

end

/-- The fault of comparing two values by an order that they do not have. -/
def unordered (op : Text) (a b : Value) : Fault := .unorderable op a.typeName b.typeName

mutual

/-- Order of values. -/
def less : Value → Value → Except Fault Bool
  | .str s, .str t => .ok (Text.less s t)
  | .list items, .list others => lessAll items others
  | .tuple items, .tuple others => lessAll items others
  | a, b =>
    match compareNumbers? a.asNumber b.asNumber with
    | some ordering => .ok (ordering == some .lt)
    | Option.none => .error (unordered "<".toList a b)

/-- Order of sequences: by the first members that differ. -/
def lessAll : List Value → List Value → Except Fault Bool
  | [], others => .ok (!others.isEmpty)
  | _ :: _, [] => .ok false
  | item :: items, other :: others =>
    if same item other then lessAll items others else less item other

end

end Value

/-! ## Sorting -/

/-- The text that a value is, if it is one. -/
def asText? : Value → Option Text
  | .str t => some t
  | _ => none

/-- Entries in the order of their keys. Texts always have an order; of other keys those are compared
with each other that sorting by runs comes to. -/
def sortEntries {α : Type} (entries : List (Value × α)) : Except Fault (List (Value × α)) :=
  match entries.mapM fun entry => (asText? entry.1).map (·, entry) with
  | some texts => .ok ((texts.mergeSort fun a b => !(Text.less b.1 a.1)).map (·.2))
  | none => Sorting.sortBy (fun a b => a.1.less b.1) entries

end FormulaCube
