import FormulaCube.Run.Shown
import FormulaCube.Run.Walk

/-!
# Entries of collections

What stands between brackets after a collection: an index, a key, or the bounds of a part.

* `Part` — the bounds of a part, moved into a sequence.
* `entryAt`, `setEntry`, `deleteEntry` — what a collection holds, and how that is changed.
-/

namespace FormulaCube.Run

open Eval

/-! ## Parts of sequences -/

/-- The bounds of a part of a sequence: its first place, the place before which it ends, and its
step. -/
structure Part where
  /-- The first place. -/
  start : Int
  /-- The place before which it ends. -/
  stop : Int
  /-- The distance of its places. -/
  step : Int
  deriving DecidableEq, Repr

/-- A bound of a part, moved into a sequence of a length. -/
def clampBound (length : Nat) (step : Int) (i : Int) : Int :=
  let n : Int := length
  let i := if i < 0 then i + n else i
  if i < 0 then (if step < 0 then -1 else 0)
  else if n ≤ i then (if step < 0 then n - 1 else n)
  else i

/-- A bound of a part, if there is one. -/
def boundOf (call : Caller) (d : Datum) : Eval (Option Int) := do
  match d with
  | .none => return none
  | d =>
    match ← indexOf call d with
    | some i => return some i
    | none =>
      fault (.typeMisuse
        "slice indices must be integers or None or have an __index__ method".toList)

/-- The part of a sequence of a length between two bounds. -/
def partBetween (call : Caller) (length : Nat) (lower upper step : Datum) : Eval Part := do
  let step := (← boundOf call step).getD 1
  if step = 0 then fault (.improper "slice step cannot be zero".toList)
  else
    let n : Int := length
    let start := ((← boundOf call lower).map (clampBound length step)).getD
      (if step < 0 then n - 1 else 0)
    let stop := ((← boundOf call upper).map (clampBound length step)).getD (if step < 0 then -1 else n)
    return ⟨start, stop, step⟩

namespace Part

/-- How many places a part has. -/
def size (p : Part) : Nat := Datum.rangeLength p.start p.stop p.step

/-- The places of a part, from the first to the last. -/
def places (p : Part) : List Nat :=
  (List.range p.size).map fun (i : Nat) => (p.start + p.step * (i : Int)).toNat

/-- Whether a part is the whole of a sequence of a length. -/
def isWhole (p : Part) (length : Nat) : Bool := p.start = 0 && p.step = 1 && p.size = length

/-- The items of a part. -/
def select {α : Type} (p : Part) (items : List α) : List α :=
  if p.step = 1 then (items.drop p.start.toNat).take p.size
  else
    let items := items.toArray
    p.places.filterMap fun place => items[place]?

/-- The items outside a part. -/
def without {α : Type} (p : Part) (items : List α) : List α :=
  if p.step = 1 then items.take p.start.toNat ++ items.drop (p.start.toNat + p.size)
  else (items.zipIdx.filter fun item => !p.places.contains item.2).map (·.1)

/-- The items with those of a part, which follow one another, put in the place of others. -/
def splice {α : Type} (p : Part) (values items : List α) : List α :=
  items.take p.start.toNat ++ values ++ items.drop (p.start.toNat + p.size)

/-- The items with those of a part put in the place of as many others. -/
def overwrite {α : Type} (p : Part) (values items : List α) : List α :=
  (p.places.zip values).foldl (fun items entry => items.set entry.1 entry.2) items

end Part

/-- The bounds that stand for a part, if an index does. -/
def sliceBounds? (index : Datum) : Eval (Option (Datum × Datum × Datum)) := do
  match index with
  | .ref address =>
    match ← read address with
    | .slice lower upper step => return some (lower, upper, step)
    | _ => return none
  | _ => return none

/-- The part of a sequence of a length that an index stands for, if it stands for one. -/
def partAt? (call : Caller) (length : Nat) (index : Datum) : Eval (Option Part) := do
  (← sliceBounds? index).mapM fun (lower, upper, step) => partBetween call length lower upper step

/-! ## Looking up -/

/-- The item of a sequence at an index. -/
def itemOf {α : Type} (call : Caller) (type : String) (items : List α) (index : Datum) : Eval α := do
  match ← wordIndexOf call index with
  | some i =>
    match (placeOf? i items.length).bind fun place => items[place]? with
    | some item => return item
    | none =>
      fault (.indexRange (if type = "str" then "string".toList else type.toList))
  | none => fault (.indexType type.toList (← typeName index))

/-- The integer of a range at an index. -/
def rangeEntry (call : Caller) (start stop step : Int) (index : Datum) : Eval Datum := do
  let n := Datum.rangeLength start stop step
  match ← partAt? call n index with
  | some p => return .range (start + step * p.start) (start + step * p.stop) (step * p.step)
  | none =>
    match ← indexOf call index with
    | some i =>
      match placeOf? i n with
      | some place => rangeItem start step place
      | none => fault (.indexRange "range object".toList)
    | none => fault (.indexType "range".toList (← typeName index))

/-- The types that can be told what they contain. -/
def genericTypes : List String := ["dict", "enumerate", "frozenset", "list", "set", "tuple", "type"]

/-- How a type is written between the brackets of another one. -/
def typeArgumentText (call : Caller) (d : Datum) : Eval Text := do
  match d with
  | .type name => return name
  | .other ['e', 'l', 'l', 'i', 'p', 's', 'i', 's'] _ _ => return "...".toList
  | d =>
    match ← classAt? d with
    | some c =>
      match c.members.lookup "__module__".toList with
      | some (.str module _) => return module ++ '.' :: c.path
      | _ => return c.path
    | none => shown call d

/-- A standard type that is told what it contains. -/
def genericType (call : Caller) (name : Text) (index : Datum) : Eval Datum := do
  if genericTypes.any fun t => t.toList = name then
    let arguments := match index with
      | .tuple items _ => items
      | d => [d]
    let texts ← arguments.mapM (typeArgumentText call)
    return .plain "GenericAlias".toList (name ++ between '[' ']' texts)
  else fault (.typeMisuse ("type '".toList ++ name ++ "' is not subscriptable".toList))

/-- What a dictionary holds under a key. -/
def dictEntry (call : Caller) (d : Datum) (entries : Entries Datum Datum) (key : Datum) :
    Eval Datum := do
  match entries.find? (← hashKey call key) with
  | some value => return value
  | none =>
    match ← askSpecial? call d "__missing__" [key] with
    | some value => return value
    | none => missing (shown call key)

/-- What a collection of a standard type holds at an index or under a key. -/
def standardEntry (call : Caller) (d index : Datum) : Eval Datum := do
  match ← coreOf d with
  | .tuple items mark =>
    match ← partAt? call items.length index with
    | some p => if p.isWhole items.length then return .tuple items mark else newTuple (p.select items)
    | none => itemOf call "tuple" items index
  | .str t mark =>
    match ← partAt? call t.length index with
    | some p => if p.isWhole t.length then return .str t mark else newText (p.select t)
    | none => newText [← itemOf call "str" t index]
  | .range start stop step => rangeEntry call start stop step index
  | .type name => genericType call name index
  | .ref address =>
    match ← read address with
    | .list items =>
      match ← partAt? call items.length index with
      | some p => add (.list (p.select items))
      | none => itemOf call "list" items index
    | .dict entries => dictEntry call d entries index
    | .classRecord c =>
      match ← inheritedMember? d "__class_getitem__".toList with
      | some f => call f [d, index] []
      | none => fault (.typeMisuse ("type '".toList ++ c.name ++ "' is not subscriptable".toList))
    | _ => fault (.notSubscriptable (← typeName d))
  | _ => fault (.notSubscriptable (← typeName d))

/-- What a collection holds at an index or under a key. -/
def entryAt (call : Caller) (d index : Datum) : Eval Datum := do
  match ← askSpecial? call d "__getitem__" [index] with
  | some value => return value
  | none => standardEntry call d index

/-! ## Changing -/

/-- The place of a list at an index, for a change. -/
def placeAt (call : Caller) (items : List Datum) (index : Datum) : Eval Nat := do
  match ← wordIndexOf call index with
  | some i =>
    match placeOf? i items.length with
    | some place => return place
    | none => fault (.rangeWords "list assignment index out of range".toList)
  | none => fault (.indexType "list".toList (← typeName index))

/-- The items that take the place of a part. -/
def replacements (call : Caller) (words : String) (value : Datum) : Eval (List Datum) := do
  match ← (everyMember call value).attempt with
  | .ok items => return items
  | .error f => if ← isOfKind ["TypeError"] f then fault (.typeMisuse words.toList) else fail f

/-- A list with something put into it at an index, or with a part of it replaced. -/
def listWith (call : Caller) (items : List Datum) (index value : Datum) : Eval (List Datum) := do
  match ← partAt? call items.length index with
  | some p =>
    if p.step = 1 then
      return p.splice (← replacements call "can only assign an iterable" value) items
    else
      let values ← replacements call "must assign iterable to extended slice" value
      if values.length = p.size then return p.overwrite values items
      else
        fault (.improper ("attempt to assign sequence of size ".toList ++ Text.ofNat values.length ++
          " to extended slice of size ".toList ++ Text.ofNat p.size))
  | none => return items.set (← placeAt call items index) value

/-- The fault of an object whose class changes entries in one way but not in the other. -/
def checkCounterpart (d : Datum) (wanted present : String) : Eval Unit := do
  if (← special? d present).isSome then fault (.attributeWords wanted.toList) else return

/-- Puts something into a collection at an index or under a key. -/
def setEntry (call : Caller) (d index value : Datum) : Eval Unit := do
  match ← askSpecial? call d "__setitem__" [index, value] with
  | some _ => return
  | none =>
    match ← coreOf d with
    | .ref address =>
      match ← read address with
      | .dict entries => write address (.dict (entries.insert (← hashKey call index) index value))
      | .list items => write address (.list (← listWith call items index value))
      | _ =>
        checkCounterpart d "__setitem__" "__delitem__"
        fault (.noItemAssignment (← typeName d))
    | _ => fault (.noItemAssignment (← typeName d))

/-- The types whose objects have members in an order, or could have. -/
def orderedTypes : List String :=
  ["bytes", "dict_items", "dict_keys", "dict_values", "range", "set", "str", "tuple"]

/-- The fault of something that nothing can be taken out of. -/
def undeletable {α : Type} (call : Caller) (d index : Datum) : Eval α := do
  let type ← typeOf d
  let name ← typeName d
  let ordered := orderedTypes.any (·.toList = name) || (Datum.moduleOfType? name).isSome
  if (ordered || (← classAt? type).isSome) && (← wordIndexOf call index).isSome then
    fault (.noItemDeletion name)
  else
    fault (.typeMisuse (Text.apostrophe :: (name ++ "' object does not support item deletion".toList)))

/-- Takes something out of a collection. -/
def deleteEntry (call : Caller) (d index : Datum) : Eval Unit := do
  match ← askSpecial? call d "__delitem__" [index] with
  | some _ => return
  | none =>
    match ← coreOf d with
    | .ref address =>
      match ← read address with
      | .dict entries =>
        let key ← hashKey call index
        match entries.find? key with
        | some _ => write address (.dict (entries.erase key))
        | none => missing (shown call index)
      | .list items =>
        match ← partAt? call items.length index with
        | some p => write address (.list (p.without items))
        | none => write address (.list (items.eraseIdx (← placeAt call items index)))
      | _ =>
        checkCounterpart d "__delitem__" "__setitem__"
        undeletable call d index
    | _ => undeletable call d index

end FormulaCube.Run
