import FormulaCube.World.Basic

/-!
# Collections of a running cell

Going through collections, looking into them and changing them, with the faults of what is no
collection.

* `members` — what is gone through.
* `contains`, `itemAt`, `setItem` — looking up and changing.
* `updateWith` — a dictionary overlaid with another one, or with pairs.
* `same` — equality of what is held.
-/

namespace FormulaCube.Run

open Eval

/-- The characters of a text. -/
def characters (t : Text) : Eval (List Datum) := t.mapM fun c => newText [c]

/-- The integer at a place of a range. -/
def rangeItem (start step : Int) (place : Nat) : Eval Datum := newInt (start + step * (place : Int))

/-- What is gone through, from the first to the last. -/
def members (d : Datum) : Eval (List Datum) := do
  match d with
  | .tuple items _ => return items
  | .str t _ => characters t
  | .bytes data => return data.map fun b => .int b.toNat 0
  | .range start stop step =>
    (List.range (Datum.rangeLength start stop step)).mapM fun place => rangeItem start step place
  | .ref address =>
    match ← read address with
    | .list items => return items
    | .dict entries => return entries.map (·.2.1)
    | .set entries => return entries.map (·.2.1)
    | .iterator type items =>
      write address (.iterator type [])
      return items
    | .dictView part dict =>
      match ← read dict with
      | .dict entries => return World.dictMembers part entries
      | _ => return []
    | _ => fault (.notIterable (← typeName d))
  | _ => fault (.notIterable (← typeName d))

/-- Equality: the same object, or equal values. -/
def same (a b : Datum) : Eval Bool := return (← get).same a b

/-- Whether one of the things is the item or equal to it. -/
def isAmong (item : Datum) : List Datum → Eval Bool
  | [] => return false
  | d :: ds => do
    if d.identical item then return true
    else if ← same d item then return true
    else isAmong item ds

/-- Whether a collection contains an item. -/
def contains (collection item : Datum) : Eval Bool := do
  match collection with
  | .tuple items _ => isAmong item items
  | .str t _ =>
    match item with
    | .str needle _ => return needle.occursIn t
    | other => fault (.searchedText (← typeName other))
  | .range .. => isAmong item (← members collection)
  | .registry =>
    let _ ← keyOf item
    match item with
    | .str name _ => return ((← get).directory.find? name).isSome
    | _ => return false
  | .ref address =>
    match ← read address with
    | .list items => isAmong item items
    | .dict entries => return (entries.find? (← keyOf item)).isSome
    | .set entries => return (entries.find? (← keyOf item)).isSome
    | .iterator .. => isAmong item (← members collection)
    | .dictView .. => isAmong item (← members collection)
    | _ => fault (.notContainer (← typeName collection))
  | _ => fault (.notContainer (← typeName collection))

/-- The integer that an index stands for. -/
def indexOf? : Datum → Option Int
  | .int i _ => some i
  | .bool b => some (if b then 1 else 0)
  | _ => none

/-- The integer that an index stands for, which must fit a machine word. -/
def wordIndexOf? (index : Datum) : Eval (Option Int) := do
  match indexOf? index with
  | some i =>
    if -2 ^ 63 ≤ i && i < 2 ^ 63 then return some i
    else fault (.rangeWords "cannot fit 'int' into an index-sized integer".toList)
  | none => return none

/-- The place of an index in a sequence of a length; a negative index counts from the end. -/
def placeOf? (i : Int) (length : Nat) : Option Nat :=
  let j := if i < 0 then i + length else i
  if 0 ≤ j && j < (length : Int) then some j.toNat else none

/-- The item of a sequence at an index. -/
def sequenceItem (type : Text) (items : List Datum) (index : Datum) : Eval Datum := do
  match ← wordIndexOf? index with
  | some i =>
    match (placeOf? i items.length).bind fun place => items[place]? with
    | some d => return d
    | none =>
      fault (.indexRange (if type = "str".toList then "string".toList else if
        type = "range".toList then "range object".toList else type))
  | none => fault (.indexType type (← typeName index))

/-- What a collection holds at an index or under a key. -/
def itemAt (collection index : Datum) : Eval Datum := do
  match collection with
  | .tuple items _ => sequenceItem "tuple".toList items index
  | .str t _ => sequenceItem "str".toList (← characters t) index
  | .range .. => sequenceItem "range".toList (← members collection) index
  | .ref address =>
    match ← read address with
    | .list items => sequenceItem "list".toList items index
    | .dict entries =>
      match entries.find? (← keyOf index) with
      | some d => return d
      | none => fault (.missing (← view index).written)
    | _ => fault (.notSubscriptable (← typeName collection))
  | _ => fault (.notSubscriptable (← typeName collection))

/-- Puts something into a collection at an index or under a key. -/
def setItem (collection index value : Datum) : Eval Unit := do
  match collection with
  | .ref address =>
    match ← read address with
    | .dict entries => write address (.dict (entries.insert (← keyOf index) index value))
    | .list items =>
      match ← wordIndexOf? index with
      | some i =>
        match placeOf? i items.length with
        | some place => write address (.list (items.set place value))
        | none => fault (.rangeWords "list assignment index out of range".toList)
      | none => fault (.indexType "list".toList (← typeName index))
    | _ => fault (.noItemAssignment (← typeName collection))
  | _ => fault (.noItemAssignment (← typeName collection))

/-- The entries of a dictionary, if it is one. -/
def entriesOf? (d : Datum) : Eval (Option (Entries Datum Datum)) := do
  match d with
  | .ref address =>
    match ← read address with
    | .dict entries => return some entries
    | _ => return none
  | _ => return none

/-- The members of something that has to be a pair; `i` is its number among the pairs. -/
def pairMembers (i : Nat) (d : Datum) : Eval (Datum × Datum) := do
  let items ← (members d).attempt
  match items with
  | .error _ => fault (.updateEntry i)
  | .ok [key, value] => return (key, value)
  | .ok items => fault (.updateLength i items.length)

/-- Puts pairs into the dictionary at an address, one after the other. -/
def insertPairs (address : Nat) : (i : Nat) → List Datum → Eval Unit
  | _, [] => return
  | i, d :: ds => do
    let (key, value) ← pairMembers i d
    setItem (.ref address) key value
    insertPairs address (i + 1) ds

/-- Overlays the dictionary at an address with another one, or with pairs. What was put in before a
fault stays. -/
def updateWith (address : Nat) (d : Datum) : Eval Unit := do
  match ← entriesOf? d with
  | some entries => entries.forM fun entry => setItem (.ref address) entry.2.1 entry.2.2
  | none => insertPairs address 0 (← members d)

/-- A fresh dictionary with the entries of another one, or with pairs. -/
def copyOfEntries (d : Datum) : Eval Datum := do
  match ← entriesOf? d with
  | some entries => add (.dict entries)
  | none =>
    let fresh ← add (.dict [])
    match fresh with
    | .ref address =>
      updateWith address d
      return fresh
    | _ => return fresh

end FormulaCube.Run
