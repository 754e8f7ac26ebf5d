import FormulaCube.Run.Ordering

/-!
# Methods of collections

* `callDictMethod`, `callListMethod`, `callSetMethod`, `callTupleMethod` — calls of methods; `label` names
  the method in faults.
-/

namespace FormulaCube.Run

open Eval

/-! ## Dictionaries -/

/-- The entry of a dictionary under a key that is an argument, and the argument after it. -/
def keyedArgument (call : Caller) (name : String) (entries : Entries Datum Datum) (ds : List Datum) :
    Eval (Key × Datum × Option Datum × Option Datum) := do
  match ← boundedArguments name.toList 1 2 ds with
  | key :: more =>
    let k ← hashKey call key
    return (k, key, entries.find? k, more.head?)
  | [] => return (.none, .none, none, none)

/-- A method of the dictionary at an address. -/
def callDictMethod (call : Caller) (label : Text) (address : Nat) (entries : Entries Datum Datum)
    (name : Text) (ds : List Datum) (named : List (Text × Datum)) : Eval Datum := do
  let method := String.ofList name
  if method = "update" then
    fillDictFrom call "update" address ds named
    return .none
  else
    noNames label named
    match method with
    | "get" =>
      let (_, _, found, spare) ← keyedArgument call method entries ds
      return (found.or spare).getD .none
    | "pop" =>
      let (k, key, found, spare) ← keyedArgument call method entries ds
      match found, spare with
      | some d, _ =>
        write address (.dict (entries.erase k))
        return d
      | none, some d => return d
      | none, none => missing (shown call key)
    | "setdefault" =>
      let (k, key, found, spare) ← keyedArgument call method entries ds
      match found with
      | some d => return d
      | none =>
        let d := spare.getD .none
        write address (.dict (entries.insert k key d))
        return d
    | _ =>
      noArguments label ds named
      match method with
      | "keys" => add (.dictView .keys address)
      | "values" => add (.dictView .values address)
      | "items" => add (.dictView .items address)
      | "copy" => add (.dict entries)
      | "clear" =>
        write address (.dict [])
        return .none
      | "popitem" =>
        match entries.getLast? with
        | some (k, key, d) =>
          write address (.dict (entries.erase k))
          newTuple [key, d]
        | none => fault (.missingKey (Text.quoted "popitem(): dictionary is empty".toList))
      | _ => fault (.notImplemented ("cells do not use ".toList ++ label))

/-! ## Sequences -/

/-- The place of the first item that is equal to something. -/
def placeOfItem (call : Caller) (d : Datum) : (i : Nat) → List Datum → Eval (Option Nat)
  | _, [] => return none
  | i, item :: items => do
    if ← equals call item d then return some i else placeOfItem call d (i + 1) items

/-- How many items are equal to something. -/
def countOf (call : Caller) (d : Datum) : List Datum → Eval Nat
  | [] => return 0
  | item :: items => do
    let own := if ← equals call item d then 1 else 0
    return own + (← countOf call d items)

/-- The place of an item that is looked for between bounds. -/
def indexOfItem (call : Caller) (items : List Datum) (ds : List Datum)
    (missing : Datum → Eval Datum) : Eval Datum := do
  match ← boundedArguments "index".toList 1 3 ds with
  | d :: bounds =>
    let p ← partBetween call items.length (bounds.headD .none) (bounds.tail.headD .none) .none
    match ← placeOfItem call d p.start.toNat (p.select items) with
    | some place => newInt place
    | none => missing d
  | [] => return .none

/-- Takes an item out of the list at an address. -/
def popItem (call : Caller) (address : Nat) (items : List Datum) (ds : List Datum) :
    Eval Datum := do
  let i ← match ← boundedArguments "pop".toList 0 1 ds with
    | d :: _ => stepsOf call d
    | [] => pure (-1)
  if items.isEmpty then fault (.rangeWords "pop from empty list".toList)
  else
    match placeOf? i items.length with
    | some place =>
      write address (.list (items.eraseIdx place))
      return items.getD place .none
    | none => fault (.rangeWords "pop index out of range".toList)

/-- A method of the list at an address. -/
def callListMethod (call : Caller) (label : Text) (address : Nat) (items : List Datum) (name : Text)
    (ds : List Datum) (named : List (Text × Datum)) : Eval Datum := do
  let method := String.ofList name
  if method = "sort" then
    unless ds.isEmpty do wrongArguments "sort() takes no positional arguments".toList
    write address (.list (← sortedItems call named items))
    return .none
  else
    noNames label named
    match method with
    | "append" =>
      write address (.list (items ++ [← onlyArgument label ds named]))
      return .none
    | "extend" =>
      let more ← everyMember call (← onlyArgument label ds named)
      write address (.list (items ++ more))
      return .none
    | "insert" =>
      match ← boundedArguments name 2 2 ds with
      | [i, d] =>
        let i ← stepsOf call i
        let place := (if i < 0 then max 0 (i + items.length) else i).toNat
        write address (.list (items.take place ++ d :: items.drop place))
        return .none
      | _ => return .none
    | "pop" => popItem call address items ds
    | "remove" =>
      match ← placeOfItem call (← onlyArgument label ds named) 0 items with
      | some place =>
        write address (.list (items.eraseIdx place))
        return .none
      | none => fault (.improper "list.remove(x): x not in list".toList)
    | "index" =>
      indexOfItem call items ds fun d => do
        fault (.improper ((← shown call d) ++ " is not in list".toList))
    | "count" => newInt (← countOf call (← onlyArgument label ds named) items)
    | _ =>
      noArguments label ds named
      match method with
      | "copy" => add (.list items)
      | "clear" =>
        write address (.list [])
        return .none
      | "reverse" =>
        write address (.list items.reverse)
        return .none
      | _ => fault (.notImplemented ("cells do not use ".toList ++ label))

/-- A method of a tuple. -/
def callTupleMethod (call : Caller) (label : Text) (items : List Datum) (name : Text)
    (ds : List Datum) (named : List (Text × Datum)) : Eval Datum := do
  noNames label named
  match String.ofList name with
  | "count" => newInt (← countOf call (← onlyArgument label ds named) items)
  | "index" =>
    indexOfItem call items ds fun _ => do
      fault (.improper "tuple.index(x): x not in tuple".toList)
  | _ => fault (.notImplemented ("cells do not use ".toList ++ label))

/-! ## Sets -/

/-- The members of a set with those of further collections. -/
def withMembers (call : Caller) (members : Entries Datum Unit) (ds : List Datum) :
    Eval (Entries Datum Unit) := do
  let more ← ds.flatMapM (everyMember call)
  more.foldlM (fun (grown : Entries Datum Unit) d => do
    return grown.insert (← hashKey call d) d ()) members

/-- A method of the set at an address. -/
def callSetMethod (call : Caller) (label : Text) (address : Nat) (members : Entries Datum Unit)
    (name : Text) (ds : List Datum) (named : List (Text × Datum)) : Eval Datum := do
  noNames label named
  match String.ofList name with
  | "add" =>
    let d ← onlyArgument label ds named
    write address (.set (members.insert (← hashKey call d) d ()))
    return .none
  | "discard" =>
    let d ← onlyArgument label ds named
    write address (.set (members.erase (← hashKey call d)))
    return .none
  | "remove" =>
    let d ← onlyArgument label ds named
    let k ← hashKey call d
    match members.find? k with
    | some _ =>
      write address (.set (members.erase k))
      return .none
    | none => missing (shown call d)
  | "update" =>
    write address (.set (← withMembers call members ds))
    return .none
  | "union" => add (.set (← withMembers call members ds))
  | "copy" => add (.set members)
  | "clear" =>
    write address (.set [])
    return .none
  | _ => fault (.notImplemented ("cells do not use ".toList ++ label))

end FormulaCube.Run
