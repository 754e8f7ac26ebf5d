import FormulaCube.Run.Special

/-!
# Going through something

A walk is what is still to come of something that is being gone through. Lists and dictionaries are not
copied for it, so a list that grows meanwhile is gone through to its new end, and a dictionary that
grows meanwhile is a fault.

* `Walk` — what is still to come.
* `walkOf`, `Walk.next` — the beginning of a walk, and its next step.
* `everyMember` — all members at once.
-/

namespace FormulaCube.Run

open Eval

/-- What is still to come of something that is gone through. -/
inductive Walk where
  /-- These. -/
  | items (rest : List Datum)
  /-- The members of a list from a place on. -/
  | list (address place : Nat)
  /-- What a dictionary of a size has from a place on. -/
  | entries (part : DictPart) (address place size : Nat)
  /-- The members of a set of a size from a place on. -/
  | set (address place size : Nat)
  /-- The integers of a range from a place on. -/
  | range (start step : Int) (place length : Nat)
  /-- What is left of something that is gone through once. -/
  | shared (address : Nat)
  /-- What an object hands out one after the other. -/
  | object (d : Datum)
  /-- What an object has at a place and at those after it. -/
  | places (d : Datum) (place : Nat)

/-- The walk that something hands out itself. -/
def handedOut (d : Datum) : Eval Walk := do
  let wrong {α : Type} : Eval α := do
    fault (.typeMisuse ("iter() returned non-iterator of type '".toList ++ (← typeName d) ++
      [Text.apostrophe]))
  match d with
  | .ref address =>
    match ← read address with
    | .iterator .. => return .shared address
    | _ => if (← special? d "__next__").isSome then return .object d else wrong
  | _ => wrong

/-- The walk through an object in the memory, if it is of a standard type. -/
def standardWalk? (address : Nat) : Object → Eval (Option Walk)
  | .list _ => return some (.list address 0)
  | .dict entries => return some (.entries .keys address 0 entries.length)
  | .set members => return some (.set address 0 members.length)
  | .iterator .. => return some (.shared address)
  | .dictView part dict => do
    match ← read dict with
    | .dict entries => return some (.entries part dict 0 entries.length)
    | _ => return none
  | _ => return none

/-- The beginning of a walk through something. -/
def walkOf (call : Caller) (d : Datum) : Eval Walk := do
  let byPlaces : Eval Walk := do
    if (← special? d "__getitem__").isSome then return .places d 0
    else fault (.notIterable (← typeName d))
  match ← special? d "__iter__" with
  | some .none => fault (.notIterable (← typeName d))
  | some f => handedOut (← callFor call d f [])
  | none =>
    match ← coreOf d with
    | .ref address =>
      match ← standardWalk? address (← read address) with
      | some walk => return walk
      | none => byPlaces
    | .range start stop step => return .range start step 0 (Datum.rangeLength start stop step)
    | .tuple items _ => return .items items
    | .str t _ => return .items (← characters t)
    | .bytes data => return .items (data.map fun b => .int b.toNat 0)
    | _ => byPlaces

/-- What a view of a dictionary shows of an entry. -/
def partOfEntry (part : DictPart) (entry : Datum × Datum) : Eval Datum := do
  match part with
  | .keys => return entry.1
  | .values => return entry.2
  | .items => newTuple [entry.1, entry.2]

/-- The kind of exceptions that a fault is of. -/
def kindOfFault (f : Fault) : Eval Datum := do
  match f with
  | .thrown _ _ _ address => typeOf (.ref address)
  | f => return .type f.kind

/-- Whether a failure is of one of some kinds. -/
def isOfKind (kinds : List String) : Failure → Eval Bool
  | .fault f => do
    let kind ← kindOfFault f
    kinds.anyM fun name => isKindOf kind (.type name.toList)
  | _ => return false

namespace Walk

/-- A step of what is handed out by an answer, which may fail because there is nothing more. -/
def stepFrom (ends : List String) (answer : Eval Datum) (rest : Walk) :
    Eval (Option (Datum × Walk)) := do
  match ← answer.attempt with
  | .ok d => return some (d, rest)
  | .error f => if ← isOfKind ends f then return none else fail f

/-- The next member, and what comes after it. -/
def next (call : Caller) : Walk → Eval (Option (Datum × Walk))
  | .items [] => return none
  | .items (d :: ds) => return some (d, .items ds)
  | .list address place => do
    match ← read address with
    | .list ds => return ds[place]?.map (·, .list address (place + 1))
    | _ => return none
  | .entries part address place size => do
    match ← read address with
    | .dict table =>
      if table.length ≠ size then
        fault (.raised "RuntimeError".toList "dictionary changed size during iteration".toList)
      else
        (table[place]?).mapM fun entry => do
          return (← partOfEntry part entry.2, .entries part address (place + 1) size)
    | _ => return none
  | .set address place size => do
    match ← read address with
    | .set members =>
      if members.length ≠ size then
        fault (.raised "RuntimeError".toList "Set changed size during iteration".toList)
      else return members[place]?.map (·.2.1, .set address (place + 1) size)
    | _ => return none
  | .range start step place length => do
    if place < length then
      return some (← rangeItem start step place, .range start step (place + 1) length)
    else return none
  | .shared address => do
    match ← read address with
    | .iterator type (d :: ds) =>
      write address (.iterator type ds)
      return some (d, .shared address)
    | _ => return none
  | .object d => do
    stepFrom ["StopIteration"] (do
      match ← special? d "__next__" with
      | some f => callFor call d f []
      | none => fault (.notIterable (← typeName d))) (.object d)
  | .places d place => do
    stepFrom ["IndexError", "StopIteration"] (do
      match ← special? d "__getitem__" with
      | some f => callFor call d f [← newInt (place : Int)]
      | none => fault (.notIterable (← typeName d))) (.places d (place + 1))

/-- The members that are still to come, of which there are at most so many. -/
def takeAll (call : Caller) : (bound : Nat) → (taken : List Datum) → Walk → Eval (List Datum)
  | 0, _, _ => fault .tooDeep
  | bound + 1, taken, walk => do
    match ← walk.next call with
    | none => return taken.reverse
    | some (d, rest) => takeAll call bound (d :: taken) rest

end Walk

/-- How many turns going through something may take. -/
def turnLimit : Nat := 10000000

/-- All members of something, from the first to the last. -/
def everyMember (call : Caller) (d : Datum) : Eval (List Datum) := do
  match ← walkOf call d with
  | .items ds => return ds
  | .list address _ =>
    match ← read address with
    | .list items => return items
    | _ => return []
  | walk => walk.takeAll call turnLimit []

end FormulaCube.Run
