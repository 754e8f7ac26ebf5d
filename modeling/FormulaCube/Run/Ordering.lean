import FormulaCube.Run.Standard
import FormulaCube.Sorting

/-!
# Order and sums of collections

* `sortedItems` — items in order, perhaps by what a function makes of them.
* `extremeOf` — the largest or the smallest item.
* `sumOf` — the sum of items.
-/

namespace FormulaCube.Run

open Eval Code

/-! ## Sorting -/

/-- What something counts as when it is sorted: itself, or what a function makes of it. -/
def rankOf (call : Caller) (rank : Option Datum) (d : Datum) : Eval Datum := do
  match rank with
  | none => return d
  | some .none => return d
  | some f => call f [d] []

/-- Whether an order is to be turned round, as an argument says. -/
def isFalling (call : Caller) (argument : Option Datum) : Eval Bool := do
  match argument with
  | none => return false
  | some d =>
    let i ← integerOf call d
    if -2 ^ 31 ≤ i && i < 2 ^ 31 then return i ≠ 0
    else fault (.overflow "Python int too large to convert to C int".toList)

/-- Items in order, by the arguments that are given by name. -/
def sortedItems (call : Caller) (named : List (Text × Datum)) (items : List Datum) :
    Eval (List Datum) := do
  optionsOf "sort".toList ["key", "reverse"] named
  let rank := named.lookup "key".toList
  let falling ← isFalling call (named.lookup "reverse".toList)
  let ranked ← items.mapM fun d => do return (← rankOf call rank d, d)
  let sorted ← Sorting.sortBy (fun (a b : Datum × Datum) => isLess call a.1 b.1)
    (if falling then ranked.reverse else ranked)
  return (if falling then sorted.reverse else sorted).map (·.2)

/-! ## Extremes -/

/-- The item that comes first by a comparison of ranks. -/
def extreme (call : Caller) (op : Comparison) (rank : Option Datum) :
    (best bestRank : Datum) → List Datum → Eval Datum
  | best, _, [] => return best
  | best, bestRank, d :: ds => do
    let r ← rankOf call rank d
    if ← isTrue call (← compareValues call op r bestRank) then extreme call op rank d r ds
    else extreme call op rank best bestRank ds

/-- The largest or the smallest item of a collection or of the arguments. -/
def extremeOf (call : Caller) (name : Text) (op : Comparison) (positional : List Datum)
    (named : List (Text × Datum)) : Eval Datum := do
  if positional.isEmpty then
    wrongArguments (name ++ " expected at least 1 argument, got 0".toList)
  optionsOf name ["key", "default"] named
  let spare := named.lookup "default".toList
  if 1 < positional.length && spare.isSome then
    wrongArguments ("Cannot specify a default for ".toList ++ name ++
      "() with multiple positional arguments".toList)
  let items ←
    match positional with
    | [d] => everyMember call d
    | ds => pure ds
  let rank := named.lookup "key".toList
  match items, spare with
  | d :: ds, _ => extreme call op rank d (← rankOf call rank d) ds
  | [], some d => return d
  | [], none => fault (.improper (name ++ "() arg is an empty sequence".toList))

/-! ## Sums -/

/-- The sum of items, one after the other. -/
def addAll (call : Caller) : (total : Datum) → List Datum → Eval Datum
  | total, [] => return total
  | total, d :: ds => do addAll call (← combine call .add total d) ds

/-- The sum of a collection from a start. -/
def sumOf (call : Caller) (positional : List Datum) (named : List (Text × Datum)) : Eval Datum := do
  match positional with
  | [] => wrongArguments "sum() takes at least 1 positional argument (0 given)".toList
  | d :: _ =>
    let given ← placedOptions "sum".toList ["iterable", "start"] positional named
    let items ← everyMember call d
    match (given.lookup "start".toList).getD (.int 0 0) with
    | .str .. => fault (.typeMisuse "sum() can't sum strings [use ''.join(seq) instead]".toList)
    | .bytes _ => fault (.typeMisuse "sum() can't sum bytes [use b''.join(seq) instead]".toList)
    | start => addAll call start items

end FormulaCube.Run
