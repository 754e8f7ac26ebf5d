/-!
# Sorting

Items are sorted by merging runs that are already in order. Where a comparison may fail, or where some
items are not ordered at all, the outcome depends on which items are compared with each other and when,
so the comparisons made are part of the definition. Items that are equal keep their order.

* `runLength` — how long the run is with which items begin. A falling run is turned round.
* `insertAll` — a short run is made longer: items are put in one after the other.
* `gallopLeft`, `gallopRight` — where an item belongs in a run, looked for in growing steps.
* `mergeLow`, `mergeHigh` — two runs in one. As long as one of them keeps winning, whole stretches of it
  are taken.
* `sortBy` — the items in order. Runs wait until their turn to be merged has come, which depends on where
  their middles lie among all items.
-/

namespace FormulaCube.Sorting

variable {m : Type → Type} [Monad m] {α : Type} (less : α → α → m Bool)

/-! ## Runs -/

/-- How many more items belong to a run: as long as each is below the one before it, or as long as none
is. -/
def runLength (descending : Bool) : (previous : α) → List α → m Nat
  | _, [] => return 0
  | previous, item :: items => do
    if (← less item previous) = descending then return (← runLength descending item items) + 1
    else return 0

/-- The place between two places up to which a test holds. The middle of the places is tried first. -/
def narrow (test : Nat → m Bool) : (bound low high : Nat) → m Nat
  | 0, low, _ => return low
  | bound + 1, low, high => do
    if low < high then
      let middle := low + (high - low) / 2
      if ← test middle then narrow test bound (middle + 1) high
      else narrow test bound low middle
    else return low

/-- Puts items one after the other where they belong: after all that are not above them. -/
def insertAll : (sorted : Array α) → List α → m (List α)
  | sorted, [] => return sorted.toList
  | sorted, item :: items => do
    let place ← narrow (fun i => do return !(← less item (sorted.getD i item))) sorted.size 0
      sorted.size
    insertAll ((sorted.toList.take place ++ item :: sorted.toList.drop place).toArray) items

/-! ## Galloping -/

/-- The last distance at which a test holds and the next one that was tried, in steps that double. -/
def stride (test : Nat → m Bool) (limit : Nat) : (bound last next : Nat) → m (Nat × Nat)
  | 0, last, next => return (last, min next limit)
  | bound + 1, last, next => do
    if next < limit then
      if ← test next then stride test limit bound next (2 * next + 1)
      else return (last, next)
    else return (last, min next limit)

/-- Where an item belongs in a run, before all that are equal to it. The place `hint` is tried first. -/
def gallopLeft (item : α) (run : Array α) (hint : Nat) : m Nat := do
  let n := run.size
  let below (i : Nat) : m Bool := less (run.getD i item) item
  let (low, high) ←
    if ← below hint then do
      let (last, next) ← stride (fun d => below (hint + d)) (n - hint) n 0 1
      pure (hint + last + 1, hint + next)
    else do
      let (last, next) ← stride (fun d => do return !(← below (hint - d))) (hint + 1) n 0 1
      pure (hint + 1 - next, hint - last)
  narrow below n low high

/-- Where an item belongs in a run, after all that are equal to it. The place `hint` is tried first. -/
def gallopRight (item : α) (run : Array α) (hint : Nat) : m Nat := do
  let n := run.size
  let above (i : Nat) : m Bool := less item (run.getD i item)
  let (low, high) ←
    if ← above hint then do
      let (last, next) ← stride (fun d => above (hint - d)) (hint + 1) n 0 1
      pure (hint + 1 - next, hint - last)
    else do
      let (last, next) ← stride (fun d => do return !(← above (hint + d))) (n - hint) n 0 1
      pure (hint + last + 1, hint + next)
  narrow (fun i => do return !(← above i)) n low high

/-! ## Merging -/

/-- How a merge goes on. -/
inductive Pace where
  /-- Item by item; so many times the left or the right run has won without interruption. -/
  | single (left right : Nat)
  /-- In stretches. -/
  | gallop

/-- How many items a stretch must have for galloping to go on. -/
def leastGallop : Nat := 7

/-- The pace after an item was taken: once a run has won `patience` times, stretches are tried. -/
def Pace.after (patience left right : Nat) : Pace :=
  if patience ≤ left || patience ≤ right then .gallop else .single left right

/-- Merges two runs from the left. `done` holds what was merged so far, the last item first. The first
item of the right run goes first, and the last item of the left run goes last, which is known before. The
result comes with the patience that is left. -/
def mergeLow : (bound : Nat) → Pace → (patience : Nat) → (done left right : List α) →
    m (List α × Nat)
  | 0, _, patience, done, left, right => return (done.reverse ++ left ++ right, patience)
  | bound + 1, pace, patience, done, left, right => do
    let finish (done left right : List α) : m (List α × Nat) :=
      return (done.reverse ++ left ++ right, patience)
    match pace, left, right with
    | _, [], right => finish done [] right
    | _, left, [] => finish done left []
    | _, [a], right => finish done right [a]
    | .single won lost, a :: left, b :: right =>
      if ← less b a then
        mergeLow bound (.after patience 0 (lost + 1)) patience (b :: done) (a :: left) right
      else mergeLow bound (.after patience (won + 1) 0) patience (a :: done) left (b :: right)
    | .gallop, left, b :: right => do
      let k ← gallopRight less b left.toArray 0
      let done := (left.take k).reverse ++ done
      match left.drop k, right with
      | [], right => finish done [] (b :: right)
      | [a], right => finish done (b :: right) [a]
      | left, [] => finish (b :: done) left []
      | a :: left, right => do
        let j ← gallopLeft less a right.toArray 0
        let done := (right.take j).reverse ++ b :: done
        match left, right.drop j with
        | left, [] => finish done (a :: left) []
        | [c], right => finish (a :: done) right [c]
        | left, right =>
          if leastGallop ≤ k || leastGallop ≤ j then
            mergeLow bound .gallop (max 1 (patience - 1)) (a :: done) left right
          else mergeLow bound (.single 0 0) (patience + 1) (a :: done) left right

/-- Merges two runs from the right. Both runs are given the last item first; `done` holds what was
merged so far. The last item of the left run goes last, and the first item of the right run goes first,
which is known before. -/
def mergeHigh : (bound : Nat) → Pace → (patience : Nat) → (done left right : List α) →
    m (List α × Nat)
  | 0, _, patience, done, left, right => return (left.reverse ++ right.reverse ++ done, patience)
  | bound + 1, pace, patience, done, left, right => do
    let finish (first second done : List α) : m (List α × Nat) :=
      return (first.reverse ++ second.reverse ++ done, patience)
    match pace, left, right with
    | _, [], right => finish [] right done
    | _, left, [] => finish left [] done
    | _, left, [b] => finish [b] left done
    | .single won lost, a :: left, b :: right =>
      if ← less b a then
        mergeHigh bound (.after patience (won + 1) 0) patience (a :: done) left (b :: right)
      else mergeHigh bound (.after patience 0 (lost + 1)) patience (b :: done) (a :: left) right
    | .gallop, left, b :: right => do
      let n := left.length
      let k := n - (← gallopRight less b left.reverse.toArray (n - 1))
      let done := (left.take k).reverse ++ done
      match left.drop k, right with
      | [], right => finish [] (b :: right) done
      | left, [] => finish [] left (b :: done)
      | left, [c] => finish [c] left (b :: done)
      | a :: left, right => do
        let n := right.length
        let j := n - (← gallopLeft less a right.reverse.toArray (n - 1))
        let done := (right.take j).reverse ++ b :: done
        match left, right.drop j with
        | left, [c] => finish [c] (a :: left) done
        | left, [] => finish (a :: left) [] done
        | [], right => finish [] right (a :: done)
        | left, right =>
          if leastGallop ≤ k || leastGallop ≤ j then
            mergeHigh bound .gallop (max 1 (patience - 1)) (a :: done) left right
          else mergeHigh bound (.single 0 0) (patience + 1) (a :: done) left right

/-- Two neighbouring runs in one. What is in place already at either end is left out of the merge, and
the merge starts at the end of the longer run. -/
def mergeRuns (patience : Nat) (left right : List α) : m (List α × Nat) := do
  match left.getLast?, right with
  | some last, first :: rest =>
    let k ← gallopRight less first left.toArray 0
    let a := left.drop k
    if a.isEmpty then return (left ++ right, patience)
    let j ← gallopLeft less last right.toArray (right.length - 1)
    let b := right.take j
    let bound := a.length + b.length
    let (merged, patience) ←
      if a.length ≤ b.length then
        mergeLow less bound (.single 0 0) patience (b.take 1) a (b.drop 1)
      else
        mergeHigh less bound (.single 0 0) patience (a.reverse.take 1) (a.reverse.drop 1) b.reverse
    return (left.take k ++ merged ++ (first :: rest).drop j, patience)
  | _, _ => return (left ++ right, patience)

/-! ## All runs -/

/-- A run that waits to be merged. -/
structure Waiting (α : Type) where
  /-- Where it begins. -/
  start : Nat
  /-- Its items. -/
  items : List α
  /-- How early its turn to be merged with the next one comes: the smaller, the later. -/
  power : Nat

/-- The first digit in which the middles of two neighbouring runs differ, as parts of the whole in
binary. Both are given doubled. -/
def powerOf (whole : Nat) : (bound a b : Nat) → Nat
  | 0, _, _ => 0
  | bound + 1, a, b =>
    if whole ≤ a then powerOf whole bound (2 * (a - whole)) (2 * (b - whole)) + 1
    else if whole ≤ b then 1
    else powerOf whole bound (2 * a) (2 * b) + 1

/-- The shortest run that is not made longer, for a number of items. -/
def leastRun : (bound n odd : Nat) → Nat
  | 0, n, odd => n + odd
  | bound + 1, n, odd => if n < 64 then n + odd else leastRun bound (n / 2) (max odd (n % 2))

/-- Merges the runs, of which the last comes first, whose turn comes before that of a power. -/
def mergeBefore (power : Nat) : (bound patience : Nat) → List (Waiting α) →
    m (List (Waiting α) × Nat)
  | bound + 1, patience, last :: before :: runs => do
    if power < before.power then
      let (items, patience) ← mergeRuns less patience before.items last.items
      mergeBefore power bound patience (⟨before.start, items, 0⟩ :: runs)
    else return (last :: before :: runs, patience)
  | _, patience, runs => return (runs, patience)

/-- Merges all runs, of which the last comes first. -/
def mergeAll : (bound patience : Nat) → List (Waiting α) → m (List α)
  | bound + 1, patience, last :: before :: first :: runs => do
    if first.items.length < last.items.length then
      let (items, patience) ← mergeRuns less patience first.items before.items
      mergeAll bound patience (last :: ⟨first.start, items, 0⟩ :: runs)
    else
      let (items, patience) ← mergeRuns less patience before.items last.items
      mergeAll bound patience (⟨before.start, items, 0⟩ :: first :: runs)
  | bound + 1, patience, [last, before] => do
    let (items, patience) ← mergeRuns less patience before.items last.items
    mergeAll bound patience [⟨before.start, items, 0⟩]
  | _, _, runs => return runs.reverse.flatMap (·.items)

/-- The run with which items begin, of at least `least` items if there are so many, and what follows
it. -/
def takeRun (least : Nat) : List α → m (List α × List α)
  | [] => return ([], [])
  | [item] => return ([item], [])
  | first :: second :: rest => do
    let descending ← less second first
    let more ← runLength less descending second rest
    let run := first :: second :: rest.take more
    let run := if descending then run.reverse else run
    let rest := rest.drop more
    let added := least - run.length
    return (← insertAll less run.toArray (rest.take added), rest.drop added)

/-- Finds the runs one after the other and merges those whose turn comes. -/
def sortRuns (whole : Nat) : (bound start patience : Nat) → List (Waiting α) → List α → m (List α)
  | bound + 1, start, patience, runs, items => do
    if items.isEmpty then mergeAll less runs.length patience runs
    else
      let (run, rest) ← takeRun less (leastRun whole whole 0) items
      let (runs, patience) ←
        match runs with
        | last :: _ => do
          let n := last.items.length
          let a := 2 * last.start + n
          let power := powerOf whole whole a (a + n + run.length)
          let (runs, patience) ← mergeBefore less power runs.length patience runs
          pure (runs.modify 0 ({ · with power := power }), patience)
        | [] => pure ([], patience)
      sortRuns whole bound (start + run.length) patience (⟨start, run, 0⟩ :: runs) rest
  | 0, _, _, runs, items => return runs.reverse.flatMap (·.items) ++ items

/-- The items in order. -/
def sortBy (items : List α) : m (List α) :=
  if items.length < 2 then return items
  else sortRuns less items.length (items.length + 1) 0 leastGallop [] items

end FormulaCube.Sorting
