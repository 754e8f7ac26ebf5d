import FormulaCube.Value.Key

/-!
# Tables of cells

A cube keeps its cells under partial coordinates. The coordinate that is looked up may name more
axes; the cell with the most axes wins, and among those the one set first.

* `Table.insert`, `Table.erase`, `Table.find?` — by an equal coordinate.
* `Table.best` — the best match.
-/

namespace FormulaCube

/-- A coordinate by which a table is searched: axes and values, in the order of the axes. -/
abbrev CoordinateKey := List (Key × Key)

/-- Equality of coordinates. -/
def CoordinateKey.same : CoordinateKey → CoordinateKey → Bool
  | [], [] => true
  | a :: as, b :: bs => a.1.same b.1 && a.2.same b.2 && CoordinateKey.same as bs
  | _, _ => false

/-- One cell of a table: the coordinate, the same as it is shown, and what is kept there. -/
structure Slot (σ α : Type) where
  /-- The coordinate. -/
  key : CoordinateKey
  /-- The coordinate as it is shown. -/
  shown : σ
  /-- What is kept. -/
  value : α

/-- The cells of a cube in the order in which their coordinates were first set. -/
abbrev Table (σ α : Type) := List (Slot σ α)

namespace Table

variable {σ α : Type}

/-- Keeps a value at a coordinate: in the place of an equal coordinate, or at the end. -/
def insert : Table σ α → CoordinateKey → σ → α → Table σ α
  | [], key, shown, value => [⟨key, shown, value⟩]
  | slot :: slots, key, shown, value =>
    if slot.key.same key then { slot with value := value } :: slots
    else slot :: insert slots key shown value

/-- The table without the cell at a coordinate. -/
def erase : Table σ α → CoordinateKey → Table σ α
  | [], _ => []
  | slot :: slots, key => if slot.key.same key then slots else slot :: erase slots key

/-- What is kept at a coordinate. -/
def find? (table : Table σ α) (key : CoordinateKey) : Option α :=
  (List.find? (fun slot => slot.key.same key) table).map (·.value)

/-- The best of the cells that `holds` accepts and of the best one before them, which has the given
number of axes. A cell with no more axes than the best one is not even tried. -/
def bestAfter {m : Type → Type} [Monad m] (holds : Slot σ α → m Bool) :
    (best : Option (Nat × α)) → Table σ α → m (Option (Nat × α))
  | best, [] => pure best
  | best, slot :: slots => do
    let beaten : Bool := match best with
      | some (axes, _) => slot.key.length ≤ axes
      | none => false
    if beaten then bestAfter holds best slots
    else if ← holds slot then bestAfter holds (some (slot.key.length, slot.value)) slots
    else bestAfter holds best slots

/-- The first cell is tried, unless it is beaten, and then the others. -/
theorem bestAfter_cons {m : Type → Type} [Monad m] (holds : Slot σ α → m Bool)
    (best : Option (Nat × α)) (slot : Slot σ α) (slots : Table σ α) :
    bestAfter holds best (slot :: slots) =
      if best.any (fun before => slot.key.length ≤ before.1) = true then
        bestAfter holds best slots
      else holds slot >>= fun accepted =>
        if accepted then bestAfter holds (some (slot.key.length, slot.value)) slots
        else bestAfter holds best slots := by
  cases best <;> rfl

/-- The best match: of the cells that `holds` accepts one with the most axes, the first of them. -/
def best {m : Type → Type} [Monad m] (holds : Slot σ α → m Bool) (table : Table σ α) :
    m (Option α) := do
  return (← bestAfter holds none table).map (·.2)

end Table

end FormulaCube
