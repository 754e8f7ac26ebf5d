import FormulaCube.Proofs.Computation
import FormulaCube.Run.Inspection

/-!
# How a cell becomes one of a cube

Something is kept in a cube by the key of its coordinate. Forming the key may fail in two places: the
axes are put in order, and then the axes and values are looked up. A cell takes its new identity
before that, so it has it also where the call fails and no cube keeps the cell.

* `World.identity?` — the identity of a cell, which is what it answers (`cellAttribute?_identity`).
* `World.slotKey` — the key of a coordinate, or why it has none.
* `SetAt` — a table after something was set.
* `World.adopting` — a world in which a cell has a new identity.
* `setCell_of_not_cell` — anything but a cell is set, or nothing happens at all.
* `setCell_identity` — a cell has its new identity either way; `setCell_identity_ne` — also where it had
  another one and the call fails.
-/

namespace FormulaCube

open Run Eval

/-! ## Identities -/

/-- The name of a cube with a coordinate behind it, if that can be written. -/
def identityText (name : Text) (coordinate : Value) : Except Fault Text :=
  coordinate.formatted.map fun place => name ++ '[' :: (place ++ [']'])

/-- The identity of a cell: the name of its cube with its coordinate. -/
def World.identity? (w : World) (number : Nat) : Option (Except Fault Text) :=
  w.cells[number]?.map fun cell => identityText cell.cube (w.viewCoordinate cell.coordinate)

/-- The identity is what a cell answers when it is asked for it. -/
lemma cellAttribute?_identity {w : World} {number : Nat} {version : Version Artifact Failure}
    {identity : Except Fault Text} (hversion : w.currentVersion? number = some version)
    (h : w.identity? number = some identity) :
    (cellAttribute? number "identity" w).1 =
      (identity.map fun text => some (.ofText text w.memory.fresh.1)).mapError .fault := by
  have hget : (get : Eval World) w = (.ok w, w) := rfl
  obtain ⟨cell, hcell, rfl⟩ := Option.map_eq_some_iff.mp h
  rw [cellAttribute?, bind_of_ok (cellRecord_of_some hcell), bind_of_ok hget, hversion, identityText]
  cases (w.viewCoordinate cell.coordinate).formatted <;> rfl

/-! ## The key of a coordinate -/

/-- The axes and values of a coordinate, in the order of the axes. Axes that are no texts may have no
order. -/
def World.sortedPairs (w : World) (entries : Entries Datum Datum) :
    Except Fault (List (Datum × Datum)) := do
  let sorted ← sortEntries (entries.map fun entry => (w.view entry.2.1, (entry.2.1, entry.2.2)))
  return sorted.map (·.2)

/-- The keys of axes and values, one after the other. What can be changed has no key. -/
def Memory.pairKeys (m : Memory) : List (Datum × Datum) → Except Fault CoordinateKey
  | [] => return []
  | (axis, value) :: pairs => do
    let axisKey ← axis.key m
    let valueKey ← value.key m
    return (axisKey, valueKey) :: (← pairKeys m pairs)

/-- The key of a coordinate, and how the coordinate is shown; or why there is no key. -/
def World.slotKey (w : World) (entries : Entries Datum Datum) :
    Except Fault (CoordinateKey × List (Datum × Datum)) := do
  let pairs ← w.sortedPairs entries
  return (← w.memory.pairKeys pairs, pairs)

section

variable {w : World} {address : Nat} {entries : Entries Datum Datum}

lemma sortedAxes_reads (h : w.memory.read address = some (.dict entries)) :
    Reads (sortedAxes (.ref address)) w (w.sortedPairs entries) := by
  have hget : (get : Eval World) w = (.ok w, w) := rfl
  rw [Reads, sortedAxes, bind_of_ok (entriesOf?_of_read h)]
  refine (bind_of_ok hget).trans ?_
  exact (Reads.ofExcept _ w).bind fun _ => .of_ok rfl

lemma pairKeys_reads (pairs : List (Datum × Datum)) (w : World) :
    Reads (pairKeys pairs) w (w.memory.pairKeys pairs) := by
  induction pairs with
  | nil => exact .of_ok rfl
  | cons pair pairs ih =>
      exact (Reads.keyOf pair.1 w).bind fun axisKey => (Reads.keyOf pair.2 w).bind fun valueKey =>
        ih.bind fun _ => .of_ok rfl

/-- **The key of a coordinate** is formed without a change of the world. -/
lemma coordinateKey_reads (h : w.memory.read address = some (.dict entries)) :
    Reads (coordinateKey (.ref address)) w (w.slotKey entries) :=
  (sortedAxes_reads h).bind fun pairs => (pairKeys_reads pairs w).bind fun _ => .of_ok rfl

end

/-! ## Tables -/

/-- A table in which a value was set at a coordinate: it stands in the place of what was kept at an equal
one, or after everything else. All other cells stay as they are and where they are. -/
inductive SetAt {σ α : Type} (table : Table σ α) (key : CoordinateKey) (shown : σ) (value : α) :
    Table σ α → Prop where
  /-- There was an equal coordinate, the first of the table. -/
  | replaced {before after : Table σ α} {slot : Slot σ α} (htable : table = before ++ slot :: after)
      (hbefore : ∀ other ∈ before, other.key.same key = false) (hslot : slot.key.same key = true) :
      SetAt table key shown value (before ++ { slot with value := value } :: after)
  /-- There was none. -/
  | appended (hnew : ∀ other ∈ table, other.key.same key = false) :
      SetAt table key shown value (table ++ [⟨key, shown, value⟩])

lemma setAt_insert {σ α : Type} (table : Table σ α) (key : CoordinateKey) (shown : σ) (value : α) :
    SetAt table key shown value (table.insert key shown value) := by
  induction table with
  | nil => exact .appended nofun
  | cons slot table ih =>
      rw [Table.insert]
      cases hslot : slot.key.same key with
      | true => exact show SetAt _ _ _ _ ([] ++ _ :: table) from .replaced rfl nofun hslot
      | false =>
          rw [if_neg Bool.false_ne_true]
          generalize Table.insert table key shown value = table' at ih
          cases ih with
          | replaced htable hbefore hequal =>
              exact .replaced (congrArg (slot :: ·) htable)
                (List.forall_mem_cons.mpr ⟨hslot, hbefore⟩) hequal
          | appended hnew => exact .appended (List.forall_mem_cons.mpr ⟨hslot, hnew⟩)

/-! ## One of several -/

lemma modify_modify {α : Type} (xs : Array α) (i : Nat) (f g : α → α) :
    (xs.modify i f).modify i g = xs.modify i (g ∘ f) := by
  rw [← Array.toList_inj, Array.toList_modify, Array.toList_modify, Array.toList_modify,
    List.modify_modify_eq]

lemma modify_congr {α : Type} {xs : Array α} {i : Nat} {x : α} (h : xs[i]? = some x) {f g : α → α}
    (hfg : f x = g x) : xs.modify i f = xs.modify i g := by
  refine Array.ext_getElem? fun j => ?_
  rw [Array.getElem?_modify, Array.getElem?_modify]
  split
  · next hij => rw [← hij, h, Option.map_some, Option.map_some, hfg]
  · rfl

/-! ## Setting -/

/-- A world in which a cell has taken the name of a cube and a coordinate with these entries, of which it
has a copy of its own. -/
def World.adopting (w : World) (name : Text) (entries : Entries Datum Datum) (number : Nat) : World :=
  { w with
    cells := w.cells.modify number ({ · with cube := name, coordinate := entries })
    memory := (w.memory.add (.dict entries)).2 }

section

variable {w : World} {cube address number : Nat} {record : CubeRecord} {entries : Entries Datum Datum}

/-- A copy of a coordinate is a new dictionary. -/
lemma coordinateCopy_of_read (h : w.memory.read address = some (.dict entries)) :
    coordinateCopy (.ref address) w =
      (.ok entries, { w with memory := (w.memory.add (.dict entries)).2 }) := by
  have hadd : copyOfEntries (.ref address) w = (.ok (.ref w.memory.objects.size),
      { w with memory := (w.memory.add (.dict entries)).2 }) := by
    rw [copyOfEntries, bind_of_ok (entriesOf?_of_read h)]
    rfl
  rw [coordinateCopy, bind_of_ok hadd, bind_of_ok (entriesOf?_of_read (w.memory.read_add_self _))]
  rfl

lemma adopt_of_read (hcube : w.cubes[cube]? = some record)
    (hread : w.memory.read address = some (.dict entries)) (number : Nat) :
    adopt cube (.ref address) number w =
      (.ok (), w.adopting (record.name.getD []) entries number) := by
  have hchange (f : CellRecord → CellRecord) (w : World) :
      changeCell number f w = (.ok (), { w with cells := w.cells.modify number f }) := rfl
  have hcopy := coordinateCopy_of_read (w := { w with
    cells := w.cells.modify number ({ · with cube := record.name.getD [] }) }) hread
  rw [adopt, bind_of_ok (cubeRecord_of_some hcube), bind_of_ok (hchange _ w), bind_of_ok hcopy,
    hchange, modify_modify, World.adopting]
  rfl

/-- What happens once a cell is one of the cube, and with anything else at once: the key is formed, and
by it the value is kept. -/
lemma keep_eq (hread : w.memory.read address = some (.dict entries)) (value : Datum) :
    (coordinateKey (.ref address) >>= fun found => changeCube cube fun r =>
        { r with table := r.table.insert found.1 found.2 value }) w =
      match w.slotKey entries with
      | .ok (key, shown) => (.ok (), { w with
          cubes := w.cubes.modify cube fun r => { r with table := r.table.insert key shown value } })
      | .error fault => (.error (.fault fault), w) := by
  have hkey := coordinateKey_reads hread
  cases hslot : w.slotKey entries with
  | error fault =>
      rw [hslot] at hkey
      exact bind_of_error hkey
  | ok found =>
      rw [hslot] at hkey
      exact bind_of_ok hkey

/-- **Anything but a cell** is set as a whole, or nothing happens. -/
lemma setCell_of_not_cell (hread : w.memory.read address = some (.dict entries)) {value : Datum}
    (hvalue : ∀ number, value ≠ .cell number) :
    setCell cube (.ref address) value w =
      match w.slotKey entries with
      | .ok (key, shown) => (.ok (), { w with
          cubes := w.cubes.modify cube fun r => { r with table := r.table.insert key shown value } })
      | .error fault => (.error (.fault fault), w) := by
  rw [← keep_eq hread value]
  cases value with
  | cell number => exact absurd rfl (hvalue number)
  | _ => rfl

end

/-! ## Setting a cell -/

/-- What setting a cell comes to: the cell has its new identity, and it is kept at the coordinate if that
has a key, and nowhere otherwise. -/
inductive CellSet (w : World) (cube : Nat) (record : CubeRecord) (entries : Entries Datum Datum)
    (number : Nat) : Except Failure Unit → World → Prop where
  /-- The cell is kept. -/
  | kept {key : CoordinateKey} {shown : List (Datum × Datum)}
      {table : Table (List (Datum × Datum)) Datum}
      (hkey : (w.adopting (record.name.getD []) entries number).slotKey entries = .ok (key, shown))
      (htable : SetAt record.table key shown (.cell number) table) :
      CellSet w cube record entries number (.ok ())
        { w.adopting (record.name.getD []) entries number with
          cubes := w.cubes.modify cube ({ · with table := table }) }
  /-- The coordinate has no key. -/
  | failed {fault : Fault}
      (hkey : (w.adopting (record.name.getD []) entries number).slotKey entries = .error fault) :
      CellSet w cube record entries number (.error (.fault fault))
        (w.adopting (record.name.getD []) entries number)

section

variable {w w' : World} {cube address number : Nat} {record : CubeRecord} {cell : CellRecord}
  {entries : Entries Datum Datum} {outcome : Except Failure Unit}

/-- A cell is kept as anything else is, but in the world in which it has been adopted. -/
lemma setCell_cell_eq (hcube : w.cubes[cube]? = some record)
    (hread : w.memory.read address = some (.dict entries)) (number : Nat) :
    setCell cube (.ref address) (.cell number) w =
      match (w.adopting (record.name.getD []) entries number).slotKey entries with
      | .ok (key, shown) => (.ok (), { w.adopting (record.name.getD []) entries number with
          cubes := w.cubes.modify cube
            ({ · with table := record.table.insert key shown (.cell number) }) })
      | .error fault =>
        (.error (.fault fault), w.adopting (record.name.getD []) entries number) := by
  have hread' : (w.adopting (record.name.getD []) entries number).memory.read address =
      some (.dict entries) := read_add_of_read hread _
  rw [setCell, bind_of_ok (adopt_of_read hcube hread number)]
  refine (keep_eq hread' _).trans ?_
  cases (w.adopting (record.name.getD []) entries number).slotKey entries with
  | error fault => rfl
  | ok found =>
      have hcubes : w.cubes.modify cube (fun r =>
            { r with table := r.table.insert found.1 found.2 (.cell number) }) =
          w.cubes.modify cube
            ({ · with table := record.table.insert found.1 found.2 (.cell number) }) :=
        modify_congr hcube rfl
      dsimp only
      rw [← hcubes]
      rfl

lemma setCell_of_error {fault : Fault} (hcube : w.cubes[cube]? = some record)
    (hread : w.memory.read address = some (.dict entries))
    (hkey : (w.adopting (record.name.getD []) entries number).slotKey entries = .error fault) :
    setCell cube (.ref address) (.cell number) w =
      (.error (.fault fault), w.adopting (record.name.getD []) entries number) := by
  rw [setCell_cell_eq hcube hread, hkey]

lemma setCell_cell (hcube : w.cubes[cube]? = some record)
    (hread : w.memory.read address = some (.dict entries)) (number : Nat) :
    ∃ outcome w', setCell cube (.ref address) (.cell number) w = (outcome, w') ∧
      CellSet w cube record entries number outcome w' := by
  rw [setCell_cell_eq hcube hread]
  cases hkey : (w.adopting (record.name.getD []) entries number).slotKey entries with
  | error fault => exact ⟨_, _, rfl, .failed hkey⟩
  | ok found => exact ⟨_, _, rfl, .kept hkey (setAt_insert _ _ _ _)⟩

namespace CellSet

/-- Whatever setting a cell comes to, that cell has its new identity and the others stay as they are. -/
lemma cells (h : CellSet w cube record entries number outcome w') :
    w'.cells = w.cells.modify number
      ({ · with cube := record.name.getD [], coordinate := entries }) := by
  cases h <;> rfl

lemma identity? (h : CellSet w cube record entries number outcome w')
    (hcell : w.cells[number]? = some cell) :
    w'.identity? number =
      some (identityText (record.name.getD []) (w'.viewCoordinate entries)) := by
  rw [World.identity?, h.cells, Array.getElem?_modify, if_pos rfl, hcell]
  rfl

/-- The cells are as before exactly if the cell had that identity before. -/
lemma cells_eq_iff (h : CellSet w cube record entries number outcome w')
    (hcell : w.cells[number]? = some cell) :
    w'.cells = w.cells ↔ cell.cube = record.name.getD [] ∧ cell.coordinate = entries := by
  have hnew : w'.cells[number]? =
      some { cell with cube := record.name.getD [], coordinate := entries } := by
    rw [h.cells, Array.getElem?_modify, if_pos rfl, hcell]
    rfl
  constructor
  · intro heq
    rw [heq, hcell, Option.some_inj] at hnew
    rw [hnew]
    exact ⟨rfl, rfl⟩
  · rintro ⟨hname, hcoordinate⟩
    refine Array.ext_getElem? fun j => ?_
    rw [h.cells, Array.getElem?_modify]
    split
    · next hj => rw [← hj, hcell, Option.map_some, ← hname, ← hcoordinate]
    · rfl

end CellSet

/-- A coordinate with a list on its axis. -/
def unhashableEntries : Entries Datum Datum := [(.str ['a'], .str ['a'] 0, .ref 1)]

/-- A coordinate whose axes are a number and a text. -/
def unorderableEntries : Entries Datum Datum :=
  [(.int 1, .int 1 0, .int 1 0), (.str ['a'], .str ['a'] 0, .int 2 0)]

/-- A cube without cells, a cell of no cube, and the two coordinates, which have no key. -/
def unkeyedWorld : World :=
  { World.empty with
    memory := .ofObjects [.list [], .list [], .dict unhashableEntries, .dict unorderableEntries]
    cubes := #[⟨some ['P'], 0, false, none, []⟩]
    cells := #[⟨[], [], .expression, 0⟩] }

lemma slotKey_unhashable :
    (unkeyedWorld.adopting ['P'] unhashableEntries 0).slotKey unhashableEntries =
      .error (.unhashable "list".toList) := by
  have hsorted : (unkeyedWorld.adopting ['P'] unhashableEntries 0).sortedPairs unhashableEntries =
      .ok [(.str ['a'] 0, .ref 1)] := by
    have hsort : sortEntries [(Value.str ['a'], (Datum.str ['a'] 0, Datum.ref 1))] =
        .ok [(.str ['a'], (.str ['a'] 0, .ref 1))] := by
      simp [sortEntries, asText?]
    exact congrArg (Except.map (List.map Prod.snd)) hsort
  rw [World.slotKey, hsorted]
  rfl

lemma slotKey_unorderable :
    (unkeyedWorld.adopting ['P'] unorderableEntries 0).slotKey unorderableEntries =
      .error (.unorderable "<".toList "str".toList "int".toList) := rfl

end

end FormulaCube
