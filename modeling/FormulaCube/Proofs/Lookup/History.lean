import FormulaCube.Proofs.Lookup.Adoption
import FormulaCube.Proofs.Lookup.Table

/-!
# What a cube keeps over its history

A cube begins without cells. Cells are set and removed in any order, at coordinates with lawful
values, while anything may happen in between that leaves the cells of the cube alone.

* `CellCall` — a call that sets or removes; what it does to what is kept, and what it answers.
* `Lived` — a history of calls.
* `lived_keeps` — after every history the table keeps what the calls leave.
* `findCell_lived` — after every history the best match is found, or else the default, or nothing.
* `findCell_unwritten` — nothing is found, and there are no words to say so.
-/

namespace FormulaCube

open Run Eval

/-! ## Lawful things stay lawful -/

/-- Whatever can be looked up in one memory can be looked up in the other. -/
def StaysLawful (m m' : Memory) : Prop :=
  ∀ address, (Datum.ref address).isLawful m = true → (Datum.ref address).isLawful m' = true

lemma StaysLawful.refl (m : Memory) : StaysLawful m m := fun _ h => h

lemma StaysLawful.trans {m m' m'' : Memory} (h : StaysLawful m m') (h' : StaysLawful m' m'') :
    StaysLawful m m'' := fun address hlawful => h' address (h address hlawful)

mutual

theorem StaysLawful.isLawful {m m' : Memory} (h : StaysLawful m m') (d : Datum)
    (hd : d.isLawful m = true) : d.isLawful m' = true := by
  cases d with
  | tuple items mark => exact h.areLawful items hd
  | ref address => exact h address hd
  | _ => exact hd

theorem StaysLawful.areLawful {m m' : Memory} (h : StaysLawful m m') (items : List Datum)
    (hitems : Datum.areLawful m items = true) : Datum.areLawful m' items = true := by
  cases items with
  | nil => rfl
  | cons d items =>
      rw [Datum.areLawful, Bool.and_eq_true] at hitems ⊢
      exact ⟨h.isLawful d hitems.1, h.areLawful items hitems.2⟩

end

lemma StaysLawful.axes {m m' : Memory} (h : StaysLawful m m') {c : Axes}
    (hc : c.isLawful m = true) : c.isLawful m' = true :=
  Axes.isLawful_iff.mpr fun a ha => h.isLawful a.2 (Axes.isLawful_iff.mp hc a ha)

lemma StaysLawful.keeps {m m' : Memory} (h : StaysLawful m m')
    {table : Table (List (Datum × Datum)) Datum} {all : List Kept} (hkeeps : Keeps m table all) :
    Keeps m' table all :=
  hkeeps.imp fun _ _ hslot => { hslot with lawful := h.axes hslot.lawful }

/-- The objects of one memory are as they were in the other. -/
def ObjectsStay (m m' : Memory) : Prop :=
  ∀ address object, m.read address = some object → m'.read address = some object

lemma ObjectsStay.refl (m : Memory) : ObjectsStay m m := fun _ _ h => h

lemma ObjectsStay.trans {m m' m'' : Memory} (h : ObjectsStay m m') (h' : ObjectsStay m' m'') :
    ObjectsStay m m'' := fun address object hread => h' address object (h address object hread)

lemma ObjectsStay.axes {m m' : Memory} (h : ObjectsStay m m') {coordinate : Datum} {c : Axes}
    (hc : HasAxes m coordinate c) : HasAxes m' coordinate c := by
  obtain ⟨hnodup, address, marks, hcoordinate, hread⟩ := hc
  exact ⟨hnodup, address, marks, hcoordinate, h address _ hread⟩

/-! ## A new dictionary -/

section

variable {m : Memory} {entries : Entries Datum Datum} {address : Nat}

lemma isSilentClass_add (m : Memory) (entries : Entries Datum Datum) (type : Datum) :
    Datum.isSilentClass (m.add (.dict entries)).2 type = Datum.isSilentClass m type := by
  rw [Datum.isSilentClass, Datum.isSilentClass, isHashableClass_congr (class?_add m entries),
    inherited?_congr (class?_add m entries)]

lemma staysLawful_add (m : Memory) (entries : Entries Datum Datum) :
    StaysLawful m (m.add (.dict entries)).2 := by
  intro address h
  rw [Datum.isLawful] at h ⊢
  cases hread : m.read address with
  | none =>
      rw [hread] at h
      cases h
  | some object =>
      rw [hread] at h
      rw [m.read_add_of_lt _ (lt_size_of_read hread), hread]
      dsimp only at h ⊢
      unfold Object.isPlain at h ⊢
      split at h <;> first | rfl | (rw [isSilentClass_add]; exact h) | cases h

lemma objectsStay_add (m : Memory) (object : Object) : ObjectsStay m (m.add object).2 :=
  fun _ _ hread => read_add_of_read hread object

end

/-! ## Single calls -/

section

variable {w : World} {cube : Nat} {record : CubeRecord} {coordinate : Datum} {c : Axes}

/-- A cell that becomes one of a cube changes no cube, and only adds a dictionary to the memory. -/
lemma adopt_eq (h : w.cubes[cube]? = some record) (hc : HasAxes w.memory coordinate c)
    (number : Nat) : ∃ w' entries, adopt cube coordinate number w = (.ok (), w') ∧
      w'.cubes = w.cubes ∧ w'.memory = (w.memory.add (.dict entries)).2 := by
  obtain ⟨address, marks, rfl, hread⟩ := hc.dict
  exact ⟨_, c.entries marks, adopt_of_read h hread number, rfl, rfl⟩

/-- A table after a change. -/
lemma changeCube_eq (h : w.cubes[cube]? = some record) (f : CubeRecord → CubeRecord) :
    ∃ w', changeCube cube f w = (.ok (), w') ∧ w'.memory = w.memory ∧
      w'.cubes[cube]? = some (f record) := by
  refine ⟨{ w with cubes := w.cubes.modify cube f }, rfl, rfl, ?_⟩
  rw [Array.getElem?_modify, if_pos rfl, h]
  rfl

/-- What one call leaves: a cube with this table, and a memory in which the objects are as they were,
and all that is lawful stays so. -/
structure Leaves (w : World) (cube : Nat) (table : Table (List (Datum × Datum)) Datum)
    (w' : World) : Prop where
  /-- The table of the cube. -/
  table : ∃ record, w'.cubes[cube]? = some record ∧ record.table = table
  /-- The objects. -/
  objects : ObjectsStay w.memory w'.memory
  /-- What is lawful. -/
  lawful : StaysLawful w.memory w'.memory

/-- What setting a cell does once the cell is one of the cube. -/
lemma insert_eq (h : w.cubes[cube]? = some record) (hc : HasAxes w.memory coordinate c)
    (hlawful : c.isLawful w.memory = true) (value : Datum) :
    ∃ w' marks, (coordinateKey coordinate >>= fun found => changeCube cube fun r =>
        { r with table := r.table.insert found.1 found.2 value }) w = (.ok (), w') ∧
      Leaves w cube (record.table.insert c.key (c.shown marks) value) w' := by
  obtain ⟨marks, hkey⟩ := coordinateKey_eq hc hlawful
  obtain ⟨w', hchange, hmemory, hrecord⟩ := changeCube_eq h
    fun r => { r with table := r.table.insert c.key (c.shown marks) value }
  refine ⟨w', marks, ?_, ⟨_, hrecord, rfl⟩, hmemory ▸ .refl _, hmemory ▸ .refl _⟩
  rw [bind_of_ok hkey]
  exact hchange

/-- **Setting a cell** inserts it at the key of its coordinate. -/
lemma setCell_eq (h : w.cubes[cube]? = some record) (hc : HasAxes w.memory coordinate c)
    (hlawful : c.isLawful w.memory = true) (value : Datum) :
    ∃ w' marks, setCell cube coordinate value w = (.ok (), w') ∧
      Leaves w cube (record.table.insert c.key (c.shown marks) value) w' := by
  cases value with
  | cell number =>
      -- The cell is adopted first, which leaves the coordinate as it is.
      obtain ⟨w₁, entries, hadopt, hcubes, hmemory⟩ := adopt_eq h hc number
      have hlaws : StaysLawful w.memory w₁.memory := hmemory ▸ staysLawful_add w.memory entries
      have hobjects : ObjectsStay w.memory w₁.memory := hmemory ▸ objectsStay_add w.memory _
      obtain ⟨w', marks, hrun, htable, hobjects', hlaws'⟩ := insert_eq (w := w₁) (hcubes ▸ h)
        (hobjects.axes hc) (hlaws.axes hlawful) (.cell number)
      refine ⟨w', marks, ?_, htable, hobjects.trans hobjects', hlaws.trans hlaws'⟩
      rw [setCell, bind_of_ok hadopt]
      exact hrun
  | _ => exact insert_eq h hc hlawful _

lemma erase_of_find?_eq_none {table : Table (List (Datum × Datum)) Datum} {key : CoordinateKey}
    (h : table.find? key = none) : table.erase key = table := by
  induction table with
  | nil => rfl
  | cons slot table ih =>
      rw [Table.find?, Option.map_eq_none_iff, List.find?_cons] at h
      rw [Table.erase]
      cases hsame : slot.key.same key with
      | true =>
          rw [hsame] at h
          cases h
      | false =>
          rw [hsame] at h
          rw [if_neg Bool.false_ne_true, ih (Option.map_eq_none_iff.mpr h)]

/-- **Removing a cell** erases it at the key of its coordinate, and gives it back. -/
lemma removeCell_eq (h : w.cubes[cube]? = some record) (hc : HasAxes w.memory coordinate c)
    (hlawful : c.isLawful w.memory = true) :
    ∃ w', removeCell cube coordinate w = (.ok ((record.table.find? c.key).getD .none), w') ∧
      Leaves w cube (record.table.erase c.key) w' := by
  obtain ⟨marks, hsorted⟩ := sortedAxes_eq hc
  rw [removeCell, bind_of_ok hsorted, bind_of_ok (cubeRecord_of_some h)]
  by_cases hempty : record.table.isEmpty = true
  · rw [List.isEmpty_iff] at hempty
    rw [hempty]
    exact ⟨w, rfl, ⟨record, h, hempty⟩, .refl _, .refl _⟩
  · rw [if_neg hempty, bind_of_ok (pairKeys_shown marks hlawful)]
    cases hfind : record.table.find? c.key with
    | some value =>
        obtain ⟨w', hchange, hmemory, hrecord⟩ := changeCube_eq h
          fun r => { r with table := r.table.erase c.key }
        exact ⟨w', bind_of_ok hchange, ⟨_, hrecord, rfl⟩, hmemory ▸ .refl _, hmemory ▸ .refl _⟩
    | none =>
        exact ⟨w, rfl, ⟨record, h, (erase_of_find?_eq_none hfind).symm⟩, .refl _, .refl _⟩

end

/-! ## Histories -/

/-- A call that sets or removes a cell. -/
structure CellCall where
  /-- The dictionary that is given. -/
  coordinate : Datum
  /-- The coordinate that it is. -/
  axes : Axes
  /-- What is set; a call without it removes. -/
  value : Option Datum

namespace CellCall

/-- What a call does. -/
def run (cube : Nat) (call : CellCall) : Eval Datum :=
  match call.value with
  | some value => do
    setCell cube call.coordinate value
    return .none
  | none => removeCell cube call.coordinate

/-- What is kept after a call. -/
def after (all : List Kept) (call : CellCall) : List Kept :=
  match call.value with
  | some value => Kept.set all call.axes value
  | none => Kept.remove all call.axes

/-- What a call answers: what was kept, if it removes that, and otherwise no value. -/
def answer (all : List Kept) (call : CellCall) : Datum :=
  match call.value with
  | some _ => .none
  | none => (Kept.find? all call.axes).getD .none

end CellCall

/-- What is left alone by whatever else happens: the cells of the cube, and what can be looked up. -/
structure Spares (cube : Nat) (w w' : World) : Prop where
  /-- The cells. -/
  table : (w'.cubes[cube]?).map (·.table) = (w.cubes[cube]?).map (·.table)
  /-- What can be looked up. -/
  lawful : StaysLawful w.memory w'.memory

/-- A history: calls with coordinates whose values are lawful, each with its outcome and with what
is kept before it, and other things in between. -/
inductive Lived (cube : Nat) : World → List (CellCall × Except Failure Datum) → World → Prop where
  /-- Nothing happens. -/
  | nil {w : World} : Lived cube w [] w
  /-- Something else happens first. -/
  | other {w w' w'' : World} {calls : List (CellCall × Except Failure Datum)} (h : Spares cube w w')
      (hrest : Lived cube w' calls w'') : Lived cube w calls w''
  /-- A call comes first. -/
  | call {w w' w'' : World} {calls : List (CellCall × Except Failure Datum)} {call : CellCall}
      {outcome : Except Failure Datum} (haxes : HasAxes w.memory call.coordinate call.axes)
      (hlawful : call.axes.isLawful w.memory = true) (hrun : call.run cube w = (outcome, w'))
      (hrest : Lived cube w' calls w'') : Lived cube w ((call, outcome) :: calls) w''

/-- What is kept after several calls. -/
def keptAfter (all : List Kept) (calls : List (CellCall × Except Failure Datum)) : List Kept :=
  calls.foldl (fun all call => call.1.after all) all

lemma keptAfter_zip (all : List Kept) (calls : List CellCall) {outcomes : List (Except Failure Datum)}
    (h : outcomes.length = calls.length) :
    keptAfter all (calls.zip outcomes) = calls.foldl CellCall.after all := by
  induction calls generalizing all outcomes with
  | nil => rfl
  | cons call calls ih =>
      cases outcomes with
      | nil => cases h
      | cons outcome outcomes => exact ih (call.after all) (Nat.succ.inj h)

/-- Every call succeeds and answers by what is kept before it. -/
def AnswersAll : List Kept → List (CellCall × Except Failure Datum) → Prop
  | _, [] => True
  | all, (call, outcome) :: calls =>
    outcome = .ok (call.answer all) ∧ AnswersAll (call.after all) calls

/-- The table of a cube in a world keeps this. -/
def KeepsIn (w : World) (cube : Nat) (all : List Kept) : Prop :=
  ∃ record, w.cubes[cube]? = some record ∧ Keeps w.memory record.table all

variable {w w' : World} {cube : Nat} {all : List Kept}

/-- A call leaves the cube with some table. -/
lemma CellCall.leaves {record : CubeRecord} {call : CellCall} (hrecord : w.cubes[cube]? = some record)
    (haxes : HasAxes w.memory call.coordinate call.axes)
    (hlawful : call.axes.isLawful w.memory = true) :
    ∃ outcome w' table, call.run cube w = (outcome, w') ∧ Leaves w cube table w' := by
  rw [CellCall.run]
  cases call.value with
  | some value =>
      obtain ⟨w', marks, hset, hleaves⟩ := setCell_eq hrecord haxes hlawful value
      exact ⟨_, w', _, bind_of_ok hset, hleaves⟩
  | none =>
      obtain ⟨w', hremove, hleaves⟩ := removeCell_eq hrecord haxes hlawful
      exact ⟨_, w', _, hremove, hleaves⟩

/-- Any calls with coordinates that are there at first make a history, one after the other. -/
lemma exists_lived (calls : List CellCall) (hcube : w.cubes[cube]? ≠ none)
    (hcalls : ∀ call ∈ calls,
      HasAxes w.memory call.coordinate call.axes ∧ call.axes.isLawful w.memory = true) :
    ∃ outcomes w', Lived cube w (calls.zip outcomes) w' ∧ outcomes.length = calls.length ∧
      w'.cubes[cube]? ≠ none ∧ ObjectsStay w.memory w'.memory := by
  induction calls generalizing w with
  | nil => exact ⟨[], w, .nil, rfl, hcube, .refl _⟩
  | cons call calls ih =>
      obtain ⟨record, hrecord⟩ := Option.ne_none_iff_exists'.mp hcube
      obtain ⟨haxes, hlawful⟩ := hcalls call List.mem_cons_self
      obtain ⟨outcome, w₁, table, hrun, ⟨record₁, hrecord₁, -⟩, hobjects, hlaws⟩ :=
        call.leaves hrecord haxes hlawful
      obtain ⟨outcomes, w', hrest, hlength, hcube', hobjects'⟩ :=
        ih (by rw [hrecord₁]; exact Option.some_ne_none _) fun later hlater =>
          have h := hcalls later (List.mem_cons_of_mem _ hlater)
          ⟨hobjects.axes h.1, hlaws.axes h.2⟩
      exact ⟨outcome :: outcomes, w', .call haxes hlawful hrun hrest,
        congrArg Nat.succ hlength, hcube', hobjects.trans hobjects'⟩

/-- **One call** changes what the table keeps as it changes what is kept. -/
lemma keepsIn_call {call : CellCall} {outcome : Except Failure Datum} (h : KeepsIn w cube all)
    (haxes : HasAxes w.memory call.coordinate call.axes)
    (hlawful : call.axes.isLawful w.memory = true) (hrun : call.run cube w = (outcome, w')) :
    outcome = .ok (call.answer all) ∧ KeepsIn w' cube (call.after all) := by
  obtain ⟨record, hrecord, hkeeps⟩ := h
  rw [CellCall.run] at hrun
  rw [CellCall.answer, CellCall.after]
  cases hvalue : call.value with
  | some value =>
      obtain ⟨w₁, marks, hset, ⟨record₁, hrecord₁, htable⟩, _, hstays⟩ :=
        setCell_eq hrecord haxes hlawful value
      rw [hvalue] at hrun
      obtain ⟨rfl, rfl⟩ := Prod.mk.inj ((bind_of_ok hset).symm.trans hrun)
      refine ⟨rfl, record₁, hrecord₁, hstays.keeps ?_⟩
      rw [htable]
      exact keeps_insert hkeeps haxes.nodup hlawful marks value
  | none =>
      obtain ⟨w₁, hremove, ⟨record₁, hrecord₁, htable⟩, _, hstays⟩ :=
        removeCell_eq hrecord haxes hlawful
      rw [hvalue] at hrun
      obtain ⟨rfl, rfl⟩ := Prod.mk.inj (hremove.symm.trans hrun)
      refine ⟨by rw [find?_eq hkeeps haxes.nodup hlawful], record₁, hrecord₁, hstays.keeps ?_⟩
      rw [htable]
      exact keeps_erase hkeeps haxes.nodup hlawful

/-- What happens in between leaves what the table keeps. -/
lemma keepsIn_other (h : KeepsIn w cube all) (hspares : Spares cube w w') :
    KeepsIn w' cube all := by
  obtain ⟨record, hrecord, hkeeps⟩ := h
  have htable := hspares.table
  rw [hrecord, Option.map_some] at htable
  obtain ⟨record', hrecord', htable⟩ := Option.map_eq_some_iff.mp htable
  exact ⟨record', hrecord', hspares.lawful.keeps (htable ▸ hkeeps)⟩

/-- **A whole history**: every call succeeds and answers by what is kept, and in the end the table
keeps what the calls leave. -/
theorem lived_keeps {calls : List (CellCall × Except Failure Datum)} (h : Lived cube w calls w')
    (hkeeps : KeepsIn w cube all) : AnswersAll all calls ∧ KeepsIn w' cube (keptAfter all calls) := by
  induction h generalizing all with
  | nil => exact ⟨trivial, hkeeps⟩
  | other hspares _ ih => exact ih (keepsIn_other hkeeps hspares)
  | call haxes hlawful hrun _ ih =>
      obtain ⟨houtcome, hkeeps'⟩ := keepsIn_call hkeeps haxes hlawful hrun
      obtain ⟨hanswers, hleft⟩ := ih hkeeps'
      exact ⟨⟨houtcome, hanswers⟩, hleft⟩

/-! ## What is found -/

/-- What is found: what is kept at the best match, or the default of the cube where nothing matches,
or nothing where it has none. The failure of that is raised with the coordinate in words; where there are
none, the fault of the attempt comes in its place. -/
inductive Found (all : List Kept) (lookup : Axes) (record : CubeRecord) (searched : Value) :
    Except Failure Datum → Prop where
  /-- The best match. -/
  | best {kept : Kept} (h : IsBest all lookup kept) : Found all lookup record searched (.ok kept.value)
  /-- The default. -/
  | default {value : Datum} (h : ∀ kept ∈ all, kept.isMatch lookup = false)
      (hdefault : record.default = some value) : Found all lookup record searched (.ok value)
  /-- Nothing. -/
  | notFound {place : Text} (h : ∀ kept ∈ all, kept.isMatch lookup = false)
      (hdefault : record.default = none) (hplace : searched.formatted = .ok place) :
      Found all lookup record searched (.error (.notFound (record.name.getD []) searched))
  /-- Nothing, and the coordinate cannot be written. -/
  | unwritten {reason : Fault} (h : ∀ kept ∈ all, kept.isMatch lookup = false)
      (hdefault : record.default = none) (hplace : searched.formatted = .error reason) :
      Found all lookup record searched (.error (.fault reason))

/-- **A search by what is kept.** -/
lemma findCell_eq {record : CubeRecord} {coordinate : Datum} {lookup : Axes}
    (hrecord : w.cubes[cube]? = some record) (hkeeps : Keeps w.memory record.table all)
    (hlookup : HasAxes w.memory coordinate lookup)
    (hvalues : ∀ a ∈ lookup, a.2.isComparable w.memory = true) :
    ∃ result, findCell cube coordinate w = (result, w) ∧
      Found all lookup record (w.view coordinate) result := by
  obtain ⟨found, hbest, hfound⟩ := best_eq hkeeps hlookup hvalues
  rw [findCell, bind_of_ok (cubeRecord_of_some hrecord), bind_of_ok hbest]
  cases found with
  | some value =>
      obtain ⟨kept, hkept, rfl⟩ := hfound
      exact ⟨_, rfl, .best hkept⟩
  | none =>
      cases hdefault : record.default with
      | some value => exact ⟨_, rfl, .default hfound hdefault⟩
      | none =>
          refine ⟨_, rfl, ?_⟩
          cases hplace : (w.view coordinate).formatted with
          | ok place =>
              rw [Failure.notFoundAt_of_ok hplace]
              exact .notFound hfound hdefault hplace
          | error reason =>
              rw [Failure.notFoundAt, Failure.raisedWith_of_error hplace]
              exact .unwritten hfound hdefault hplace

/-- A dictionary with these axes. -/
def dictOf (c : Axes) : Object := .dict (c.entries fun _ => 0)

/-- The number two of a type of its own, which equals the integer. -/
def decimalTwo : Datum := .other "Decimal".toList (.int 2) (.ok "Decimal('2')".toList)

/-- A cube without cells, and four coordinates: `x: 1`, then `y: 2, x: 1`, then the same with the axes in
the other order and the number of the other type, and one with a further axis. -/
def overlappingWorld : World :=
  { World.empty with
    memory := .ofObjects [.list [], dictOf [(['x'], .int 1 0)], dictOf [(['y'], .int 2 0), (['x'], .int 1 0)],
      dictOf [(['x'], .int 1 0), (['y'], decimalTwo)],
      dictOf [(['x'], .int 1 0), (['y'], .int 2 0), (['z'], .int 3 0)]]
    cubes := #[⟨some ['C'], 0, false, none, []⟩] }

/-- The second coordinate is set, then the first, then the second again as the third; at last the first is
removed. -/
def overlappingCalls : List CellCall :=
  [⟨.ref 2, [(['y'], .int 2 0), (['x'], .int 1 0)], some (.int 10 0)⟩,
    ⟨.ref 1, [(['x'], .int 1 0)], some (.int 20 0)⟩,
    ⟨.ref 3, [(['x'], .int 1 0), (['y'], decimalTwo)], some (.int 30 0)⟩,
    ⟨.ref 1, [(['x'], .int 1 0)], none⟩]

/-- **Looking up over whole histories.** A cube begins without cells. After any history of calls that
set and remove cells, each of which answers by what is kept before it, a search for any coordinate
finds what is kept at the best match, or else the default of the cube, and otherwise fails: as a search
that found nothing exactly if its coordinate can be written. -/
theorem findCell_lived {calls : List (CellCall × Except Failure Datum)} {record : CubeRecord}
    {coordinate : Datum} {lookup : Axes} (hempty : (w.cubes[cube]?).map (·.table) = some [])
    (h : Lived cube w calls w') (hrecord : w'.cubes[cube]? = some record)
    (hlookup : HasAxes w'.memory coordinate lookup)
    (hvalues : ∀ a ∈ lookup, a.2.isComparable w'.memory = true) :
    AnswersAll [] calls ∧ ∃ result, findCell cube coordinate w' = (result, w') ∧
      Found (keptAfter [] calls) lookup record (w'.view coordinate) result := by
  have hkeeps : KeepsIn w cube [] := by
    obtain ⟨first, hfirst, htable⟩ := Option.map_eq_some_iff.mp hempty
    exact ⟨first, hfirst, htable ▸ .nil⟩
  obtain ⟨hanswers, record', hrecord', hleft⟩ := lived_keeps h hkeeps
  obtain rfl := Option.some_inj.mp (hrecord.symm.trans hrecord')
  exact ⟨hanswers, findCell_eq hrecord hleft hlookup hvalues⟩

/-- What was set last at an equal coordinate is found. -/
theorem findCell_lived_overlapping : ∃ outcomes w',
    Lived 0 overlappingWorld (overlappingCalls.zip outcomes) w' ∧
      (findCell 0 (.ref 4) w').1 = .ok (.int 30 0) := by
  have hcalls : ∀ call ∈ overlappingCalls,
      HasAxes overlappingWorld.memory call.coordinate call.axes ∧
        call.axes.isLawful overlappingWorld.memory = true := by
    intro call hcall
    simp only [overlappingCalls, List.mem_cons, List.not_mem_nil, or_false] at hcall
    rcases hcall with rfl | rfl | rfl | rfl <;>
      exact ⟨⟨by decide, _, fun _ => 0, rfl, rfl⟩, rfl⟩
  have hfirst : overlappingWorld.cubes[0]? ≠ none := by decide
  obtain ⟨outcomes, w', hlived, hlength, hcube, hobjects⟩ := exists_lived _ hfirst hcalls
  obtain ⟨record, hrecord⟩ := Option.ne_none_iff_exists'.mp hcube
  have hlookup : HasAxes w'.memory (.ref 4)
      [(['x'], .int 1 0), (['y'], .int 2 0), (['z'], .int 3 0)] :=
    hobjects.axes ⟨by decide, 4, fun _ => 0, rfl, rfl⟩
  obtain ⟨-, result, hfind, hfound⟩ :=
    findCell_lived rfl hlived hrecord hlookup (by simp [Datum.isComparable])
  refine ⟨outcomes, w', hlived, ?_⟩
  have hkept : overlappingCalls.foldl CellCall.after [] =
      [⟨[(['y'], .int 2 0), (['x'], .int 1 0)], .int 30 0⟩] := rfl
  rw [keptAfter_zip [] overlappingCalls hlength, hkept] at hfound
  rw [hfind]
  cases hfound with
  | best h => rw [List.mem_singleton.mp h.mem]
  | default h => exact absurd (h _ List.mem_cons_self) (by decide)
  | notFound h => exact absurd (h _ List.mem_cons_self) (by decide)
  | unwritten h => exact absurd (h _ List.mem_cons_self) (by decide)

/-- A cube without cells, and a coordinate with an integer that is too long to be written. -/
def unwrittenWorld : World :=
  { World.empty with
    memory := .ofObjects [.list [], dictOf [(['n'], .int ((10 ^ decimalLimit : Nat) : Int) 0)]]
    cubes := #[⟨some ['C'], 0, false, none, []⟩] }

/-- **A search that finds nothing may fail otherwise**, namely where its coordinate cannot be written: no
cell was ever set, and the cube has no default. -/
theorem findCell_unwritten : (unwrittenWorld.cubes[0]?).map (·.table) = some [] ∧
    HasAxes unwrittenWorld.memory (.ref 1) [(['n'], .int ((10 ^ decimalLimit : Nat) : Int) 0)] ∧
    (findCell 0 (.ref 1) unwrittenWorld).1 = .error (.fault .longInteger) := by
  refine ⟨rfl, ⟨List.pairwise_singleton _ _, 1, fun _ => 0, rfl, rfl⟩, ?_⟩
  have hfind : (findCell 0 (.ref 1) unwrittenWorld).1 =
      .error (.notFoundAt ['C'] (.dict [(.str ['n'], .long)])) := rfl
  rw [hfind, Failure.notFoundAt, Failure.raisedWith_of_error (Value.formatted_long _)]

end FormulaCube
