import FormulaCube.Proofs.Nesting.Preserving

/-!
# Code that refers to other cells

Between its references to other cells, the code of a cell looks at the world and changes it. So code is
a tree: it looks and goes on by what it sees, it changes something, it refers to another cell and goes
on by what that gives, or it ends.

* `Reference` — the three ways to refer to another cell.
* `Script` — code; `Script.run` — what it comes to.
* `Codes` — the code of artifacts.
* `locate`, `enter` — what comes before the code of a cell runs; `getCell_eq` — asking a cube.
* `LocatedAt`, `locate_spec` — what is known of a cell that was found.
-/

namespace FormulaCube

open Run Eval

/-! ## References -/

/-- How a cell refers to another one. -/
inductive Reference where
  /-- To a cell of the named cube at exactly a coordinate. -/
  | fixed (name : Datum)
  /-- To a cell of the same cube at the input with a coordinate merged into it. -/
  | relative
  /-- To a cell of the named cube at the input with a coordinate merged into it. -/
  | relativeCube (name : Datum)

namespace Reference

/-- Whether the input goes on to the other cell. -/
def isRelative : Reference → Bool
  | .fixed _ => false
  | _ => true

/-- What a reference comes to. -/
def perform (ask : Ask) (s : Surroundings) (coordinate : Datum) : Reference → Eval Datum
  | .fixed name => fixedCell ask s name coordinate
  | .relative => relativeCell ask s coordinate
  | .relativeCube name => relativeCubeCell ask s name coordinate

/-- The cube that is asked, and the coordinate at which it is. -/
def resolve (s : Surroundings) (coordinate : Datum) : Reference → Eval (Datum × Datum)
  | .fixed name => do return (← findCube s name coordinate "fixed ($)".toList, coordinate)
  | .relative => do
    mergeInput s coordinate
    match s.cube with
    | .none =>
      fail (.unresolvedAt [] (.str "<current>".toList) (← view coordinate) "relative".toList)
    | cube => return (cube, s.input)
  | .relativeCube name => do
    mergeInput s coordinate
    return (← findCube s name coordinate "relative (@)".toList, s.input)

/-- A reference resolves its target, which is then asked. -/
lemma perform_eq (ask : Ask) (s : Surroundings) (coordinate : Datum) (r : Reference) :
    r.perform ask s coordinate = r.resolve s coordinate >>= fun target =>
      askCube ask target.1 target.2 s.output := by
  cases r with
  | fixed name => rw [perform, resolve, fixedCell, bind_assoc]; rfl
  | relative =>
      rw [perform, resolve, relativeCell, bind_assoc]
      congr 1
      funext _
      cases s.cube with
      | none => rw [bind_assoc]; rfl
      | _ => rfl
  | relativeCube name =>
      rw [perform, resolve, relativeCubeCell, bind_assoc]
      congr 1
      funext _
      rw [bind_assoc]
      rfl

/-- Resolving looks things up, and merges only if the input goes on. -/
lemma resolve_preserves {I : World → Prop} (hI : Tolerant I) {s : Surroundings} {r : Reference}
    (hfree : r.isRelative = true → ∀ address, s.input = .ref address → Frees I address)
    (coordinate : Datum) : Preserves I (r.resolve s coordinate) := by
  cases r with
  | fixed name => exact .bind (Tolerant.findCube s name coordinate _) fun _ => .pure _
  | relative =>
      refine .bind (hI.mergeInput (hfree rfl) coordinate) fun _ => ?_
      cases s.cube with
      | none => exact .bind (Tolerant.view coordinate) fun _ => .fail _
      | _ => exact .pure _
  | relativeCube name =>
      exact .bind (hI.mergeInput (hfree rfl) coordinate) fun _ =>
        .bind (Tolerant.findCube s name coordinate _) fun _ => .pure _

/-- Once it has merged, a reference only looks things up. -/
lemma resolve_merged {I : World → Prop} {s : Surroundings} {r : Reference} {coordinate : Datum}
    {w w₁ : World} (hr : r.isRelative = true)
    (hmerge : mergeInput s coordinate w = (.ok (), w₁)) (h : I w₁) :
    I (r.resolve s coordinate w).2 := by
  cases r with
  | fixed name => cases hr
  | relative =>
      rw [resolve, bind_of_ok hmerge]
      cases s.cube with
      | none => exact (Preserves.bind (Tolerant.view coordinate) fun _ => .fail _) w₁ h
      | _ => exact h
  | relativeCube name =>
      rw [resolve, bind_of_ok hmerge]
      exact (Preserves.bind (Tolerant.findCube s name coordinate _) fun _ => .pure _) w₁ h

/-- A cube is asked at the input if that goes on, and otherwise at the coordinate itself. -/
lemma resolve_target {s : Surroundings} {r : Reference} {coordinate : Datum} {w w' : World}
    {target : Datum × Datum} (h : r.resolve s coordinate w = (.ok target, w')) :
    target.2 = if r.isRelative then s.input else coordinate := by
  cases r with
  | fixed name =>
      obtain ⟨cube, w₁, -, h⟩ := of_bind_ok h
      obtain rfl := Except.ok.inj (Prod.mk.inj h).1
      rfl
  | relative =>
      obtain ⟨_, w₁, -, h⟩ := of_bind_ok h
      cases hcube : s.cube with
      | none =>
          rw [hcube] at h
          obtain ⟨_, w₂, -, h⟩ := of_bind_ok h
          cases h
      | _ =>
          rw [hcube] at h
          obtain rfl := Except.ok.inj (Prod.mk.inj h).1
          rfl
  | relativeCube name =>
      obtain ⟨_, w₁, -, h⟩ := of_bind_ok h
      obtain ⟨cube, w₂, -, h⟩ := of_bind_ok h
      obtain rfl := Except.ok.inj (Prod.mk.inj h).1
      rfl

end Reference

/-! ## Code -/

/-- What the code of a cell does. -/
inductive Script (α : Type) where
  /-- It ends. -/
  | done (result : Except Failure α)
  /-- It looks at the world, and goes on by that. -/
  | look (next : World → Script α)
  /-- It changes the world. -/
  | change (f : World → World) (next : Script α)
  /-- It refers to another cell, and goes on by what that comes to. -/
  | call (reference : Reference) (coordinate : Datum) (next : Except Failure Datum → Script α)

namespace Script

variable {α : Type}

/-- What code comes to in its surroundings. -/
def run (ask : Ask) (s : Surroundings) : Script α → Eval α
  | .done result => fun w => (result, w)
  | .look next => fun w => (next w).run ask s w
  | .change f next => fun w => next.run ask s (f w)
  | .call reference coordinate next => fun w =>
    let (result, w) := reference.perform ask s coordinate w
    (next result).run ask s w

end Script

/-- The code of artifacts, by what it sees and by the method. -/
abbrev Codes := Artifact → Surroundings → (method : Datum) → Script Datum

/-! ## Asking a cube -/

/-- The input of a cell: a coordinate that is a dictionary, or a copy of it as one. -/
def inputOf (coordinate : Datum) : Eval Datum := do
  match ← entriesOf? coordinate with
  | some _ => pure coordinate
  | none => copyOfEntries coordinate

/-- A cell that was found in a cube. -/
structure Located where
  /-- The cube. -/
  record : CubeRecord
  /-- The number of the cell. -/
  cell : Nat
  /-- Its input. -/
  input : Datum
  /-- A copy of the input. -/
  snapshot : Datum

/-- What a cube has at a coordinate: a value, or a cell. -/
def locate (cube : Nat) (coordinate : Datum) : Eval (Datum ⊕ Located) := do
  match ← findCell cube coordinate with
  | .cell cell =>
    let record ← cubeRecord cube
    let input ← inputOf coordinate
    return .inr ⟨record, cell, input, ← copyOfEntries input⟩
  | value => return .inl value

/-- The surroundings of a cell of a cube. -/
def surround (cube : Nat) (record : CubeRecord) (input output : Datum) : Eval Surroundings := do
  let output ←
    match output with
    | .none => add (.dict [])
    | output => pure output
  let known := if record.hasRegistry then Datum.registry else .none
  return ⟨input, output, .ref (← get).stack, .cube cube, known⟩

/-- A cell that is about to run. -/
structure Entered where
  /-- Its compiler. -/
  compiler : Nat
  /-- Its number. -/
  cell : Nat
  /-- What it will see. -/
  surroundings : Surroundings

/-- Puts a level for a cell on the stack. -/
def Located.enter (located : Located) (cube : Nat) (output : Datum) : Eval Entered := do
  pushFrame (← add (.frame (.word (located.record.name.getD [])) located.snapshot))
  return ⟨located.record.compiler, located.cell,
    ← surround cube located.record located.input output⟩

/-- What a cube has at a coordinate: a value, or a cell that is about to run. -/
def enter (cube : Nat) (coordinate output : Datum) : Eval (Datum ⊕ Entered) := do
  match ← locate cube coordinate with
  | .inl value => return .inl value
  | .inr located => return .inr (← located.enter cube output)

/-- A computation that always succeeds may come before what ends with a change of the world. -/
lemma ensuring_bind {α β : Type} {x : Eval α} (hx : ∀ w, ∃ a w', x w = (.ok a, w'))
    (f : α → Eval β) (after : World → World) :
    ensuring (x >>= f) after = x >>= fun a => ensuring (f a) after := by
  funext w
  obtain ⟨a, w', hrun⟩ := hx w
  rw [bind_of_ok hrun]
  simp only [ensuring, bind_of_ok hrun]

lemma surround_eq (cube : Nat) (record : CubeRecord) (input output : Datum) (w : World) :
    ∃ s w', surround cube record input output w = (.ok s, w') := by
  cases output <;> exact ⟨_, _, rfl⟩

lemma surround_bind {α : Type} (cube : Nat) (record : CubeRecord) (input output : Datum)
    (f : Surroundings → Eval α) :
    surround cube record input output >>= f =
      (have known := if record.hasRegistry then Datum.registry else .none
      match output with
      | .none => do
        let output ← add (.dict [])
        f ⟨input, output, .ref (← get).stack, .cube cube, known⟩
      | output => do
        f ⟨input, output, .ref (← get).stack, .cube cube, known⟩) := by
  cases output <;> simp only [surround, bind_assoc, pure_bind]

/-- **Asking a cube**: a cell that is found runs, and its level is taken off the stack. -/
theorem getCell_eq (machine : Machine) (ask : Ask) (cube : Nat) (coordinate output : Datum) :
    getCell machine ask cube coordinate output = enter cube coordinate output >>= fun found =>
      match found with
      | .inl value => pure value
      | .inr entered =>
        ensuring (execute machine ask entered.compiler entered.cell entered.surroundings)
          popFrame := by
  have hrun (record : CubeRecord) (cell : Nat) (input : Datum) :
      ensuring (surround cube record input output >>= fun s =>
        execute machine ask record.compiler cell s) popFrame =
      surround cube record input output >>= fun s =>
        ensuring (execute machine ask record.compiler cell s) popFrame :=
    ensuring_bind (surround_eq cube record input output) _ _
  rw [getCell, enter, bind_assoc, locate, bind_assoc]
  refine bind_congr fun value => ?_
  cases value with
  | cell cell =>
      have hcode (record : CubeRecord) (input : Datum) := surround_bind cube record input output
        (execute machine ask record.compiler cell)
      simp only [bind_assoc, pure_bind, inputOf, Located.enter, ← hrun]
      refine bind_congr fun record => bind_congr fun found => ?_
      cases found with
      | some entries =>
          simp only [pure_bind]
          refine bind_congr fun snapshot => bind_congr fun frame => bind_congr fun _ => ?_
          exact congrArg (ensuring · popFrame) (hcode record coordinate).symm
      | none =>
          refine bind_congr fun input => bind_congr fun snapshot => bind_congr fun frame =>
            bind_congr fun _ => ?_
          exact congrArg (ensuring · popFrame) (hcode record input).symm
  | _ => rfl

/-! ## What is found -/

section

variable {w w' : World} {coordinate : Datum} {result : Except Failure Datum}

/-- The input of a cell is the coordinate if that is a dictionary, and otherwise a new one. -/
lemma inputOf_spec {I : World → Prop} (hI : Tolerant I) (h : I w)
    (hrun : inputOf coordinate w = (result, w')) :
    I w' ∧ ∀ input, result = .ok input →
      (w.memory.entries? coordinate ≠ none → input = coordinate) ∧
      ∃ address, input = .ref address ∧ IsDict address w' ∧
        (input = coordinate ∨ w.memory.objects.size ≤ address) := by
  rw [inputOf] at hrun
  cases hentries : w.memory.entries? coordinate with
  | some entries =>
      obtain ⟨address, rfl, hread⟩ := Memory.entries?_eq_some.mp hentries
      rw [bind_of_ok (entriesOf?_of_read hread)] at hrun
      obtain ⟨rfl, rfl⟩ := Prod.mk.inj hrun
      refine ⟨h, fun input hinput => ?_⟩
      obtain rfl := Except.ok.inj hinput
      exact ⟨fun _ => rfl, address, rfl, ⟨entries, hread⟩, Or.inl rfl⟩
  | none =>
      rcases entriesOf?_of_none hentries with hnone | ⟨e, herror⟩
      · rw [bind_of_ok hnone] at hrun
        obtain ⟨hafter, hcopy⟩ := copyOfEntries_spec hI h hrun
        refine ⟨hafter, fun input hinput => ⟨fun hdict => absurd rfl hdict, ?_⟩⟩
        obtain ⟨address, rfl, hsize, hdict⟩ := hcopy input hinput
        exact ⟨address, rfl, hdict, Or.inr hsize⟩
      · rw [bind_of_error herror] at hrun
        obtain ⟨rfl, rfl⟩ := Prod.mk.inj hrun
        exact ⟨h, fun _ hinput => nomatch hinput⟩

end

/-- What is known of a cell that was found in a cube. -/
structure LocatedAt (w : World) (cube : Nat) (coordinate : Datum) (located : Located)
    (w' : World) : Prop where
  /-- The cube. -/
  record : w'.cubes[cube]? = some located.record
  /-- A coordinate that is a dictionary is the input. -/
  given : w.memory.entries? coordinate ≠ none → located.input = coordinate
  /-- The input is a dictionary, and new unless it is the coordinate; the copy is another one, and
  new. -/
  copied : ∃ address copy entries, located.input = .ref address ∧ located.snapshot = .ref copy ∧
    (located.input = coordinate ∨ w.memory.objects.size ≤ address) ∧ address < copy ∧
    w.memory.objects.size ≤ copy ∧ w'.memory.read address = some (.dict entries) ∧
    w'.memory.read copy = some (.dict entries)

lemma cubeRecord_of_ok {w w' : World} {cube : Nat} {record : CubeRecord}
    (h : cubeRecord cube w = (.ok record, w')) : w' = w ∧ w.cubes[cube]? = some record := by
  obtain ⟨_, _, hget, h⟩ := of_bind_ok h
  obtain ⟨hworld, rfl⟩ := Prod.mk.inj hget
  obtain rfl := Except.ok.inj hworld
  cases hcube : w.cubes[cube]? with
  | none =>
      rw [hcube] at h
      cases h
  | some found =>
      rw [hcube] at h
      obtain ⟨hfound, rfl⟩ := Prod.mk.inj h
      exact ⟨rfl, congrArg some (Except.ok.inj hfound)⟩

/-- **What is found** in a cube. -/
theorem locate_spec {w w' : World} {cube : Nat} {coordinate : Datum} {located : Located}
    (h : locate cube coordinate w = (.ok (.inr located), w')) :
    LocatedAt w cube coordinate located w' := by
  obtain ⟨value, w₁, hfind, h⟩ := of_bind_ok h
  cases value with
  | cell cell =>
      obtain ⟨record, w₂, hcube, h⟩ := of_bind_ok h
      obtain ⟨input, w₃, hinput, h⟩ := of_bind_ok h
      obtain ⟨snapshot, w₄, hcopy, h⟩ := of_bind_ok h
      obtain ⟨hlocated, rfl⟩ := Prod.mk.inj h
      obtain rfl := Sum.inr.inj (Except.ok.inj hlocated)
      obtain ⟨rfl, hrecord⟩ := cubeRecord_of_ok hcube
      -- Nothing that was there is lost on the way, and the cubes stay the same.
      have hsize : w.memory.objects.size ≤ w₂.memory.objects.size := by
        have h := (robust_size w.memory.objects.size).findCell cube coordinate w (Nat.le_refl _)
        rwa [hfind] at h
      obtain ⟨⟨hsize', hcubes⟩, hspec⟩ := inputOf_spec
        ((robust_size w.memory.objects.size).and (robust_cubes w₂.cubes)).toTolerant ⟨hsize, rfl⟩
        hinput
      obtain ⟨hgiven, address, rfl, ⟨entries, hread⟩, hnew⟩ := hspec input rfl
      obtain ⟨hsnapshot, rfl⟩ := Prod.mk.inj
        ((copyOfEntries_of_dict (Memory.entries?_eq_some.mpr ⟨address, rfl, hread⟩)).symm.trans
          hcopy)
      obtain rfl := Except.ok.inj hsnapshot
      refine ⟨(congrArg (·[cube]?) hcubes).trans hrecord, fun hdict => hgiven ?_, address, _,
        entries, rfl, rfl, hnew.imp_right (Nat.le_trans hsize), lt_size_of_read hread, hsize',
        read_add_of_read hread _, w₃.memory.read_add_self _⟩
      obtain ⟨entries, hentries⟩ := Option.ne_none_iff_exists'.mp hdict
      obtain ⟨other, rfl, hother⟩ := Memory.entries?_eq_some.mp hentries
      have h := (robust_dict other entries).findCell cube (.ref other) w hother
      rw [hfind] at h
      rw [Memory.entries?_eq_some.mpr ⟨other, rfl, h⟩]
      exact Option.some_ne_none _
  | _ => exact nomatch h

/-! ## What is entered -/

section

variable {I : World → Prop} {w w' : World} {cube : Nat} {record : CubeRecord}
  {coordinate input output : Datum}

lemma Tolerant.inputOf (hI : Tolerant I) (coordinate : Datum) : Preserves I (inputOf coordinate) :=
  fun _ h => (inputOf_spec hI h rfl).1

lemma Tolerant.locate (hI : Tolerant I) (cube : Nat) (coordinate : Datum) :
    Preserves I (locate cube coordinate) := by
  refine .bind (hI.findCell cube coordinate) fun value => ?_
  cases value with
  | cell cell =>
      exact .bind (cubeRecord cube) fun record => .bind (hI.inputOf coordinate) fun input =>
        .bind (hI.copyOfEntries input) fun snapshot => .pure _
  | _ => exact .pure _

lemma Tolerant.surround (hI : Tolerant I) (cube : Nat) (record : CubeRecord) (input output : Datum) :
    Preserves I (surround cube record input output) := by
  have hadd : Preserves I (Eval.add (.dict [])) := fun w h => hI.add (.dict []) h
  cases output with
  | none => exact .bind hadd fun _ => .bind .get fun _ => .pure _
  | _ => exact fun _ h => h

lemma surround_spec {s : Surroundings}
    (h : surround cube record input output w = (.ok s, w')) :
    s.input = input ∧ s.stack = .ref w'.stack := by
  cases output with
  | none | _ =>
      obtain ⟨hs, rfl⟩ := Prod.mk.inj h
      obtain rfl := Except.ok.inj hs
      exact ⟨rfl, rfl⟩

/-- Either a cell is found, and entered, or there is none. -/
lemma enter_cases (w : World) (cube : Nat) (coordinate output : Datum) :
    (∃ located w₁, locate cube coordinate w = (.ok (.inr located), w₁) ∧
      enter cube coordinate output w =
        (located.enter cube output >>= fun entered => pure (.inr entered)) w₁) ∨
    ∃ result, enter cube coordinate output w = (result, (locate cube coordinate w).2) ∧
      ∀ entered, result ≠ .ok (.inr entered) := by
  rw [enter]
  rcases hlocate : locate cube coordinate w with ⟨result, w₁⟩
  match result with
  | .ok (.inr located) => exact Or.inl ⟨located, w₁, rfl, bind_of_ok hlocate⟩
  | .ok (.inl value) => exact Or.inr ⟨_, bind_of_ok hlocate, nofun⟩
  | .error e => exact Or.inr ⟨_, bind_of_error hlocate, nofun⟩

/-- A cell that was entered sees its input. -/
lemma Located.enter_input {located : Located} {entered : Entered}
    (h : located.enter cube output w = (.ok entered, w')) :
    entered.surroundings.input = located.input := by
  obtain ⟨frame, w₁, hframe, h⟩ := of_bind_ok h
  obtain ⟨_, w₂, hpush, h⟩ := of_bind_ok h
  obtain ⟨s, w₃, hsurround, h⟩ := of_bind_ok h
  obtain rfl := Except.ok.inj (Prod.mk.inj h).1
  exact (surround_spec hsurround).1

end

end FormulaCube
