import FormulaCube.Proofs.Computation
import FormulaCube.Run.Machine

/-!
# What computations preserve

Looking things up leaves most of the world as it is: it adds objects, and it empties what can be gone
through only once. Merging a coordinate into a dictionary changes that dictionary besides.

* `Eval.Preserves` — what holds before a computation holds after it.
* `Tolerant` — what holds of a world whatever is looked up in it; `Robust` — and whatever is recorded
  of sources.
* `Tolerant.findCell`, `Tolerant.findCube`, `Tolerant.copyOfEntries` — looking up.
* `Tolerant.mergeInput` — merging.
* `IgnoresReports` — what does not depend on what is counted and reported.
* `artifactOf_preserves`, `Tolerant.methodOf` — what comes before the code of a cell is run.
-/

namespace FormulaCube

open Run Eval

/-! ## Computations -/

namespace Eval

variable {α β : Type} {I : World → Prop}

/-- What holds before a computation holds after it, whatever it comes to. -/
def Preserves (I : World → Prop) (x : Eval α) : Prop := ∀ w, I w → I (x w).2

namespace Preserves

lemma pure (a : α) : Preserves I (pure a : Eval α) := fun _ h => h

lemma fail (f : Failure) : Preserves I (fail f : Eval α) := fun _ h => h

lemma fault (f : Fault) : Preserves I (fault f : Eval α) := fun _ h => h

lemma get : Preserves I (get : Eval World) := fun _ h => h

/-- What holds after the first step has to hold after the others. -/
lemma bind_world {x : Eval α} {f : α → Eval β} {w : World} (hx : I (x w).2)
    (hf : ∀ a w', x w = (.ok a, w') → I w' → I (f a w').2) : I ((x >>= f) w).2 := by
  rcases bind_eq x f w with ⟨a, w', hrun, hbind⟩ | ⟨e, w', hrun, hbind⟩
  · rw [hbind]
    exact hf a w' hrun (by rwa [hrun] at hx)
  · rw [hbind]
    rwa [hrun] at hx

lemma bind {x : Eval α} {f : α → Eval β} (hx : Preserves I x) (hf : ∀ a, Preserves I (f a)) :
    Preserves I (x >>= f) := fun w h => bind_world (hx w h) fun a w' _ h' => hf a w' h'

lemma attempt {x : Eval α} (hx : Preserves I x) : Preserves I x.attempt := fun w h => hx w h

lemma ofExcept (result : Except Fault α) : Preserves I (ofExcept result) := by
  cases result with
  | ok a => exact .pure a
  | error f => exact .fault f

lemma read (address : Nat) : Preserves I (read address) := by
  refine .bind .get fun w => ?_
  cases w.memory.read address with
  | some object => exact .pure object
  | none => exact .fault _

/-- What is at an address is known after it was read. -/
lemma bind_read {address : Nat} {f : Object → Eval α}
    (hf : ∀ w object, w.memory.read address = some object → I w → I (f object w).2) :
    Preserves I (Eval.read address >>= f) := by
  intro w h
  cases hread : w.memory.read address with
  | some object =>
      rw [bind_of_ok (read_of_some hread)]
      exact hf w object hread h
  | none =>
      rw [bind_of_error (read_of_none hread)]
      exact h

lemma keyOf (d : Datum) : Preserves I (keyOf d) := .bind .get fun _ => .ofExcept _

lemma mapM {f : α → Eval β} (hf : ∀ a, Preserves I (f a)) (as : List α) :
    Preserves I (as.mapM f) := by
  induction as with
  | nil =>
      rw [List.mapM_nil]
      exact .pure []
  | cons a as ih =>
      rw [List.mapM_cons]
      exact .bind (hf a) fun b => .bind ih fun bs => .pure (b :: bs)

end Preserves

/-- A computation that preserves everything leaves the world as it is. -/
lemma eq_of_preserves {x : Eval α} (hx : ∀ {I : World → Prop}, Preserves I x) {w w' : World}
    {result : Except Failure α} (h : x w = (result, w')) : w' = w := by
  have hsame := hx (I := (· = w)) w rfl
  rwa [h] at hsame

end Eval

/-! ## Looking up -/

/-- What holds of a world whatever is looked up in it. -/
structure Tolerant (I : World → Prop) : Prop where
  /-- A mark may be given. -/
  fresh : Preserves I Eval.fresh
  /-- Another object may be added. -/
  add : ∀ {w : World} (object : Object), I w → I { w with memory := (w.memory.add object).2 }
  /-- What can be gone through once may be used up. -/
  exhaust : ∀ {w : World} {address : Nat} {type : Text} {items : List Datum},
    w.memory.read address = some (.iterator type items) → I w →
      I { w with memory := w.memory.write address (.iterator type []) }
  /-- What was not there when it held may be changed. -/
  above : ∀ {w w' : World} {address : Nat} (object : Object), I w →
    w.memory.objects.size ≤ address → I w' →
      I { w' with memory := w'.memory.write address object }

/-- What holds of a world whatever is looked up in it, and whatever is recorded of sources. -/
structure Robust (I : World → Prop) : Prop extends Tolerant I where
  /-- It is about the objects, the stack and the cubes only. -/
  congr : ∀ {w w' : World}, w'.memory.objects = w.memory.objects → w'.stack = w.stack →
    w'.cubes = w.cubes → I w → I w'
  fresh := fun w h => congr (w := w) rfl rfl rfl h

namespace Tolerant

variable {I : World → Prop}

lemma newText (hI : Tolerant I) (t : Text) : Preserves I (newText t) :=
  .bind hI.fresh fun _ => .pure _

lemma newInt (hI : Tolerant I) (i : Int) : Preserves I (newInt i) :=
  .bind hI.fresh fun _ => .pure _

lemma characters (hI : Tolerant I) (t : Text) : Preserves I (characters t) :=
  .mapM (fun c => hI.newText [c]) t

lemma members (hI : Tolerant I) (d : Datum) : Preserves I (members d) := by
  cases d with
  | tuple items mark => exact .pure items
  | str t mark => exact hI.characters t
  | bytes data => exact .pure _
  | range start stop step => exact .mapM (fun place => hI.newInt _) _
  | ref address =>
      refine .bind_read fun w object hread h => ?_
      cases object with
      | iterator type items => exact hI.exhaust hread h
      | dictView part dict =>
          refine Preserves.bind (.read dict) (fun object => ?_) w h
          cases object <;> exact .pure _
      | _ => exact h
  | _ => exact .bind .get fun _ => .fault _

lemma typeName (d : Datum) : Preserves I (typeName d) := .bind .get fun _ => .pure _

lemma view (d : Datum) : Preserves I (view d) := .bind .get fun _ => .pure _

lemma same (a b : Datum) : Preserves I (same a b) := .bind .get fun _ => .pure _

lemma isAmong (item : Datum) (ds : List Datum) : Preserves I (isAmong item ds) := by
  induction ds with
  | nil => exact .pure false
  | cons d ds ih =>
      rw [Run.isAmong]
      split
      · exact .pure true
      · refine .bind (same d item) fun found => ?_
        split
        · exact .pure true
        · exact ih

lemma contains (hI : Tolerant I) (collection item : Datum) : Preserves I (contains collection item) := by
  cases collection with
  | tuple items mark => exact isAmong item items
  | str t mark =>
      cases item with
      | str needle mark => exact .pure _
      | _ => exact .bind (typeName _) fun _ => .fault _
  | range start stop step => exact .bind (hI.members _) fun items => isAmong item items
  | registry =>
      refine .bind (.keyOf item) fun _ => ?_
      cases item with
      | str name mark => exact .bind .get fun _ => .pure _
      | _ => exact .pure false
  | ref address =>
      refine .bind (.read address) fun object => ?_
      cases object with
      | list items => exact isAmong item items
      | dict entries => exact .bind (.keyOf item) fun _ => .pure _
      | set entries => exact .bind (.keyOf item) fun _ => .pure _
      | iterator type items => exact .bind (hI.members _) fun items => isAmong item items
      | dictView part dict => exact .bind (hI.members _) fun items => isAmong item items
      | _ => exact .bind (typeName _) fun _ => .fault _
  | _ => exact .bind (typeName _) fun _ => .fault _

lemma wordIndexOf? (index : Datum) : Preserves I (wordIndexOf? index) := by
  rw [Run.wordIndexOf?]
  cases indexOf? index with
  | some i =>
      dsimp only
      split
      · exact .pure _
      · exact .fault _
  | none => exact .pure none

lemma sequenceItem (type : Text) (items : List Datum) (index : Datum) :
    Preserves I (sequenceItem type items index) := by
  refine .bind (wordIndexOf? index) fun found => ?_
  cases found with
  | some i =>
      dsimp only
      cases (placeOf? i items.length).bind fun place => items[place]? with
      | some d => exact .pure d
      | none => exact .fault _
  | none => exact .bind (typeName index) fun _ => .fault _

lemma itemAt (hI : Tolerant I) (collection index : Datum) : Preserves I (itemAt collection index) := by
  cases collection with
  | tuple items mark => exact sequenceItem _ items index
  | str t mark => exact .bind (hI.characters t) fun items => sequenceItem _ items index
  | range start stop step => exact .bind (hI.members _) fun items => sequenceItem _ items index
  | ref address =>
      refine .bind (.read address) fun object => ?_
      cases object with
      | list items => exact sequenceItem _ items index
      | dict entries =>
          refine .bind (.keyOf index) fun key => ?_
          cases entries.find? key with
          | some d => exact .pure d
          | none => exact .bind (view index) fun _ => .fault _
      | _ => exact .bind (typeName _) fun _ => .fault _
  | _ => exact .bind (typeName _) fun _ => .fault _

lemma cubeRecord (number : Nat) : Preserves I (cubeRecord number) := by
  refine .bind .get fun w => ?_
  cases w.cubes[number]? with
  | some record => exact .pure record
  | none => exact .fault _

lemma cellRecord (number : Nat) : Preserves I (cellRecord number) := by
  refine .bind .get fun w => ?_
  cases w.cells[number]? with
  | some record => exact .pure record
  | none => exact .fault _

lemma agrees (hI : Tolerant I) (coordinate : Datum) (pairs : List (Datum × Datum)) :
    Preserves I (agrees coordinate pairs) := by
  induction pairs with
  | nil => exact .pure true
  | cons pair pairs ih =>
      obtain ⟨axis, value⟩ := pair
      refine .bind (hI.contains coordinate axis) fun found => ?_
      cases found with
      | true =>
          refine .bind (hI.itemAt coordinate axis) fun d => .bind (same d value) fun equal => ?_
          cases equal with
          | true => exact ih
          | false => exact .pure false
      | false => exact .pure false

lemma bestAfter {σ : Type} {holds : Slot σ Datum → Eval Bool}
    (hholds : ∀ slot, Preserves I (holds slot)) (best : Option (Nat × Datum))
    (table : Table σ Datum) : Preserves I (Table.bestAfter holds best table) := by
  induction table generalizing best with
  | nil => exact .pure best
  | cons slot table ih =>
      rw [Table.bestAfter_cons]
      split
      · exact ih best
      · refine .bind (hholds slot) fun accepted => ?_
        cases accepted with
        | true => exact ih _
        | false => exact ih best

lemma findCell (hI : Tolerant I) (cube : Nat) (coordinate : Datum) :
    Preserves I (findCell cube coordinate) := by
  refine .bind (cubeRecord cube) fun record => ?_
  refine .bind (.bind (bestAfter (fun slot => hI.agrees coordinate slot.shown) none _)
    fun _ => .pure _) fun found => ?_
  cases found with
  | some value => exact .pure value
  | none =>
      dsimp only
      cases record.default with
      | some value => exact .pure value
      | none => exact .bind (view coordinate) fun _ => .fail _

lemma nameOf (cube : Datum) : Preserves I (nameOf cube) := by
  cases cube with
  | cube number => exact .bind (cubeRecord number) fun _ => .pure _
  | _ => exact .pure []

lemma registered? (known name : Datum) : Preserves I (registered? known name) := by
  cases known with
  | none => exact .pure Option.none
  | registry =>
      refine .bind (.keyOf name) fun _ => ?_
      cases name with
      | str t mark => exact .bind .get fun _ => .pure _
      | _ => exact .pure Option.none
  | _ => exact .bind (typeName _) fun _ => .fault _

lemma findCube (s : Surroundings) (name coordinate : Datum) (kind : Text) :
    Preserves I (findCube s name coordinate kind) := by
  refine .bind (registered? s.registry name) fun found => ?_
  cases found with
  | some cube => exact .pure cube
  | none =>
      exact .bind (nameOf s.cube) fun _ => .bind (view name) fun _ =>
        .bind (view coordinate) fun _ => .fail _

lemma entriesOf? (d : Datum) : Preserves I (entriesOf? d) := by
  cases d with
  | ref address =>
      refine .bind (.read address) fun object => ?_
      cases object <;> exact .pure _
  | _ => exact .pure Option.none

lemma methodOf (cell : Nat) (s : Surroundings) : Preserves I (methodOf cell s) := by
  refine .bind (cellRecord cell) fun record => ?_
  cases record.kind with
  | expression => exact .pure _
  | methods =>
      refine .bind (entriesOf? s.input) fun found => ?_
      cases found with
      | some entries => exact .pure _
      | none => exact .bind (typeName s.input) fun _ => .fault _

lemma and {J : World → Prop} (hI : Tolerant I) (hJ : Tolerant J) :
    Tolerant fun w => I w ∧ J w where
  fresh w h := ⟨hI.fresh w h.1, hJ.fresh w h.2⟩
  add object h := ⟨hI.add object h.1, hJ.add object h.2⟩
  exhaust hread h := ⟨hI.exhaust hread h.1, hJ.exhaust hread h.2⟩
  above object h haddress h' :=
    ⟨hI.above object h.1 haddress h'.1, hJ.above object h.2 haddress h'.2⟩

end Tolerant

namespace Robust

variable {I : World → Prop}

lemma and {J : World → Prop} (hI : Robust I) (hJ : Robust J) : Robust fun w => I w ∧ J w where
  congr hobjects hstack hcubes h :=
    ⟨hI.congr hobjects hstack hcubes h.1, hJ.congr hobjects hstack hcubes h.2⟩
  add object h := ⟨hI.add object h.1, hJ.add object h.2⟩
  exhaust hread h := ⟨hI.exhaust hread h.1, hJ.exhaust hread h.2⟩
  above object h haddress h' :=
    ⟨hI.above object h.1 haddress h'.1, hJ.above object h.2 haddress h'.2⟩

lemma all {ι : Sort _} {I : ι → World → Prop} (h : ∀ i, Robust (I i)) :
    Robust fun w => ∀ i, I i w where
  congr hobjects hstack hcubes h' i := (h i).congr hobjects hstack hcubes (h' i)
  add object h' i := (h i).add object (h' i)
  exhaust hread h' i := (h i).exhaust hread (h' i)
  above object h' haddress h'' i := (h i).above object (h' i) haddress (h'' i)

lemma of_iff {J : World → Prop} (hI : Robust I) (h : ∀ w, I w ↔ J w) : Robust J :=
  (funext fun w => propext (h w) : I = J) ▸ hI

end Robust

/-! ## Objects that stay -/

section

variable {m : Memory} {address : Nat} {object : Object}

/-- An object that is not gone through once stays as it is. -/
lemma robust_read (address : Nat) (object : Object)
    (hobject : ∀ type items, object ≠ .iterator type items) :
    Robust fun w => w.memory.read address = some object where
  congr hobjects _ _ h := by
    rw [Memory.read, hobjects]
    exact h
  add other h := read_add_of_read h other
  exhaust {w other type items} hread h := by
    have hne : other ≠ address := by
      rintro rfl
      exact hobject type items (Option.some_inj.mp (h.symm.trans hread))
    exact (w.memory.read_write_of_ne _ hne).trans h
  above {w w' other} object h haddress h' := by
    have hne : other ≠ address := Nat.ne_of_gt (Nat.lt_of_lt_of_le (lt_size_of_read h) haddress)
    exact (w'.memory.read_write_of_ne _ hne).trans h'

lemma robust_stack (address : Nat) : Robust fun w => w.stack = address where
  congr _ hstack _ h := hstack.trans h
  add _ h := h
  exhaust _ h := h
  above _ _ _ h := h

lemma robust_cubes (cubes : Array CubeRecord) : Robust fun w => w.cubes = cubes where
  congr _ _ hcubes h := hcubes.trans h
  add _ h := h
  exhaust _ h := h
  above _ _ _ h := h

/-- Objects are never taken away. -/
lemma robust_size (n : Nat) : Robust fun w => n ≤ w.memory.objects.size where
  congr hobjects _ _ h := hobjects ▸ h
  add {w} object h := by
    have hsize : (w.memory.add object).2.objects.size = w.memory.objects.size + 1 :=
      Array.size_push _
    rw [hsize]
    exact Nat.le_succ_of_le h
  exhaust {w address _ _} _ h := by rwa [w.memory.size_write address]
  above {w w' address} object _ _ h := by rwa [w'.memory.size_write address]

end

/-! ## Merging -/

/-- There is a dictionary at an address. -/
def IsDict (address : Nat) (w : World) : Prop :=
  ∃ entries, w.memory.read address = some (.dict entries)

lemma robust_dict (address : Nat) (entries : Entries Datum Datum) :
    Robust fun w => w.memory.read address = some (.dict entries) :=
  robust_read address (.dict entries) fun _ _ => nofun

lemma robust_isDict (address : Nat) : Robust (IsDict address) where
  congr hobjects hstack hcubes := fun ⟨entries, h⟩ =>
    ⟨entries, (robust_dict address entries).congr hobjects hstack hcubes h⟩
  add object := fun ⟨entries, h⟩ => ⟨entries, (robust_dict address entries).add object h⟩
  exhaust hread := fun ⟨entries, h⟩ => ⟨entries, (robust_dict address entries).exhaust hread h⟩
  above := by
    rintro w w' other object ⟨entries, h⟩ haddress ⟨entries', h'⟩
    have hne : other ≠ address := Nat.ne_of_gt (Nat.lt_of_lt_of_le (lt_size_of_read h) haddress)
    exact ⟨entries', (w'.memory.read_write_of_ne _ hne).trans h'⟩

/-- The dictionary at an address may be changed. -/
def Frees (I : World → Prop) (address : Nat) : Prop :=
  ∀ w entries, I w → IsDict address w →
    I { w with memory := w.memory.write address (.dict entries) }

namespace Tolerant

variable {I : World → Prop} {address : Nat}

lemma setItem (hfree : Frees I address) (index value : Datum) :
    Preserves (fun w => I w ∧ IsDict address w) (setItem (.ref address) index value) := by
  refine .bind_read fun w object hread h => ?_
  obtain ⟨entries, hdict⟩ := h.2
  obtain rfl := Option.some_inj.mp (hdict.symm.trans hread)
  have hwrite (key : Key) : Preserves (fun w => I w ∧ IsDict address w)
      (write address (.dict (entries.insert key index value))) := by
    rintro w ⟨hw, entries', hread⟩
    exact ⟨hfree w _ hw ⟨entries', hread⟩, _,
      w.memory.read_write_self _ (lt_size_of_read hread)⟩
  exact (Preserves.bind (.keyOf index) hwrite) w h

lemma pairMembers (hI : Tolerant I) (i : Nat) (d : Datum) : Preserves I (pairMembers i d) := by
  refine .bind (.attempt (hI.members d)) fun items => ?_
  match items with
  | .error _ => exact .fault _
  | .ok [key, value] => exact .pure _
  | .ok [] | .ok [_] | .ok (_ :: _ :: _ :: _) => exact .fault _

lemma insertPairs (hI : Tolerant I) (hfree : Frees I address) (i : Nat) (ds : List Datum) :
    Preserves (fun w => I w ∧ IsDict address w) (insertPairs address i ds) := by
  induction ds generalizing i with
  | nil => exact .pure ()
  | cons d ds ih =>
      refine .bind ((hI.and (robust_isDict address).toTolerant).pairMembers i d) fun pair => ?_
      exact .bind (setItem hfree pair.1 pair.2) fun _ => ih (i + 1)

lemma updateWith (hI : Tolerant I) (hfree : Frees I address) (d : Datum) :
    Preserves (fun w => I w ∧ IsDict address w) (updateWith address d) := by
  have hboth := hI.and (robust_isDict address).toTolerant
  refine .bind (entriesOf? d) fun found => ?_
  cases found with
  | some entries =>
      dsimp only
      induction entries with
      | nil => exact .pure ()
      | cons entry entries ih => exact .bind (setItem hfree _ _) fun _ => ih
  | none => exact .bind (hboth.members d) fun items => hI.insertPairs hfree 0 items

end Tolerant

section

variable {w : World} {s : Surroundings} {address : Nat} {entries : Entries Datum Datum}

lemma mergeInput_of_dict (hinput : s.input = .ref address)
    (hread : w.memory.read address = some (.dict entries)) (coordinate : Datum) :
    mergeInput s coordinate w = updateWith address coordinate w := by
  rw [mergeInput, hinput, bind_of_ok (entriesOf?_of_read hread)]

lemma mergeInput_of_none (h : w.memory.entries? s.input = none) (coordinate : Datum) :
    ∃ e, mergeInput s coordinate w = (.error e, w) := by
  rw [mergeInput]
  rcases entriesOf?_of_none h with hnone | ⟨e, herror⟩
  · rw [bind_of_ok hnone]
    cases s.input <;> exact ⟨_, rfl⟩
  · exact ⟨e, bind_of_error herror⟩

end

namespace Tolerant

variable {I : World → Prop}

/-- Merging changes the input and nothing else that is there. -/
lemma mergeInput (hI : Tolerant I) {s : Surroundings}
    (hfree : ∀ address, s.input = .ref address → Frees I address) (coordinate : Datum) :
    Preserves I (mergeInput s coordinate) := by
  intro w h
  cases hentries : w.memory.entries? s.input with
  | some entries =>
      obtain ⟨address, hinput, hread⟩ := Memory.entries?_eq_some.mp hentries
      rw [mergeInput_of_dict hinput hread]
      exact (hI.updateWith (hfree address hinput) coordinate w ⟨h, entries, hread⟩).1
  | none =>
      obtain ⟨e, hmerge⟩ := mergeInput_of_none hentries coordinate
      rw [hmerge]
      exact h

/-- What was not there when something held can be changed. -/
lemma frees (hI : Tolerant I) {w : World} (h : I w) {address : Nat}
    (haddress : w.memory.objects.size ≤ address) : Frees I address :=
  fun _ _ h' _ => hI.above _ h haddress h'

end Tolerant

/-! ## Copies -/

section

variable {w w' : World} {d : Datum} {entries : Entries Datum Datum}
  {result : Except Failure Datum}

lemma copyOfEntries_of_dict (h : w.memory.entries? d = some entries) :
    copyOfEntries d w = (.ok (.ref w.memory.objects.size),
      { w with memory := (w.memory.add (.dict entries)).2 }) := by
  obtain ⟨address, rfl, hread⟩ := Memory.entries?_eq_some.mp h
  rw [copyOfEntries, bind_of_ok (entriesOf?_of_read hread)]
  rfl

/-- What is no dictionary is put into a new one. -/
lemma copyOfEntries_of_none (h : w.memory.entries? d = none) :
    (∃ e, copyOfEntries d w = (.error e, w)) ∨
      copyOfEntries d w = (updateWith w.memory.objects.size d >>= fun _ =>
        pure (.ref w.memory.objects.size))
          { w with memory := (w.memory.add (.dict [])).2 } := by
  rcases entriesOf?_of_none h with hnone | ⟨e, herror⟩
  · refine Or.inr ?_
    rw [copyOfEntries, bind_of_ok hnone]
    rfl
  · exact Or.inl ⟨e, bind_of_error herror⟩

/-- A copy is a new dictionary, and all else stays as it is. -/
lemma copyOfEntries_spec {I : World → Prop} (hI : Tolerant I) (h : I w)
    (hrun : copyOfEntries d w = (result, w')) :
    I w' ∧ ∀ copy, result = .ok copy → ∃ address, copy = .ref address ∧
      w.memory.objects.size ≤ address ∧ IsDict address w' := by
  cases hentries : w.memory.entries? d with
  | some entries =>
      obtain ⟨rfl, rfl⟩ := Prod.mk.inj ((copyOfEntries_of_dict hentries).symm.trans hrun)
      refine ⟨hI.add _ h, fun copy hcopy => ?_⟩
      obtain rfl := Except.ok.inj hcopy
      exact ⟨_, rfl, Nat.le_refl _, entries, w.memory.read_add_self _⟩
  | none =>
      rcases copyOfEntries_of_none hentries with ⟨e, herror⟩ | hupdate
      · obtain ⟨rfl, rfl⟩ := Prod.mk.inj (herror.symm.trans hrun)
        exact ⟨h, fun copy hcopy => nomatch hcopy⟩
      · obtain ⟨hafter, hdict⟩ := hI.updateWith (hI.frees h (Nat.le_refl _)) d _
          ⟨hI.add (.dict []) h, [], w.memory.read_add_self _⟩
        rw [hupdate] at hrun
        cases hstep : updateWith w.memory.objects.size d
            { w with memory := (w.memory.add (.dict [])).2 } with
        | mk outcome w₁ =>
            rw [hstep] at hafter hdict
            cases outcome with
            | ok _ =>
                rw [bind_of_ok hstep] at hrun
                obtain ⟨rfl, rfl⟩ := Prod.mk.inj hrun
                refine ⟨hafter, fun copy hcopy => ?_⟩
                obtain rfl := Except.ok.inj hcopy
                exact ⟨_, rfl, Nat.le_refl _, hdict⟩
            | error e =>
                rw [bind_of_error hstep] at hrun
                obtain ⟨rfl, rfl⟩ := Prod.mk.inj hrun
                exact ⟨hafter, fun copy hcopy => nomatch hcopy⟩

lemma Tolerant.copyOfEntries {I : World → Prop} (hI : Tolerant I) (d : Datum) :
    Preserves I (copyOfEntries d) := fun _ h => (copyOfEntries_spec hI h rfl).1

end

/-! ## Levels -/

section

variable {w : World} {items : List Datum}

lemma pushFrame_of_list (h : w.memory.read w.stack = some (.list items)) (frame : Datum) :
    pushFrame frame w = (.ok (),
      { w with memory := w.memory.write w.stack (.list (items ++ [frame])) }) := by
  have hget : (get : Eval World) w = (.ok w, w) := rfl
  rw [pushFrame, bind_of_ok hget, bind_of_ok (read_of_some h)]
  rfl

lemma popFrame_of_list (h : w.memory.read w.stack = some (.list items)) :
    popFrame w = { w with memory := w.memory.write w.stack (.list items.dropLast) } := by
  rw [popFrame, h]

variable {address : Nat} {object : Object}

/-- A new level changes nothing but a list. -/
lemma pushFrame_preserves (hobject : ∀ items, object ≠ .list items) (frame : Datum) :
    Preserves (fun w => w.memory.read address = some object) (pushFrame frame) := by
  intro w h
  have hget : (get : Eval World) w = (.ok w, w) := rfl
  rw [pushFrame, bind_of_ok hget]
  refine Preserves.bind_read (I := fun w => w.memory.read address = some object)
    (fun w' found hread h => ?_) w h
  cases found with
  | list items =>
      have hne : w.stack ≠ address := by
        rintro rfl
        exact hobject items (Option.some_inj.mp (h.symm.trans hread))
      exact (w'.memory.read_write_of_ne _ hne).trans h
  | _ => exact h

/-- Nor does taking a level away. -/
lemma popFrame_preserves (hobject : ∀ items, object ≠ .list items)
    (h : w.memory.read address = some object) :
    (popFrame w).memory.read address = some object := by
  rw [popFrame]
  split
  next items hread =>
    have hne : w.stack ≠ address := by
      rintro rfl
      exact hobject items (Option.some_inj.mp (h.symm.trans hread))
    exact (w.memory.read_write_of_ne _ hne).trans h
  next => exact h

end

/-! ## Compiling -/

section

variable {I : World → Prop}

lemma compilerRecord_preserves (number : Nat) : Preserves I (compilerRecord number) := by
  refine .bind .get fun w => ?_
  cases w.compilers[number]? with
  | some record => exact .pure record
  | none => exact .fault _

lemma recordsOf_preserves (compiler : Nat) : Preserves I (recordsOf compiler) :=
  .bind (compilerRecord_preserves compiler) fun _ => .bind .get fun _ => .pure _

lemma failureWords_preserves (compiler cell version : Nat) (cause : Failure) :
    Preserves I (failureWords compiler cell version cause) :=
  .bind (Tolerant.cellRecord cell) fun _ => .bind (compilerRecord_preserves compiler) fun _ =>
    .bind .get fun _ => .pure _

lemma outcomeOf_preserves (cell : Nat) (phase : Phase Artifact Failure) :
    Preserves I (outcomeOf cell phase) := by
  cases phase with
  | done outcome =>
      refine .bind (Tolerant.cellRecord cell) fun record => .bind .get fun w => ?_
      dsimp only
      split
      · exact .pure _
      · exact .fail _
  | _ => exact .fault _

end

/-- What does not depend on what compilers count, nor on what was reported. -/
structure IgnoresReports (I : World → Prop) : Prop where
  /-- Compilers may count. -/
  compilers : ∀ {w : World} (compilers : Array CompilerRecord), I w →
    I { w with compilers := compilers }
  /-- More may be reported. -/
  log : ∀ {w : World} (log : List Event), I w → I { w with log := log }

namespace IgnoresReports

variable {I : World → Prop}

lemma report (hI : IgnoresReports I) (event : Event) : Preserves I (report event) :=
  fun _ h => hI.log _ h

lemma changeCompiler (hI : IgnoresReports I) (number : Nat)
    (f : CompilerRecord → CompilerRecord) : Preserves I (changeCompiler number f) :=
  fun _ h => hI.compilers _ h

lemma jobFor (hI : IgnoresReports I) (compiler cell version : Nat) :
    Preserves I (jobFor compiler cell version) := by
  refine .bind (Tolerant.cellRecord cell) fun record => .bind (compilerRecord_preserves compiler) fun _ =>
    .bind .get fun w => ?_
  cases (w.viewCoordinate record.coordinate).formatted with
  | error reason => exact .pure _
  | ok place => exact .bind (hI.changeCompiler compiler _) fun _ => .pure _

end IgnoresReports

/-- What is handed to the back end on the way to the artifact of a cell, if anything is. -/
def toCompile (compiler cell : Nat) : Eval (Option (BackEnd × GeneratedModule)) := do
  match ← advance compiler cell 0 .start with
  | .compiling version =>
    match ← jobFor compiler cell version with
    | .error _ => return none
    | .ok job =>
      let backEnd := (← compilerRecord compiler).backEnd
      match job.module with
      | .ok module =>
        report (job.started module)
        changeCompiler compiler fun c => { c with calls := c.calls + 1 }
        return some (backEnd, module)
      | .error _ => return none
  | _ => return none

/-- The world before the back end compiles the source of a cell, and after that; none if it does not. -/
def compilation? (machine : Machine) (compiler cell : Nat) (w : World) : Option (World × World) :=
  match toCompile compiler cell w with
  | (.ok (some (backEnd, module)), w) => some (w, (machine.compile backEnd module w).2)
  | _ => none

/-- What comes after the back end answered only reports. -/
lemma IgnoresReports.finish {I : World → Prop} (hI : IgnoresReports I) (job : Job)
    (module : GeneratedModule) (result : Except Failure Artifact) :
    Preserves I (job.finish Eval.report module result) := by
  cases result with
  | ok artifact => exact .bind (hI.report _) fun _ => .pure _
  | error f =>
      rw [Job.finish]
      cases Job.failureWords f with
      | ok words => exact .bind (hI.report _) fun _ => .pure _
      | error reason => exact .pure _

/-- A compilation changes what its first and its last steps change, and what the back end changes. -/
lemma artifactOf_preserves {I : World → Prop} (hI : IgnoresReports I) {machine : Machine}
    {compiler cell : Nat} {w : World} (hstart : I (advance compiler cell 0 .start w).2)
    (hcompile : ∀ w₁ after, compilation? machine compiler cell w = some (w₁, after) →
      I w₁ → I after)
    (hend : ∀ version w₁ result w₂,
      advance compiler cell 0 .start w = (.ok (.compiling version), w₁) → I w₂ →
        I (advance compiler cell 0 (Phase.compiled version result) w₂).2) :
    I (artifactOf machine compiler cell w).2 := by
  refine Preserves.bind_world hstart fun phase w₁ hadvance h₁ => ?_
  cases phase with
  | compiling version =>
      refine Preserves.bind_world ?_ fun result w₄ _ h₄ =>
        Preserves.bind_world (hend version w₁ result w₄ hadvance h₄)
          fun phase w₅ _ h₅ => outcomeOf_preserves cell phase w₅ h₅
      refine Preserves.bind_world (hI.jobFor compiler cell version w₁ h₁) fun job w₂ hjob h₂ => ?_
      cases job with
      | error reason => exact h₂
      | ok job =>
          refine Preserves.bind_world (compilerRecord_preserves compiler w₂ h₂)
            fun record w₃ hrecord h₃ => ?_
          rw [Job.run]
          cases hmodule : job.module with
          | error f => exact h₃
          | ok module =>
              refine Preserves.bind_world (hI.report _ w₃ h₃) fun _ w₄ hreport h₄ =>
                Preserves.bind_world (Preserves.bind_world (hI.changeCompiler compiler _ w₄ h₄)
                  fun _ w₅ hcount h₅ => hcompile w₅ _ ?_ h₅)
                  fun result w₆ _ h₆ => hI.finish job module result w₆ h₆
              have hto : toCompile compiler cell w = (.ok (some (record.backEnd, module)), w₅) := by
                rw [toCompile, bind_of_ok hadvance]
                dsimp only
                rw [bind_of_ok hjob]
                dsimp only
                rw [bind_of_ok hrecord, hmodule]
                dsimp only
                rw [bind_of_ok hreport, bind_of_ok hcount]
                rfl
              rw [compilation?, hto]
  | _ => exact outcomeOf_preserves cell _ w₁ h₁

namespace Robust

variable {I : World → Prop}

lemma ignoresReports (hI : Robust I) : IgnoresReports I where
  compilers {w} _ h := hI.congr (w := w) rfl rfl rfl h
  log {w} _ h := hI.congr (w := w) rfl rfl rfl h

lemma setRecords (hI : Robust I) (compiler : Nat) (s : Records Artifact Failure) :
    Preserves I (setRecords compiler s) :=
  fun w h => hI.congr (w := w) rfl rfl rfl h

lemma advance (hI : Robust I) (compiler cell me : Nat) (phase : Phase Artifact Failure) :
    Preserves I (advance compiler cell me phase) := by
  refine .bind (Tolerant.cellRecord cell) fun record => ?_
  cases phase with
  | countingFailure version cause =>
      exact .bind (failureWords_preserves compiler cell version cause) fun words =>
        .bind (recordsOf_preserves compiler) fun s =>
          .bind (hI.setRecords compiler _) fun _ => .pure _
  | _ =>
      exact .bind (.pure (Except.ok [])) fun words => .bind (recordsOf_preserves compiler) fun s =>
        .bind (hI.setRecords compiler _) fun _ => .pure _

lemma toCompile (hI : Robust I) (compiler cell : Nat) : Preserves I (toCompile compiler cell) := by
  refine .bind (hI.advance compiler cell 0 .start) fun phase => ?_
  cases phase with
  | compiling version =>
      refine .bind (hI.ignoresReports.jobFor compiler cell version) fun job => ?_
      cases job with
      | error reason => exact .pure _
      | ok job =>
          refine .bind (compilerRecord_preserves compiler) fun record => ?_
          dsimp only
          cases job.module with
          | ok module =>
              exact .bind (hI.ignoresReports.report _) fun _ =>
                .bind (hI.ignoresReports.changeCompiler compiler _) fun _ => .pure _
          | error f => exact .pure _
  | _ => exact .pure _

lemma beforeCompilation (hI : Robust I) {machine : Machine} {compiler cell : Nat}
    {w w₁ after : World} (h : I w)
    (hcompile : compilation? machine compiler cell w = some (w₁, after)) : I w₁ := by
  have hto := hI.toCompile compiler cell w h
  rw [compilation?] at hcompile
  split at hcompile
  next heq =>
    rw [heq] at hto
    obtain ⟨rfl, -⟩ := Prod.mk.inj (Option.some_inj.mp hcompile)
    exact hto
  next => cases hcompile

/-- What comes of a source changes nothing but what the back end changes. -/
lemma artifactOf (hI : Robust I) {machine : Machine} {compiler cell : Nat} {w : World} (h : I w)
    (hcompile : ∀ w₁ after, compilation? machine compiler cell w = some (w₁, after) →
      I w₁ → I after) : I (artifactOf machine compiler cell w).2 :=
  artifactOf_preserves hI.ignoresReports (hI.advance compiler cell 0 .start w h) hcompile
    fun _ _ _ w₂ _ h₂ => hI.advance compiler cell 0 _ w₂ h₂

end Robust

end FormulaCube
