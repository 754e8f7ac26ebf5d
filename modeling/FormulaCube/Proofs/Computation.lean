import Mathlib.Logic.Basic
import Mathlib.Tactic.Lemma
import FormulaCube.Run.Cubes

/-!
# Memories and the steps of a computation

An object stays where it is while others are added, and dictionaries may change without any class being
another one. What can be looked up is then looked up as before.

* `Memory.entries?` — the entries of a dictionary.
* `Memory.class?` — the class at an address.
* `AgreesUpToDicts` — two memories that differ in dictionaries only; `AgreesUpToDicts.key_of_ok`.

A computation takes a world and gives a result and a world. The lemmas of the second part say what one
step of it gives, so that a computation can be followed step by step.

* `Eval.bind_of_ok`, `Eval.bind_of_error` — what comes after a step that succeeds or fails.
* `Eval.bind_eq`, `Eval.of_bind_ok` — a sequence, taken apart.
* `Eval.keyOf_of_ok`, `Eval.read_of_some` — the steps of looking up.
* `Eval.Reads` — a computation that leaves the world as it is and may fault.
* `entriesOf?_of_read`, `entriesOf?_of_none` — whether something is a dictionary.
* `cubeRecord_of_some`, `cellRecord_of_some` — the cubes and cells that there are.
-/

namespace FormulaCube

section

variable {m m' : Memory} {address : Nat} {object : Object}

/-! ## Objects that are there -/

lemma lt_size_of_read (h : m.read address = some object) : address < m.objects.size :=
  (Array.getElem?_eq_some_iff.mp h).1

lemma read_add_of_read (h : m.read address = some object) (other : Object) :
    (m.add other).2.read address = some object := by
  rw [m.read_add_of_lt other (lt_size_of_read h), h]

/-- Beside a new object everything stays. -/
lemma read_add_cases (m : Memory) (object : Object) (address : Nat) :
    (m.add object).2.read address = m.read address ∨
      m.read address = none ∧ (m.add object).2.read address = some object := by
  rcases Nat.lt_trichotomy address m.objects.size with hlt | rfl | hlt
  · exact Or.inl (m.read_add_of_lt object hlt)
  · exact Or.inr ⟨Array.getElem?_eq_none (Nat.le_refl _), m.read_add_self object⟩
  · refine Or.inl ?_
    have hsize : (m.add object).2.objects.size = m.objects.size + 1 := Array.size_push _
    rw [Memory.read, Memory.read, Array.getElem?_eq_none (Nat.le_of_lt hlt),
      Array.getElem?_eq_none (by rw [hsize]; omega)]

/-! ## Dictionaries -/

/-- The entries of a dictionary in the memory, if it is one. -/
def Memory.entries? (m : Memory) : Datum → Option (Entries Datum Datum)
  | .ref address =>
    match m.read address with
    | some (.dict entries) => some entries
    | _ => none
  | _ => none

lemma Memory.entries?_eq_some {d : Datum} {entries : Entries Datum Datum} :
    m.entries? d = some entries ↔ ∃ address, d = .ref address ∧
      m.read address = some (.dict entries) := by
  constructor
  · intro h
    cases d with
    | ref address =>
        refine ⟨address, rfl, ?_⟩
        rw [Memory.entries?] at h
        split at h
        next hread => rw [hread, Option.some_inj.mp h]
        next => cases h
    | _ => cases h
  · rintro ⟨address, rfl, hread⟩
    rw [Memory.entries?, hread]

/-! ## Classes -/

/-- The class at an address. -/
def Memory.class? (m : Memory) (address : Nat) : Option ClassRecord :=
  match m.read address with
  | some (.classRecord c) => some c
  | _ => none

/-- Where the classes are the same, so is what they extend and have. -/
lemma inherited?_congr (h : ∀ address, m'.class? address = m.class? address) (type : Datum)
    (name : Text) : Datum.inherited? m' type name = Datum.inherited? m type name := by
  have hclass {α : Type} (f : ClassRecord → α) (z : α) (m : Memory) (address : Nat) :
      (match m.read address with
        | some (.classRecord c) => f c
        | _ => z) = ((m.class? address).map f).getD z := by
    rw [Memory.class?]
    cases m.read address with
    | none => rfl
    | some object => cases object <;> rfl
  have hown (type : Datum) :
      (match type with
        | .ref address =>
          match m'.read address with
          | some (.classRecord c) => c.members.lookup name
          | _ => none
        | _ => none) =
        match type with
        | .ref address =>
          match m.read address with
          | some (.classRecord c) => c.members.lookup name
          | _ => none
        | _ => none := by
    cases type with
    | ref address =>
        have h' := hclass (fun c => c.members.lookup name) none
        exact (h' m' address).trans ((h address).symm ▸ (h' m address).symm)
    | _ => rfl
  have hancestors :
      (match type with
        | .ref address =>
          match m'.read address with
          | some (.classRecord c) => c.ancestors
          | _ => []
        | _ => []) =
        match type with
        | .ref address =>
          match m.read address with
          | some (.classRecord c) => c.ancestors
          | _ => []
        | _ => [] := by
    cases type with
    | ref address =>
        have h' := hclass (fun c => c.ancestors) []
        exact (h' m' address).trans ((h address).symm ▸ (h' m address).symm)
    | _ => rfl
  exact congrArg₂ (fun own ancestors => List.findSome? own (type :: ancestors)) (funext hown)
    hancestors

lemma isHashableClass_congr (h : ∀ address, m'.class? address = m.class? address) (type : Datum) :
    Datum.isHashableClass m' type = Datum.isHashableClass m type := by
  rw [Datum.isHashableClass, Datum.isHashableClass, inherited?_congr h]

/-- A new dictionary is no class. -/
lemma class?_add (m : Memory) (entries : Entries Datum Datum) (address : Nat) :
    (m.add (.dict entries)).2.class? address = m.class? address := by
  rw [Memory.class?, Memory.class?]
  rcases read_add_cases m (.dict entries) address with hread | ⟨hnone, hread⟩
  · rw [hread]
  · rw [hread, hnone]

/-! ## Other entries -/

/-- Two memories that differ in the entries of dictionaries only. -/
def AgreesUpToDicts (m m' : Memory) : Prop :=
  ∀ address, m'.read address = m.read address ∨ ∃ entries entries',
    m.read address = some (.dict entries) ∧ m'.read address = some (.dict entries')

namespace AgreesUpToDicts

lemma write {entries : Entries Datum Datum} (h : m.read address = some (.dict entries))
    (entries' : Entries Datum Datum) : AgreesUpToDicts m (m.write address (.dict entries')) := by
  intro other
  by_cases hother : address = other
  · subst hother
    exact Or.inr ⟨entries, entries', h, m.read_write_self _ (lt_size_of_read h)⟩
  · exact Or.inl (m.read_write_of_ne _ hother)

lemma class? (h : AgreesUpToDicts m m') (address : Nat) : m'.class? address = m.class? address := by
  rw [Memory.class?, Memory.class?]
  rcases h address with hsame | ⟨entries, entries', hread, hread'⟩
  · rw [hsame]
  · rw [hread, hread']

mutual

/-- **What can be looked up is looked up as before.** -/
theorem key_of_ok (h : AgreesUpToDicts m m') (d : Datum) {k : Key} (hk : d.key m = .ok k) :
    d.key m' = .ok k := by
  cases d with
  | tuple items mark =>
      rw [Datum.key] at hk ⊢
      cases hkeys : Datum.keys m items with
      | error f =>
          rw [hkeys] at hk
          cases hk
      | ok ks =>
          rw [h.keys_of_ok items hkeys]
          rw [hkeys] at hk
          exact hk
  | ref address =>
      rw [Datum.key] at hk ⊢
      rcases h address with hsame | ⟨entries, entries', hread, hread'⟩
      · rw [hsame]
        cases hread : m.read address with
        | none =>
            rw [hread] at hk
            exact hk
        | some object =>
            rw [hread] at hk
            dsimp only at hk ⊢
            have hhashable : Datum.isHashable m' object = Datum.isHashable m object := by
              cases object <;> simp only [Datum.isHashable, isHashableClass_congr h.class?]
            rw [hhashable]
            split at hk
            · rwa [if_pos ‹_›]
            · cases hk
      · rw [hread] at hk
        cases hk
  | _ => exact hk

theorem keys_of_ok (h : AgreesUpToDicts m m') (items : List Datum) {ks : List Key}
    (hks : Datum.keys m items = .ok ks) : Datum.keys m' items = .ok ks := by
  cases items with
  | nil => exact hks
  | cons item items =>
      rw [Datum.keys] at hks ⊢
      cases hk : item.key m with
      | error f =>
          rw [hk] at hks
          cases hks
      | ok k =>
          rw [h.key_of_ok item hk]
          rw [hk] at hks
          dsimp only at hks ⊢
          cases hrest : Datum.keys m items with
          | error f =>
              rw [hrest] at hks
              cases hks
          | ok ks' =>
              rw [h.keys_of_ok items hrest]
              rw [hrest] at hks
              exact hks

end

end AgreesUpToDicts

end

/-! ## Steps -/

namespace Eval

variable {α β : Type} {x : Eval α} {f : α → Eval β} {w w' : World} {a : α} {e : Failure}

lemma bind_of_ok (h : x w = (.ok a, w')) : (x >>= f) w = f a w' := by
  simp only [bind, ExceptT.bind, ExceptT.mk, StateT.bind, h]
  rfl

lemma bind_of_error (h : x w = (.error e, w')) : (x >>= f) w = (.error e, w') := by
  simp only [bind, ExceptT.bind, ExceptT.mk, StateT.bind, h]
  rfl

/-- A sequence is its first step and, if that succeeds, what comes after. -/
lemma bind_eq (x : Eval α) (f : α → Eval β) (w : World) :
    (∃ a w', x w = (.ok a, w') ∧ (x >>= f) w = f a w') ∨
      ∃ e w', x w = (.error e, w') ∧ (x >>= f) w = (.error e, w') := by
  cases h : x w with
  | mk result w' =>
      cases result with
      | ok a => exact Or.inl ⟨a, w', rfl, bind_of_ok h⟩
      | error e => exact Or.inr ⟨e, w', rfl, bind_of_error h⟩

/-- A sequence that succeeds is made of steps that do. -/
lemma of_bind_ok {b : β} (h : (x >>= f) w = (.ok b, w')) :
    ∃ a w₁, x w = (.ok a, w₁) ∧ f a w₁ = (.ok b, w') := by
  rcases bind_eq x f w with ⟨a, w₁, hrun, hbind⟩ | ⟨e, w₁, hrun, hbind⟩
  · exact ⟨a, w₁, hrun, hbind.symm.trans h⟩
  · cases hbind.symm.trans h

lemma ofExcept_of_ok {result : Except Fault α} (h : result = .ok a) (w : World) :
    ofExcept result w = (.ok a, w) := by
  rw [h]
  rfl

/-- A computation that leaves the world as it is, and comes to a result or a fault. -/
def Reads (x : Eval α) (w : World) (result : Except Fault α) : Prop :=
  x w = (result.mapError .fault, w)

lemma Reads.of_ok (h : x w = (.ok a, w)) : Reads x w (.ok a) := h

lemma Reads.bind {result : Except Fault α} {g : α → Except Fault β} (h : Reads x w result)
    (hrest : ∀ a, Reads (f a) w (g a)) : Reads (x >>= f) w (result >>= g) := by
  cases result with
  | error fault => exact bind_of_error h
  | ok a => exact (bind_of_ok h).trans (hrest a)

lemma Reads.ofExcept (result : Except Fault α) (w : World) : Reads (ofExcept result) w result := by
  cases result <;> rfl

lemma Reads.keyOf (d : Datum) (w : World) : Reads (keyOf d) w (d.key w.memory) := by
  have hget : (get : Eval World) w = (.ok w, w) := rfl
  rw [Reads, Eval.keyOf, bind_of_ok hget]
  exact Reads.ofExcept _ w

lemma keyOf_of_ok {d : Datum} {k : Key} (h : d.key w.memory = .ok k) :
    keyOf d w = (.ok k, w) := by
  have hreads := Reads.keyOf d w
  rw [h] at hreads
  exact hreads

lemma read_of_some {address : Nat} {object : Object} (h : w.memory.read address = some object) :
    read address w = (.ok object, w) := by
  have hget : (get : Eval World) w = (.ok w, w) := rfl
  rw [read, bind_of_ok hget, h]
  rfl

lemma read_of_none {address : Nat} (h : w.memory.read address = none) :
    read address w = (.error (.fault (.typeMisuse "no object".toList)), w) := by
  have hget : (get : Eval World) w = (.ok w, w) := rfl
  rw [read, bind_of_ok hget, h]
  rfl

end Eval

open Eval Run

section

variable {w : World} {d : Datum} {address : Nat} {entries : Entries Datum Datum}

lemma entriesOf?_of_read (h : w.memory.read address = some (.dict entries)) :
    entriesOf? (.ref address) w = (.ok (some entries), w) := by
  rw [entriesOf?, bind_of_ok (read_of_some h)]
  rfl

/-- What is no dictionary has no entries. -/
lemma entriesOf?_of_none (h : w.memory.entries? d = none) :
    entriesOf? d w = (.ok none, w) ∨ ∃ e, entriesOf? d w = (.error e, w) := by
  cases d with
  | ref address =>
      cases hread : w.memory.read address with
      | some object =>
          refine Or.inl ?_
          rw [entriesOf?, bind_of_ok (read_of_some hread)]
          cases object with
          | dict entries =>
              rw [Memory.entries?, hread] at h
              cases h
          | _ => rfl
      | none => exact Or.inr ⟨_, bind_of_error (read_of_none hread)⟩
  | _ => exact Or.inl rfl

end

section

variable {w : World} {number : Nat}

lemma cubeRecord_of_some {record : CubeRecord} (h : w.cubes[number]? = some record) :
    cubeRecord number w = (.ok record, w) := by
  have hget : (get : Eval World) w = (.ok w, w) := rfl
  rw [cubeRecord, bind_of_ok hget, h]
  rfl

lemma cellRecord_of_some {record : CellRecord} (h : w.cells[number]? = some record) :
    cellRecord number w = (.ok record, w) := by
  have hget : (get : Eval World) w = (.ok w, w) := rfl
  rw [cellRecord, bind_of_ok hget, h]
  rfl

end

end FormulaCube
