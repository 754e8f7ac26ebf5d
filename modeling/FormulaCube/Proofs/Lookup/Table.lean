import FormulaCube.Proofs.Lookup.Coordinate

/-!
# Tables and what is kept in them

A table has a slot for each coordinate at which something is kept. What is kept is described by the
coordinates themselves, without their keys: `Keeps` says that a table has what a list says.

* `Kept.set`, `Kept.remove`, `Kept.find?` — what is kept, by equal coordinates.
* `IsBest` — the match that a search has to find.
* `keeps_insert`, `keeps_erase`, `find?_eq` — the table does the same by keys.
* `bestAfter_eq`, `best_eq` — the search of a table finds the best match.
-/

namespace FormulaCube

/-! ## What is kept -/

/-- What is kept at a coordinate. -/
structure Kept where
  /-- The coordinate. -/
  axes : Axes
  /-- What is kept there. -/
  value : Datum

namespace Kept

/-- What is kept after something is set: in the place of what was kept at an equal coordinate, or at
the end. -/
def set : List Kept → Axes → Datum → List Kept
  | [], c, value => [⟨c, value⟩]
  | kept :: rest, c, value =>
    if kept.axes.same c then { kept with value := value } :: rest else kept :: set rest c value

/-- What is kept after that at an equal coordinate is removed. -/
def remove (all : List Kept) (c : Axes) : List Kept := all.eraseP fun kept => kept.axes.same c

/-- What is kept at an equal coordinate. -/
def find? (all : List Kept) (c : Axes) : Option Datum :=
  (List.find? (fun kept => kept.axes.same c) all).map (·.value)

/-- Whether something is kept at a coordinate that matches what is searched for: one all of whose axes
have equal values there. -/
def isMatch (lookup : Axes) (kept : Kept) : Bool := kept.axes.within lookup

end Kept

/-- The match that a search has to find: no match has more axes, and none before it has as many. -/
def IsBest (all : List Kept) (lookup : Axes) (kept : Kept) : Prop :=
  kept.isMatch lookup = true ∧ ∃ before after, all = before ++ kept :: after ∧
    (∀ other ∈ before, other.isMatch lookup = true → other.axes.length < kept.axes.length) ∧
      ∀ other ∈ after, other.isMatch lookup = true → other.axes.length ≤ kept.axes.length

lemma IsBest.mem {all : List Kept} {lookup : Axes} {kept : Kept} (h : IsBest all lookup kept) :
    kept ∈ all := by
  obtain ⟨-, before, after, rfl, -⟩ := h
  exact List.mem_append_right before List.mem_cons_self

/-! ## What a table keeps -/

/-- The slot of a table for what is kept at a coordinate. -/
structure Stands (m : Memory) (slot : Slot (List (Datum × Datum)) Datum) (kept : Kept) : Prop where
  /-- No two axes have one name. -/
  nodup : (kept.axes.map (·.1)).Nodup
  /-- All values are lawful. -/
  lawful : kept.axes.isLawful m = true
  /-- The key is that of the coordinate. -/
  key : slot.key = kept.axes.key
  /-- The axes are those of the coordinate. -/
  shown : ∃ marks, slot.shown = kept.axes.shown marks
  /-- What is kept. -/
  value : slot.value = kept.value

/-- What a table keeps. -/
def Keeps (m : Memory) (table : Table (List (Datum × Datum)) Datum) (all : List Kept) : Prop :=
  List.Forall₂ (Stands m) table all

variable {m : Memory} {table : Table (List (Datum × Datum)) Datum} {all : List Kept} {c : Axes}

/-- A coordinate is found by its key. -/
lemma Stands.same {slot : Slot (List (Datum × Datum)) Datum} {kept : Kept} (h : Stands m slot kept)
    (hnodup : (c.map (·.1)).Nodup) (hc : c.isLawful m = true) :
    slot.key.same c.key = kept.axes.same c := by
  rw [h.key, Axes.same_key h.nodup hnodup h.lawful hc]

/-- **Setting by key** sets at an equal coordinate. -/
lemma keeps_insert (h : Keeps m table all) (hnodup : (c.map (·.1)).Nodup)
    (hc : c.isLawful m = true) (marks : Text → Mark) (value : Datum) :
    Keeps m (table.insert c.key (c.shown marks) value) (Kept.set all c value) := by
  induction h with
  | nil => exact .cons ⟨hnodup, hc, rfl, ⟨marks, rfl⟩, rfl⟩ .nil
  | @cons slot kept table all hslot hrest ih =>
      rw [Table.insert, Kept.set, hslot.same hnodup hc]
      split
      · exact .cons { hslot with value := rfl } hrest
      · exact .cons hslot ih

/-- **Removing by key** removes at an equal coordinate. -/
lemma keeps_erase (h : Keeps m table all) (hnodup : (c.map (·.1)).Nodup)
    (hc : c.isLawful m = true) : Keeps m (table.erase c.key) (Kept.remove all c) := by
  induction h with
  | nil => exact .nil
  | @cons slot kept table all hslot hrest ih =>
      rw [Table.erase, Kept.remove, List.eraseP_cons, hslot.same hnodup hc, cond_eq_ite]
      split
      · exact hrest
      · exact .cons hslot ih

/-- **Looking up by key** finds what is kept at an equal coordinate. -/
lemma find?_eq (h : Keeps m table all) (hnodup : (c.map (·.1)).Nodup) (hc : c.isLawful m = true) :
    table.find? c.key = Kept.find? all c := by
  induction h with
  | nil => rfl
  | @cons slot kept table all hslot _ ih =>
      rw [Table.find?, Kept.find?] at ih ⊢
      rw [List.find?_cons, List.find?_cons, hslot.same hnodup hc]
      cases kept.axes.same c with
      | true => exact congrArg some hslot.value
      | false => exact ih

/-! ## Searching -/

section Search

open Run Eval

variable {w : World} {coordinate : Datum} {lookup : Axes}

lemma Stands.agrees {slot : Slot (List (Datum × Datum)) Datum} {kept : Kept}
    (h : Stands w.memory slot kept) (hlookup : HasAxes w.memory coordinate lookup)
    (hvalues : ∀ a ∈ lookup, a.2.isComparable w.memory = true) :
    agrees coordinate slot.shown w = (.ok (kept.isMatch lookup), w) := by
  obtain ⟨marks, hshown⟩ := h.shown
  have hlawful : ∀ a ∈ kept.axes.sorted, a.2.isLawful w.memory = true :=
    fun a ha => Axes.isLawful_iff.mp h.lawful a (Axes.mem_sorted.mp ha)
  have hwithin : Axes.within kept.axes.sorted lookup = kept.isMatch lookup := by
    rw [Kept.isMatch, Bool.eq_iff_iff, Axes.within_iff, Axes.within_iff]
    simp only [Axes.mem_sorted]
  rw [hshown, ← hwithin]
  exact agrees_eq marks hlookup hvalues hlawful

/-- What a search finds that has found a match before, with the number of its axes: that one if no
match has more axes, and otherwise the best match. -/
def Finds (best : Option (Nat × Datum)) (all : List Kept) (lookup : Axes)
    (found : Option (Nat × Datum)) : Prop :=
  (found = best ∧ ∀ other ∈ all, other.isMatch lookup = true →
      ∃ before ∈ best, other.axes.length ≤ before.1) ∨
    ∃ kept, IsBest all lookup kept ∧ found = some (kept.axes.length, kept.value) ∧
      ∀ before ∈ best, before.1 < kept.axes.length

/-- A match is the best one also after others that are none or have fewer axes. -/
lemma IsBest.cons {kept first : Kept} (h : IsBest all lookup kept)
    (hfirst : first.isMatch lookup = true → first.axes.length < kept.axes.length) :
    IsBest (first :: all) lookup kept := by
  obtain ⟨hmatch, before, after, rfl, hbefore, hafter⟩ := h
  exact ⟨hmatch, first :: before, after, rfl, List.forall_mem_cons.mpr ⟨hfirst, hbefore⟩, hafter⟩

/-- A slot that cannot be the best one is passed over. -/
lemma Finds.skip {best found : Option (Nat × Datum)} {first : Kept}
    (h : Finds best all lookup found)
    (hfirst : first.isMatch lookup = true → ∃ before ∈ best, first.axes.length ≤ before.1) :
    Finds best (first :: all) lookup found := by
  rcases h with ⟨hfound, hall⟩ | ⟨kept, hkept, hfound, hbest⟩
  · exact Or.inl ⟨hfound, List.forall_mem_cons.mpr ⟨hfirst, hall⟩⟩
  · refine Or.inr ⟨kept, hkept.cons fun hmatch => ?_, hfound, hbest⟩
    obtain ⟨before, hbefore, hle⟩ := hfirst hmatch
    exact Nat.lt_of_le_of_lt hle (hbest before hbefore)

/-- A match with more axes than the best one before takes its place. -/
lemma Finds.take {best found : Option (Nat × Datum)} {first : Kept}
    (h : Finds (some (first.axes.length, first.value)) all lookup found)
    (hmatch : first.isMatch lookup = true)
    (hbest : ∀ before ∈ best, before.1 < first.axes.length) :
    Finds best (first :: all) lookup found := by
  rcases h with ⟨hfound, hall⟩ | ⟨kept, hkept, hfound, hmore⟩
  · refine Or.inr ⟨first, ⟨hmatch, [], all, rfl, nofun, fun other hother hother' => ?_⟩, hfound, hbest⟩
    obtain ⟨before, hbefore, hle⟩ := hall other hother hother'
    obtain rfl := Option.some_inj.mp hbefore
    exact hle
  · have hlt := hmore _ rfl
    exact Or.inr ⟨kept, hkept.cons fun _ => hlt, hfound,
      fun before hbefore => Nat.lt_trans (hbest before hbefore) hlt⟩

/-- **The search goes through the table once** and finds the best match. -/
lemma bestAfter_eq (h : Keeps w.memory table all) (hlookup : HasAxes w.memory coordinate lookup)
    (hvalues : ∀ a ∈ lookup, a.2.isComparable w.memory = true) (best : Option (Nat × Datum)) :
    ∃ found, table.bestAfter (fun slot => agrees coordinate slot.shown) best w =
        (.ok found, w) ∧ Finds best all lookup found := by
  induction h generalizing best with
  | nil => exact ⟨best, rfl, Or.inl ⟨rfl, nofun⟩⟩
  | @cons slot kept table all hslot _ ih =>
      have hlength : slot.key.length = kept.axes.length := by rw [hslot.key, Axes.length_key]
      obtain ⟨found, hfound, hfinds⟩ := ih best
      obtain ⟨found', hfound', hfinds'⟩ := ih (some (slot.key.length, slot.value))
      rw [hlength, hslot.value] at hfinds'
      rw [Table.bestAfter_cons]
      by_cases hbeaten : ∃ before ∈ best, kept.axes.length ≤ before.1
      · have hany : best.any (fun before => slot.key.length ≤ before.1) = true := by
          obtain ⟨before, rfl, hle⟩ := hbeaten
          exact decide_eq_true (hlength ▸ hle)
        rw [if_pos hany]
        exact ⟨found, hfound, hfinds.skip fun _ => hbeaten⟩
      · have hmore : ∀ before ∈ best, before.1 < kept.axes.length :=
          fun before hbefore => Nat.lt_of_not_le fun hle => hbeaten ⟨before, hbefore, hle⟩
        have hany : ¬ best.any (fun before => slot.key.length ≤ before.1) = true := by
          cases best with
          | none => exact Bool.false_ne_true
          | some before =>
              have hlt := hmore before rfl
              rw [Option.any_some, decide_eq_true_iff, hlength]
              omega
        rw [if_neg hany, bind_of_ok (hslot.agrees hlookup hvalues)]
        cases hmatch : kept.isMatch lookup with
        | false =>
            have hnot (h : kept.isMatch lookup = true) : ∃ before ∈ best,
                kept.axes.length ≤ before.1 := by
              rw [hmatch] at h
              cases h
            exact ⟨found, hfound, hfinds.skip hnot⟩
        | true => exact ⟨found', hfound', hfinds'.take hmatch hmore⟩

/-- **A table is searched for the best match.** -/
theorem best_eq (h : Keeps w.memory table all) (hlookup : HasAxes w.memory coordinate lookup)
    (hvalues : ∀ a ∈ lookup, a.2.isComparable w.memory = true) :
    ∃ found, table.best (fun slot => agrees coordinate slot.shown) w = (.ok found, w) ∧
      match found with
      | some value => ∃ kept, IsBest all lookup kept ∧ value = kept.value
      | none => ∀ other ∈ all, other.isMatch lookup = false := by
  obtain ⟨found, hfound, hfinds⟩ := bestAfter_eq h hlookup hvalues none
  refine ⟨found.map (·.2), ?_, ?_⟩
  · rw [Table.best, bind_of_ok hfound]
    rfl
  · rcases hfinds with ⟨rfl, hnone⟩ | ⟨kept, hkept, rfl, -⟩
    · intro other hother
      rw [Bool.eq_false_iff]
      intro hmatch
      obtain ⟨before, hbefore, -⟩ := hnone other hother hmatch
      cases hbefore
    · exact ⟨kept, hkept, rfl⟩

end Search

end FormulaCube
