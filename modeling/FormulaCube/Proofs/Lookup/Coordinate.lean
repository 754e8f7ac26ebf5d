import Mathlib.Data.Char
import Mathlib.Data.List.Forall2
import Mathlib.Data.List.Lex
import Mathlib.Data.List.Perm.Subperm
import FormulaCube.Proofs.Computation
import FormulaCube.Proofs.Lookup.Equality
import FormulaCube.Run.Cubes

/-!
# Coordinates

A coordinate has values on axes, in some order. A table keeps it by its key, in which the axes stand
in order; two coordinates have one key exactly if they have equal values on the same axes.

* `Axes` — a coordinate; `Axes.within`, `Axes.same` — how coordinates compare.
* `HasAxes` — a dictionary in the memory that is a coordinate.
* `coordinateKey_eq` — the key by which a coordinate is kept.
* `same_keyOf` — when two coordinates have one key.
-/

namespace FormulaCube

/-! ## The order of texts -/

namespace Text

lemma less_iff_lt (s t : Text) : less s t = true ↔ s < t := by
  induction s generalizing t with
  | nil => cases t <;> simp [less]
  | cons c s ih =>
      cases t with
      | nil => simp [less]
      | cons d t =>
          rw [less, List.cons_lt_cons_iff]
          by_cases hcd : c = d
          · subst hcd
            simp [ih]
          · have hlt : c.toNat < d.toNat ↔ c < d := Iff.rfl
            rw [if_neg hcd, decide_eq_true_iff, hlt]
            exact ⟨Or.inl, fun h => h.elim id fun h => absurd h.1 hcd⟩

/-- The order by which axes are sorted. -/
lemma not_less_iff_le (s t : Text) : (!less t s) = true ↔ s ≤ t := by
  rw [Bool.not_eq_true', ← Bool.not_eq_true, less_iff_lt, not_lt]

end Text

/-! ## Coordinates and how they compare -/

/-- A coordinate: what it has on its axes, in any order. -/
abbrev Axes := List (Text × Datum)

namespace Axes

/-- Whether another coordinate has an equal value on every axis of this one. -/
def within (c other : Axes) : Bool := c.all fun a => other.any fun b => b.1 == a.1 && b.2.equal a.2

/-- Whether two coordinates have the same axes, with equal values on them. -/
def same (c other : Axes) : Bool := c.length == other.length && c.within other

/-- The axes in order. -/
def sorted (c : Axes) : Axes := c.mergeSort fun a b => !Text.less b.1 a.1

/-- Whether all values are lawful. -/
def isLawful (m : Memory) (c : Axes) : Bool := c.all fun a => a.2.isLawful m

/-- The key by which a coordinate is kept. -/
def key (c : Axes) : CoordinateKey := c.sorted.map fun a => (.str a.1, a.2.plainKey)

/-- The entries of a dictionary with these axes. A text may have come about at any time. -/
def entries (marks : Text → Mark) (c : Axes) : Entries Datum Datum :=
  c.map fun a => (.str a.1, .str a.1 (marks a.1), a.2)

/-- The axes as a table shows them. -/
def shown (marks : Text → Mark) (c : Axes) : List (Datum × Datum) :=
  c.sorted.map fun a => (.str a.1 (marks a.1), a.2)

variable {c other : Axes} {m m' : Memory}

lemma within_iff : c.within other = true ↔
    ∀ a ∈ c, ∃ b ∈ other, b.1 = a.1 ∧ b.2.equal a.2 = true := by
  simp only [within, List.all_eq_true, List.any_eq_true, Bool.and_eq_true, beq_iff_eq]

lemma perm_sorted (c : Axes) : c.sorted.Perm c := List.mergeSort_perm c _

lemma length_sorted (c : Axes) : c.sorted.length = c.length := (perm_sorted c).length_eq

lemma mem_sorted {a : Text × Datum} : a ∈ c.sorted ↔ a ∈ c := (perm_sorted c).mem_iff

/-- The names of the axes are in order. -/
lemma pairwise_sorted (c : Axes) : (c.sorted.map (·.1)).Pairwise (· ≤ ·) := by
  have htrans (a b c : Text × Datum) (hab : (!Text.less b.1 a.1) = true)
      (hbc : (!Text.less c.1 b.1) = true) : (!Text.less c.1 a.1) = true := by
    rw [Text.not_less_iff_le] at hab hbc ⊢
    exact le_trans hab hbc
  have htotal (a b : Text × Datum) : (!Text.less b.1 a.1 || !Text.less a.1 b.1) = true := by
    rw [Bool.or_eq_true, Text.not_less_iff_le, Text.not_less_iff_le]
    exact le_total a.1 b.1
  rw [List.pairwise_map]
  exact (List.pairwise_mergeSort htrans htotal c).imp fun h => (Text.not_less_iff_le _ _).mp h

/-- Axes with equal values, in one order. -/
def Alike (a b : Text × Datum) : Prop := a.1 = b.1 ∧ b.2.equal a.2 = true

/-- Coordinates whose axes stand in one order are the same if they are so axis by axis. -/
lemma alike_of_within (hnodup : (c.map (·.1)).Nodup) (hnodup' : (other.map (·.1)).Nodup)
    (hnames : c.map (·.1) = other.map (·.1)) (h : c.within other = true) :
    List.Forall₂ Alike c other := by
  rw [within_iff] at h
  induction c generalizing other with
  | nil =>
      obtain rfl := List.map_eq_nil_iff.mp hnames.symm
      exact .nil
  | cons a c ih =>
      cases other with
      | nil => cases hnames
      | cons b other =>
          rw [List.map_cons, List.nodup_cons] at hnodup hnodup'
          obtain ⟨hname, hnames⟩ := List.cons.inj hnames
          refine .cons ⟨hname, ?_⟩ (ih hnodup.2 hnodup'.2 hnames fun a' ha' => ?_)
          · obtain ⟨b', hb', hname', hequal⟩ := h a List.mem_cons_self
            rcases List.mem_cons.mp hb' with rfl | hb'
            · exact hequal
            · refine absurd (List.mem_map.mpr ⟨b', hb', ?_⟩) hnodup'.1
              exact hname'.trans hname
          · obtain ⟨b', hb', hname', hequal⟩ := h a' (List.mem_cons_of_mem _ ha')
            rcases List.mem_cons.mp hb' with rfl | hb'
            · refine absurd (List.mem_map.mpr ⟨a', ha', ?_⟩) hnodup.1
              exact hname'.symm.trans hname.symm
            · exact ⟨b', hb', hname', hequal⟩

lemma within_of_alike (h : List.Forall₂ Alike c other) : c.within other = true := by
  rw [within_iff]
  induction h with
  | nil => exact fun a ha => absurd ha List.not_mem_nil
  | @cons a b c other hab _ ih =>
      intro a' ha'
      rcases List.mem_cons.mp ha' with rfl | ha'
      · exact ⟨b, List.mem_cons_self, hab.1.symm, hab.2⟩
      · obtain ⟨b', hb', h⟩ := ih a' ha'
        exact ⟨b', List.mem_cons_of_mem _ hb', h⟩

lemma within_sorted (c other : Axes) : c.sorted.within other.sorted = c.within other := by
  rw [Bool.eq_iff_iff, within_iff, within_iff]
  simp only [mem_sorted]

lemma nodup_sorted (h : (c.map (·.1)).Nodup) : (c.sorted.map (·.1)).Nodup :=
  ((perm_sorted c).map _).nodup_iff.mpr h

/-- The names of the axes of coordinates that are the same stand in one order. -/
lemma names_sorted (h : (c.map (·.1)).Nodup) (hsame : c.same other = true) :
    c.sorted.map (·.1) = other.sorted.map (·.1) := by
  rw [same, Bool.and_eq_true, beq_iff_eq, within_iff] at hsame
  obtain ⟨hlength, hwithin⟩ := hsame
  have hsubset : c.map (·.1) ⊆ other.map (·.1) := fun name hname => by
    obtain ⟨a, ha, rfl⟩ := List.mem_map.mp hname
    obtain ⟨b, hb, hnames, -⟩ := hwithin a ha
    exact List.mem_map.mpr ⟨b, hb, hnames⟩
  have hperm : (c.map (·.1)).Perm (other.map (·.1)) :=
    (List.subperm_of_subset h hsubset).perm_of_length_le (by simp [hlength])
  have hsorted : (c.sorted.map (·.1)).Perm (other.sorted.map (·.1)) :=
    ((perm_sorted c).map _).trans (hperm.trans ((perm_sorted other).map _).symm)
  exact hsorted.eq_of_pairwise (fun a b _ _ hab hba => le_antisymm hab hba) (pairwise_sorted c)
    (pairwise_sorted other)

/-- **Two coordinates are the same exactly if they are so axis by axis**, the axes being in order. -/
lemma same_iff (h : (c.map (·.1)).Nodup) (h' : (other.map (·.1)).Nodup) :
    c.same other = true ↔ List.Forall₂ Alike c.sorted other.sorted := by
  constructor
  · intro hsame
    have hwithin := hsame
    rw [same, Bool.and_eq_true, ← within_sorted] at hwithin
    exact alike_of_within (nodup_sorted h) (nodup_sorted h') (names_sorted h hsame) hwithin.2
  · intro halike
    have hlength := halike.length_eq
    rw [length_sorted, length_sorted] at hlength
    rw [same, Bool.and_eq_true, beq_iff_eq, ← within_sorted]
    exact ⟨hlength, within_of_alike halike⟩

/-! ## Keys -/

lemma equal_comm {a b : Datum} (ha : a.isLawful m = true) (hb : b.isLawful m' = true) :
    a.equal b = b.equal a := by
  rw [Bool.eq_iff_iff, ← Datum.plainKey_eq_iff a b ha hb, ← Datum.plainKey_eq_iff b a hb ha]
  exact eq_comm

lemma same_keys (hc : ∀ a ∈ c, a.2.isLawful m = true) (hother : ∀ b ∈ other, b.2.isLawful m' = true) :
    CoordinateKey.same (c.map fun a => (.str a.1, a.2.plainKey))
      (other.map fun b => (.str b.1, b.2.plainKey)) = true ↔ List.Forall₂ Alike c other := by
  induction c generalizing other with
  | nil =>
      cases other with
      | nil => exact iff_of_true rfl .nil
      | cons b other => exact iff_of_false Bool.false_ne_true fun h => nomatch h
  | cons a c ih =>
      cases other with
      | nil => exact iff_of_false Bool.false_ne_true fun h => nomatch h
      | cons b other =>
          have ha := hc a List.mem_cons_self
          have hb := hother b List.mem_cons_self
          have hname : Key.same (.str a.1) (.str b.1) = true ↔ a.1 = b.1 := by
            simp [Key.same, Key.decide, Key.hasNan]
          rw [List.map_cons, List.map_cons, CoordinateKey.same, Bool.and_eq_true, Bool.and_eq_true,
            hname, Datum.same_plainKey ha hb, equal_comm ha hb, List.forall₂_cons,
            ih (fun a' ha' => hc a' (List.mem_cons_of_mem _ ha'))
              fun b' hb' => hother b' (List.mem_cons_of_mem _ hb')]
          exact Iff.rfl

lemma isLawful_iff : c.isLawful m = true ↔ ∀ a ∈ c, a.2.isLawful m = true := List.all_eq_true

/-- **Two coordinates have one key exactly if they are the same.** -/
theorem same_key (h : (c.map (·.1)).Nodup) (h' : (other.map (·.1)).Nodup)
    (hc : c.isLawful m = true) (hother : other.isLawful m' = true) :
    CoordinateKey.same c.key other.key = c.same other := by
  rw [isLawful_iff] at hc hother
  rw [Bool.eq_iff_iff, same_iff h h', key, key]
  exact same_keys (fun a ha => hc a (mem_sorted.mp ha)) fun b hb => hother b (mem_sorted.mp hb)

lemma length_key (c : Axes) : c.key.length = c.length := by
  rw [key, List.length_map, length_sorted]

end Axes

/-! ## Coordinates in the memory -/

/-- A dictionary in the memory that has exactly these axes, with these values. -/
structure HasAxes (m : Memory) (coordinate : Datum) (c : Axes) : Prop where
  /-- No two axes have one name. -/
  nodup : (c.map (·.1)).Nodup
  /-- The entries of the dictionary. -/
  dict : ∃ address marks, coordinate = .ref address ∧
    m.read address = some (.dict (c.entries marks))

/-- Entries whose keys are texts are sorted by these texts. -/
lemma sortEntries_texts {α : Type} (f : Text × Datum → α) (c : Axes) :
    sortEntries (c.map fun a => (Value.str a.1, f a)) =
      .ok (c.sorted.map fun a => (Value.str a.1, f a)) := by
  have htexts : (c.map fun a => (Value.str a.1, f a)).mapM
      (fun entry => (asText? entry.1).map (·, entry)) =
        some (c.map fun a => (a.1, (Value.str a.1, f a))) := by
    induction c with
    | nil => rfl
    | cons a c ih =>
        rw [List.map_cons, List.mapM_cons, ih]
        rfl
  have hsorted : (c.map fun a => (a.1, (Value.str a.1, f a))).mergeSort
      (fun a b => !Text.less b.1 a.1) = c.sorted.map fun a => (a.1, (Value.str a.1, f a)) :=
    (List.map_mergeSort (f := fun a : Text × Datum => (a.1, (Value.str a.1, f a)))
      fun a _ b _ => rfl).symm
  rw [sortEntries, htexts]
  dsimp only
  rw [hsorted, List.map_map]
  rfl

namespace Run

open Eval

variable {w : World} {coordinate : Datum} {c : Axes}

/-- The axes of a dictionary in the memory, in order. -/
lemma sortedAxes_eq (h : HasAxes w.memory coordinate c) :
    ∃ marks, sortedAxes coordinate w = (.ok (c.shown marks), w) := by
  obtain ⟨address, marks, rfl, hread⟩ := h.dict
  refine ⟨marks, ?_⟩
  have hget : (get : Eval World) w = (.ok w, w) := rfl
  have hviews : (c.entries marks).map (fun entry => (w.view entry.2.1, (entry.2.1, entry.2.2))) =
      c.map fun a => (Value.str a.1, (Datum.str a.1 (marks a.1), a.2)) := by
    rw [Axes.entries, List.map_map]
    rfl
  rw [sortedAxes, bind_of_ok (entriesOf?_of_read hread)]
  dsimp only
  rw [bind_of_ok hget, bind_of_ok (ofExcept_of_ok (by rw [hviews, sortEntries_texts]) w)]
  rw [Axes.shown, List.map_map]
  rfl

/-- The keys of axes and values. -/
lemma pairKeys_eq (marks : Text → Mark) (h : ∀ a ∈ c, a.2.isLawful w.memory = true) :
    pairKeys (c.map fun a => (.str a.1 (marks a.1), a.2)) w =
      (.ok (c.map fun a => (.str a.1, a.2.plainKey)), w) := by
  induction c with
  | nil => rfl
  | cons a c ih =>
      have haxis : keyOf (.str a.1 (marks a.1)) w = (.ok (.str a.1), w) := keyOf_of_ok rfl
      have hvalue : keyOf a.2 w = (.ok a.2.plainKey, w) :=
        keyOf_of_ok (Datum.key_eq a.2 (h a List.mem_cons_self))
      have hrest := ih fun b hb => h b (List.mem_cons_of_mem _ hb)
      rw [List.map_cons, pairKeys, bind_of_ok haxis, bind_of_ok hvalue, bind_of_ok hrest]
      rfl

/-- The keys of a coordinate, whose axes are in order. -/
lemma pairKeys_shown (marks : Text → Mark) (hc : c.isLawful w.memory = true) :
    pairKeys (c.shown marks) w = (.ok c.key, w) :=
  pairKeys_eq marks fun a ha => Axes.isLawful_iff.mp hc a (Axes.mem_sorted.mp ha)

/-- **The key by which a coordinate is kept.** -/
theorem coordinateKey_eq (h : HasAxes w.memory coordinate c) (hc : c.isLawful w.memory = true) :
    ∃ marks, coordinateKey coordinate w = (.ok (c.key, c.shown marks), w) := by
  obtain ⟨marks, hsorted⟩ := sortedAxes_eq h
  refine ⟨marks, ?_⟩
  rw [coordinateKey, bind_of_ok hsorted, bind_of_ok (pairKeys_shown marks hc)]
  rfl

/-! ## Searching -/

/-- What a dictionary has on an axis. -/
lemma find?_entries (marks : Text → Mark) (c : Axes) (name : Text) :
    Entries.find? (c.entries marks) (.str name) = (c.find? fun a => a.1 == name).map (·.2) := by
  rw [Entries.find?, Axes.entries, List.find?_map, Option.map_map]
  have hname : (fun a : Text × Datum => (Key.str a.1).same (.str name)) = fun a => a.1 == name := by
    funext a
    simp [Key.same, Key.decide, Key.hasNan]
  have hcomp : ((fun entry : Key × Datum × Datum => entry.1.same (.str name)) ∘
      fun a : Text × Datum => (Key.str a.1, Datum.str a.1 (marks a.1), a.2)) =
        fun a => a.1 == name := hname
  rw [hcomp]
  rfl

/-- On an axis there is one value. -/
lemma any_eq {lookup : Axes} (h : (lookup.map (·.1)).Nodup) (name : Text) (p : Datum → Bool) :
    (lookup.any fun b => b.1 == name && p b.2) =
      ((lookup.find? fun b => b.1 == name).map (·.2)).any p := by
  induction lookup with
  | nil => rfl
  | cons b lookup ih =>
      rw [List.map_cons, List.nodup_cons] at h
      rw [List.any_cons, List.find?_cons]
      by_cases hname : b.1 = name
      · have hrest : (lookup.any fun b => b.1 == name && p b.2) = false := by
          rw [List.any_eq_false]
          intro b' hb' hboth
          rw [Bool.and_eq_true, beq_iff_eq] at hboth
          exact h.1 (List.mem_map.mpr ⟨b', hb', hboth.1.trans hname.symm⟩)
        simp [hname, hrest]
      · have hne : (b.1 == name) = false := beq_eq_false_iff_ne.mpr hname
        rw [hne, Bool.false_and, Bool.false_or, ih h.2]

/-- **Whether what is searched for has these values on these axes.** -/
lemma agrees_eq {lookup : Axes} (marks : Text → Mark) (h : HasAxes w.memory coordinate lookup)
    (hlookup : ∀ a ∈ lookup, a.2.isComparable w.memory = true)
    (hc : ∀ a ∈ c, a.2.isLawful w.memory = true) :
    agrees coordinate (c.map fun a => (.str a.1 (marks a.1), a.2)) w =
      (.ok (c.within lookup), w) := by
  obtain ⟨address, marks', rfl, hread⟩ := h.dict
  induction c with
  | nil => rfl
  | cons a c ih =>
      have hrest := ih fun b hb => hc b (List.mem_cons_of_mem _ hb)
      have haxis : keyOf (.str a.1 (marks a.1)) w = (.ok (.str a.1), w) := keyOf_of_ok rfl
      have hwithin : Axes.within (a :: c) lookup =
          (((lookup.find? fun b => b.1 == a.1).map (·.2)).any (·.equal a.2) &&
            Axes.within c lookup) := by
        rw [← any_eq h.nodup]
        rfl
      have hcontains : contains (.ref address) (.str a.1 (marks a.1)) w =
          (.ok ((lookup.find? fun b => b.1 == a.1).map (·.2)).isSome, w) := by
        rw [contains, bind_of_ok (read_of_some hread)]
        dsimp only
        rw [bind_of_ok haxis, find?_entries]
        rfl
      rw [List.map_cons, agrees, bind_of_ok hcontains, hwithin]
      cases hfind : lookup.find? fun b => b.1 == a.1 with
      | none => rfl
      | some b =>
          have hitem : itemAt (.ref address) (.str a.1 (marks a.1)) w = (.ok b.2, w) := by
            rw [itemAt, bind_of_ok (read_of_some hread)]
            dsimp only
            rw [bind_of_ok haxis, find?_entries, hfind]
            rfl
          have hsame : same b.2 a.2 w = (.ok (b.2.equal a.2), w) := by
            have hequal := World.same_eq_equal b.2 a.2 (hlookup b (List.mem_of_find?_eq_some hfind))
              (hc a List.mem_cons_self)
            rw [← hequal]
            rfl
          dsimp only [Option.map_some, Option.isSome_some, Option.any_some]
          rw [if_pos rfl, bind_of_ok hitem, bind_of_ok hsame]
          cases b.2.equal a.2 with
          | false => rfl
          | true => exact hrest

end Run

end FormulaCube
