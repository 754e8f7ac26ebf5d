import FormulaCube.Cube.Registry
import Mathlib.Data.List.Induction
import Mathlib.Data.List.Nodup
import Mathlib.Tactic.Lemma

/-!
# What a change makes of a directory

The directory of the registry keeps its names in the order in which they came. What each change does
to the names and to what they stand for is said here once, without the recursions that do it.

* `Change.Makes` — what a change makes of a directory.
* `Change.makes_apply` — that is what it makes, of every directory whose names differ.
* `Directory.after` — what changes make of the empty directory, one after the other.
-/

namespace FormulaCube

variable {α : Type}

namespace Directory

variable {d : Directory α} {name : Text} {cube : α}

lemma find?_cons (entry : Text × α) (d : Directory α) (name : Text) :
    find? (entry :: d) name = if name = entry.1 then some entry.2 else find? d name := by
  by_cases h : name = entry.1
  · rw [if_pos h, find?, List.lookup_cons, beq_iff_eq.mpr h]
  · rw [if_neg h, find?, List.lookup_cons, beq_eq_false_iff_ne.mpr h]
    rfl

/-- A name stands for something exactly if it is there. -/
lemma isSome_find?_iff : (d.find? name).isSome = true ↔ name ∈ d.names := by
  induction d with
  | nil => exact ⟨nofun, nofun⟩
  | cons entry d ih =>
      rw [find?_cons, names, List.map_cons, List.mem_cons]
      split
      · rename_i h
        exact ⟨fun _ => Or.inl h, fun _ => rfl⟩
      · rename_i h
        rw [ih]
        exact ⟨Or.inr, fun h' => h'.resolve_left h⟩

/-- A new name comes last, and a name that is there keeps its place. -/
lemma names_insert (d : Directory α) (name : Text) (cube : α) :
    (d.insert name cube).names = if name ∈ d.names then d.names else d.names ++ [name] := by
  induction d with
  | nil => rfl
  | cons entry d ih =>
      obtain ⟨n, c⟩ := entry
      rw [insert]
      split
      · rename_i h
        subst h
        exact (if_pos List.mem_cons_self).symm
      · rename_i h
        have hmem : name ∈ names ((n, c) :: d) ↔ name ∈ names d := by
          rw [names, List.map_cons, List.mem_cons]
          exact ⟨fun h' => h'.resolve_left (Ne.symm h), Or.inr⟩
        rw [names, List.map_cons, ← names, ih]
        simp only [hmem]
        split <;> rfl

lemma find?_insert (d : Directory α) (name : Text) (cube : α) (n : Text) :
    (d.insert name cube).find? n = if n = name then some cube else d.find? n := by
  induction d with
  | nil => exact find?_cons _ _ _
  | cons entry d ih =>
      obtain ⟨m, c⟩ := entry
      rw [insert]
      split
      · rename_i h
        subst h
        rw [find?_cons, find?_cons]
        split <;> rfl
      · rename_i h
        rw [find?_cons, find?_cons, ih]
        split
        · rename_i hn
          subst hn
          rw [if_neg h]
        · rfl

/-- The other names keep their order. -/
lemma names_erase (d : Directory α) (name : Text) : (d.erase name).names = d.names.erase name := by
  induction d with
  | nil => rfl
  | cons entry d ih =>
      obtain ⟨n, c⟩ := entry
      rw [erase, names, names, List.map_cons, List.erase_cons]
      simp only [beq_iff_eq]
      split
      · rfl
      · rw [List.map_cons]
        exact congrArg (n :: ·) ih

lemma find?_erase (hd : d.names.Nodup) (name n : Text) :
    (d.erase name).find? n = if n = name then none else d.find? n := by
  induction d with
  | nil => exact (ite_self _).symm
  | cons entry d ih =>
      obtain ⟨m, c⟩ := entry
      obtain ⟨hm, hd⟩ := List.nodup_cons.mp hd
      rw [erase]
      split
      · rename_i h
        subst h
        rw [find?_cons]
        split
        · rename_i hn
          subst hn
          rw [← Option.not_isSome_iff_eq_none, isSome_find?_iff]
          exact hm
        · rfl
      · rename_i h
        rw [find?_cons, find?_cons, ih hd]
        split
        · rename_i hn
          subst hn
          rw [if_neg h]
        · rfl

/-- Names that differ stay different. -/
lemma nodup_insert (hd : d.names.Nodup) : (d.insert name cube).names.Nodup := by
  rw [names_insert]
  split
  · exact hd
  · rename_i h
    exact List.nodup_append.mpr ⟨hd, List.nodup_singleton _, fun a ha b hb => by
      rw [List.mem_singleton.mp hb]
      rintro rfl
      exact h ha⟩

lemma nodup_erase (hd : d.names.Nodup) : (d.erase name).names.Nodup := by
  rw [names_erase]
  exact hd.erase name

end Directory

/-! ## Changes -/

/-- What a change makes of a directory: which names there are, in which order, and what each of them
stands for. -/
def Change.Makes (before after : Directory α) : Change α → Prop
  | .register name cube =>
    after.names = (if name ∈ before.names then before.names else before.names ++ [name]) ∧
      ∀ n, after.find? n = if n = name then some cube else before.find? n
  | .remove name =>
    after.names = before.names.erase name ∧
      ∀ n, after.find? n = if n = name then none else before.find? n
  | .clear => after = []

/-- **A change makes what it is to make.** -/
lemma Change.makes_apply {before : Directory α} (hnames : before.names.Nodup) (change : Change α) :
    change.Makes before (change.apply before) := by
  cases change with
  | register name cube =>
      exact ⟨before.names_insert name cube, before.find?_insert name cube⟩
  | remove name => exact ⟨before.names_erase name, Directory.find?_erase hnames name⟩
  | clear => rfl

/-- What changes make of the empty directory, one after the other. -/
def Directory.after (changes : List (Change α)) : Directory α :=
  changes.foldl (fun directory change => change.apply directory) []

lemma Directory.after_concat (changes : List (Change α)) (change : Change α) :
    Directory.after (changes ++ [change]) = change.apply (Directory.after changes) := by
  rw [after, List.foldl_append]
  rfl

lemma Directory.nodup_after (changes : List (Change α)) : (Directory.after changes).names.Nodup := by
  induction changes using List.reverseRecOn with
  | nil => exact List.nodup_nil
  | append_singleton changes change ih =>
      rw [after_concat]
      cases change with
      | register name cube => exact nodup_insert ih
      | remove name => exact nodup_erase ih
      | clear => exact List.nodup_nil

end FormulaCube
