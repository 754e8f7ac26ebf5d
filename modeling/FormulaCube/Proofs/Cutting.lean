import FormulaCube.Text.Basic
import Mathlib.Tactic.Lemma

/-!
# Texts that are cut and put together

* `join_cons`, `join_nil_cons`, `join_append_cons` — parts with something between neighbours, by what
  the first of them is.
* `join_splitOn`, `splitOn_join` — cutting at a character, and putting together with it.
-/

namespace FormulaCube

lemma join_cons (sep part : Text) {parts : List Text} (h : parts ≠ []) :
    Text.join sep (part :: parts) = part ++ (sep ++ Text.join sep parts) := by
  cases parts with
  | nil => exact absurd rfl h
  | cons other parts => simp only [Text.join, List.append_assoc]

lemma join_nil_cons (sep : Text) {parts : List Text} (h : parts ≠ []) :
    Text.join sep ([] :: parts) = sep ++ Text.join sep parts := join_cons sep [] h

lemma join_append_cons (sep a part : Text) (parts : List Text) :
    Text.join sep ((a ++ part) :: parts) = a ++ Text.join sep (part :: parts) := by
  cases parts with
  | nil => rfl
  | cons other parts => simp only [Text.join, List.append_assoc]

lemma splitOn_eq (sep : Char) (t : Text) : ∃ part parts, Text.splitOn sep t = part :: parts := by
  cases t with
  | nil => exact ⟨[], [], rfl⟩
  | cons c t =>
      rw [Text.splitOn]
      split
      · exact ⟨_, _, rfl⟩
      · split <;> exact ⟨_, _, rfl⟩

lemma splitOn_cons {sep c : Char} (hc : c ≠ sep) {t part : Text} {parts : List Text}
    (h : Text.splitOn sep t = part :: parts) :
    Text.splitOn sep (c :: t) = (c :: part) :: parts := by
  rw [Text.splitOn, if_neg hc, h]

lemma join_splitOn (sep : Char) (t : Text) : Text.join [sep] (Text.splitOn sep t) = t := by
  induction t with
  | nil => rfl
  | cons c t ih =>
      obtain ⟨part, parts, hparts⟩ := splitOn_eq sep t
      by_cases hc : c = sep
      · subst hc
        rw [Text.splitOn, if_pos rfl, join_nil_cons _ (by rw [hparts]; exact List.cons_ne_nil _ _), ih]
        rfl
      · rw [splitOn_cons hc hparts]
        refine (join_append_cons _ [c] _ _).trans ?_
        rw [← hparts, ih]
        rfl

lemma notMem_of_mem_splitOn {sep : Char} {t part : Text} (h : part ∈ Text.splitOn sep t) :
    sep ∉ part := by
  induction t generalizing part with
  | nil =>
      rw [List.mem_singleton.mp h]
      exact List.not_mem_nil
  | cons c t ih =>
      obtain ⟨first, parts, hparts⟩ := splitOn_eq sep t
      by_cases hc : c = sep
      · rw [Text.splitOn, if_pos hc] at h
        rcases List.mem_cons.mp h with rfl | h
        · exact List.not_mem_nil
        · exact ih h
      · rw [splitOn_cons hc hparts] at h
        rw [hparts] at ih
        rcases List.mem_cons.mp h with rfl | h
        · exact List.not_mem_cons_of_ne_of_not_mem (Ne.symm hc) (ih List.mem_cons_self)
        · exact ih (List.mem_cons_of_mem _ h)

lemma splitOn_append {sep : Char} {part : Text} (h : sep ∉ part) (t : Text) :
    Text.splitOn sep (part ++ sep :: t) = part :: Text.splitOn sep t := by
  induction part with
  | nil => exact if_pos rfl
  | cons c part ih =>
      rw [List.mem_cons, not_or] at h
      exact splitOn_cons (Ne.symm h.1) (ih h.2)

lemma splitOn_eq_singleton {sep : Char} {t : Text} (h : sep ∉ t) : Text.splitOn sep t = [t] := by
  induction t with
  | nil => rfl
  | cons c t ih =>
      rw [List.mem_cons, not_or] at h
      exact splitOn_cons (Ne.symm h.1) (ih h.2)

lemma splitOn_join {sep : Char} {parts : List Text} (hne : parts ≠ [])
    (h : ∀ part ∈ parts, sep ∉ part) : Text.splitOn sep (Text.join [sep] parts) = parts := by
  induction parts with
  | nil => exact absurd rfl hne
  | cons part parts ih =>
      have hpart := h part List.mem_cons_self
      cases parts with
      | nil => exact splitOn_eq_singleton hpart
      | cons other parts =>
          rw [join_cons _ _ (List.cons_ne_nil _ _), List.singleton_append, splitOn_append hpart,
            ih (List.cons_ne_nil _ _) fun part hmem => h part (List.mem_cons_of_mem _ hmem)]

end FormulaCube
