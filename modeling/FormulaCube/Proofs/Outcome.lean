import Mathlib.Data.List.Forall2
import Mathlib.Tactic.Lemma

/-!
# Computations that may fail

* `exists_of_bind_eq_ok`, `exists_of_map_eq_ok` — steps that succeed, taken apart.
* `exists_of_mapM_eq_ok`, `exists_of_mapM_eq_error` — results and errors come from single steps.
* `bind_eq_error` — where steps fail.
* `bind_mapError`, `mapM_mapError`, `foldlM_mapError` — errors may be changed step by step.
* `Alike` — two computations that both fail, or both succeed with results that are related.
-/

namespace FormulaCube

variable {ε α β γ δ : Type}

lemma exists_of_isOk {x : Except ε α} (h : x.isOk = true) : ∃ a, x = .ok a := by
  cases x with
  | error e => cases h
  | ok a => exact ⟨a, rfl⟩

lemma exists_of_bind_eq_ok {x : Except ε α} {f : α → Except ε γ} {c : γ} (h : x >>= f = .ok c) :
    ∃ a, x = .ok a ∧ f a = .ok c := by
  cases x with
  | error e => cases h
  | ok a => exact ⟨a, rfl, h⟩

lemma exists_of_map_eq_ok {x : Except ε α} {f : α → β} {b : β} (h : x.map f = .ok b) :
    ∃ a, x = .ok a ∧ f a = b := by
  cases x with
  | error e => cases h
  | ok a => exact ⟨a, rfl, Except.ok.inj h⟩

/-- Steps that fail, fail at one of them. -/
lemma bind_eq_error {x : Except ε α} {f : α → Except ε γ} {e : ε} (h : x >>= f = .error e) :
    x = .error e ∨ ∃ a, x = .ok a ∧ f a = .error e := by
  cases x with
  | error e' => exact .inl (congrArg Except.error (Except.error.inj h))
  | ok a => exact .inr ⟨a, rfl, h⟩

lemma eq_error_of_map {x : Except ε α} {f : α → β} {e : ε} (h : x.map f = .error e) :
    x = .error e := by
  cases x with
  | error e' => rw [Except.error.inj h]
  | ok a => cases h

/-- Each result comes from one of the steps. -/
lemma exists_of_mapM_eq_ok {f : α → Except ε β} {xs : List α} {ys : List β}
    (h : xs.mapM f = .ok ys) : ∀ y ∈ ys, ∃ x ∈ xs, f x = .ok y := by
  induction xs generalizing ys with
  | nil =>
      obtain rfl := Except.ok.inj h
      exact nofun
  | cons x xs ih =>
      rw [List.mapM_cons] at h
      obtain ⟨z, hz, hrest⟩ := exists_of_bind_eq_ok h
      obtain ⟨zs, hzs, hcons⟩ := exists_of_bind_eq_ok hrest
      obtain rfl := Except.ok.inj hcons
      rw [List.forall_mem_cons]
      refine ⟨⟨x, List.mem_cons_self, hz⟩, fun y hy => ?_⟩
      obtain ⟨x', hx', hy⟩ := ih hzs y hy
      exact ⟨x', List.mem_cons_of_mem _ hx', hy⟩

lemma exists_of_mapM_eq_error {f : α → Except ε β} {xs : List α} {e : ε}
    (h : xs.mapM f = .error e) : ∃ x ∈ xs, f x = .error e := by
  induction xs with
  | nil => cases h
  | cons x xs ih =>
      rw [List.mapM_cons] at h
      rcases bind_eq_error h with hx | ⟨b, -, hrest⟩
      · exact ⟨x, List.mem_cons_self, hx⟩
      · rcases bind_eq_error hrest with hxs | ⟨bs, -, hnone⟩
        · obtain ⟨y, hy, hfy⟩ := ih hxs
          exact ⟨y, List.mem_cons_of_mem _ hy, hfy⟩
        · cases hnone

section

variable {ε' : Type} (g : ε → ε')

lemma mapError_ok (a : α) : (Except.ok a : Except ε α).mapError g = .ok a := rfl

lemma mapError_error (e : ε) : (Except.error e : Except ε α).mapError g = .error (g e) := rfl

lemma bind_mapError (x : Except ε α) (f : α → Except ε β) :
    (x >>= f).mapError g = x.mapError g >>= fun a => (f a).mapError g := by
  cases x <;> rfl

lemma ok_of_mapError_eq_ok {x : Except ε α} {a : α} (h : x.mapError g = .ok a) : x = .ok a := by
  cases x with
  | error e => cases h
  | ok b => exact congrArg Except.ok (Except.ok.inj h)

lemma map_mapError (x : Except ε α) (f : α → β) : (x.map f).mapError g = (x.mapError g).map f := by
  cases x <;> rfl

lemma mapM_mapError (f : α → Except ε β) (xs : List α) :
    (xs.mapM f).mapError g = xs.mapM fun a => (f a).mapError g := by
  induction xs with
  | nil => rfl
  | cons x xs ih =>
      rw [List.mapM_cons, List.mapM_cons, bind_mapError, ← ih]
      exact congrArg _ (funext fun _ => bind_mapError g _ _)

lemma foldlM_mapError (f : β → α → Except ε β) (xs : List α) (b : β) :
    (xs.foldlM f b).mapError g = xs.foldlM (fun b a => (f b a).mapError g) b := by
  induction xs generalizing b with
  | nil => rfl
  | cons x xs ih =>
      rw [List.foldlM_cons, List.foldlM_cons, bind_mapError]
      exact congrArg _ (funext ih)

end

/-- Both fail, or both succeed and the results are related. -/
def Alike (R : α → β → Prop) : Except ε α → Except ε β → Prop
  | .ok a, .ok b => R a b
  | .error _, .error _ => True
  | _, _ => False

namespace Alike

variable {R : α → β → Prop} {S : γ → δ → Prop} {x : Except ε α} {y : Except ε β}

/-- Steps that are alike are done one after the other. -/
lemma bind {f : α → Except ε γ} {g : β → Except ε δ} (h : Alike R x y)
    (hfg : ∀ a b, R a b → Alike S (f a) (g b)) : Alike S (x >>= f) (y >>= g) := by
  cases x <;> cases y
  · trivial
  · cases h
  · cases h
  · exact hfg _ _ h

lemma imp {R' : α → β → Prop} (h : Alike R x y) (hR : ∀ a b, x = .ok a → R a b → R' a b) :
    Alike R' x y := by
  cases x <;> cases y
  · trivial
  · cases h
  · cases h
  · exact hR _ _ rfl h

lemma map_right {R' : α → δ → Prop} {g : β → δ} (h : Alike R x y)
    (hg : ∀ a b, x = .ok a → R a b → R' a (g b)) : Alike R' x (y.map g) := by
  cases x <;> cases y
  · trivial
  · cases h
  · cases h
  · exact hg _ _ rfl h

lemma map {f : α → γ} {g : β → δ} (h : Alike R x y) (hfg : ∀ a b, x = .ok a → R a b → S (f a) (g b)) :
    Alike S (x.map f) (y.map g) := by
  cases x <;> cases y
  · trivial
  · cases h
  · cases h
  · exact hfg _ _ rfl h

/-- What the errors are does not matter. -/
lemma mapError {ε' : Type} {g : ε → ε'} (h : Alike R x y) :
    Alike R (x.mapError g) (y.mapError g) := by
  cases x <;> cases y <;> exact h

lemma mapM {xs : List α} {ys : List β} {f : α → Except ε γ} {g : β → Except ε δ}
    (h : List.Forall₂ R xs ys) (hfg : ∀ a b, R a b → Alike S (f a) (g b)) :
    Alike (List.Forall₂ S) (xs.mapM f) (ys.mapM g) := by
  induction h with
  | nil => exact .nil
  | cons hab _ ih =>
      rw [List.mapM_cons, List.mapM_cons]
      exact (hfg _ _ hab).bind fun _ _ hfirst => ih.bind fun _ _ hrest => .cons hfirst hrest

end Alike

end FormulaCube
