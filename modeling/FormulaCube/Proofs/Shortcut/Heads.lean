import FormulaCube.Proofs.Shortcut.Passes

/-!
# The heads in a text

Whether expanding leaves a text alone depends on its heads only, wherever they stand: in comments
and literals too. This file says what all heads of a text have in common, and how that carries over
when texts are cut and put together.

* `EveryHead` — every head in a text has a property of its form, of the character before it, and of
  its name.
* `EveryHead.append` — two texts one after the other: what is to be shown for a head that begins in
  the first and ends in the second.
* `Rule.findHead_eq_none_iff`, `Rule.findHead_eq_some` — what the search for a head finds.
-/

namespace FormulaCube

/-- Every head in the text, which follows `prev`, has the property: of its form, of the character
that it follows, and of its name. -/
def EveryHead (p : Rule → Option Char → Option Text → Prop) : (prev : Option Char) → Text → Prop
  | _, [] => True
  | prev, c :: t =>
    (Rule.mayPrecede prev = true → ∀ (rule : Rule) (name : Option Text) (after : Text),
      rule.headHere? (c :: t) = some (name, after) → p rule prev name) ∧ EveryHead p (some c) t

namespace EveryHead

variable {p p' : Rule → Option Char → Option Text → Prop} {prev prev' : Option Char} {a b t : Text}

lemma of_forall (h : ∀ rule prev name, p rule prev name) (prev : Option Char) (t : Text) :
    EveryHead p prev t := by
  induction t generalizing prev with
  | nil => trivial
  | cons c t ih => exact ⟨fun _ rule name _ _ => h rule prev name, ih _⟩

lemma and (h : EveryHead p prev t) (h' : EveryHead p' prev t) :
    EveryHead (fun rule prev name => p rule prev name ∧ p' rule prev name) prev t := by
  induction t generalizing prev with
  | nil => trivial
  | cons c t ih =>
      exact ⟨fun hprev rule name after hhead =>
        ⟨h.1 hprev rule name after hhead, h'.1 hprev rule name after hhead⟩, ih h.2 h'.2⟩

lemma imp (h : EveryHead p prev t)
    (hp : ∀ rule prev name, p rule prev name → p' rule prev name) : EveryHead p' prev t := by
  induction t generalizing prev with
  | nil => trivial
  | cons c t ih =>
      exact ⟨fun hprev rule name after hhead => hp _ _ _ (h.1 hprev rule name after hhead), ih h.2⟩

/-- What stands before a text matters only to a head at its beginning. -/
lemma of_prev (h : EveryHead p prev t) (hprev : Rule.mayPrecede prev = true)
    (hp : ∀ rule name, p rule prev name → p rule prev' name) : EveryHead p prev' t := by
  cases t with
  | nil => trivial
  | cons c t =>
      exact ⟨fun _ rule name after hhead => hp _ _ (h.1 hprev rule name after hhead), h.2⟩

lemma of_not_isSigil (h : ∀ c ∈ t, isSigil c = false) : EveryHead p prev t := by
  induction t generalizing prev with
  | nil => trivial
  | cons c t ih =>
      refine ⟨fun _ rule name after hhead => ?_, ih fun d hd => h d (List.mem_cons_of_mem _ hd)⟩
      rw [Rule.headHere?_of_not_isSigil (h c List.mem_cons_self)] at hhead
      cases hhead

lemma of_cons_not_isSigil {c : Char} (hc : isSigil c = false) (h : EveryHead p prev (c :: t)) :
    EveryHead p prev' (c :: t) := by
  refine ⟨fun _ rule name after hhead => ?_, h.2⟩
  rw [Rule.headHere?_of_not_isSigil hc] at hhead
  cases hhead

/-! ## Cutting -/

lemma append_left (h : EveryHead p prev (a ++ b)) : EveryHead p prev a := by
  induction a generalizing prev with
  | nil => trivial
  | cons c a ih =>
      exact ⟨fun hprev rule name after hhead =>
        h.1 hprev rule name (after ++ b) (Rule.headHere?_append hhead b), ih h.2⟩

lemma append_right (h : EveryHead p prev (a ++ b)) : EveryHead p (lastOf prev a) b := by
  induction a generalizing prev with
  | nil => exact h
  | cons c a ih =>
      rw [lastOf_cons]
      exact ih h.2

/-! ## Putting together -/

/-- **Two texts one after the other.** Besides the heads in each, there are those that begin in the
first and end in the second. -/
lemma append (h : EveryHead p prev a) (h' : EveryHead p (lastOf prev a) b)
    (hcross : ∀ (a₁ y₁ y₂ after : Text) (rule : Rule) (name : Option Text),
      a = a₁ ++ rule.sigil :: y₁ → b = y₂ ++ '(' :: after → rule.Admits name →
        name.getD [] = y₁ ++ y₂ → Rule.mayPrecede (lastOf prev a₁) = true →
          p rule (lastOf prev a₁) name) : EveryHead p prev (a ++ b) := by
  induction a generalizing prev with
  | nil => exact h'
  | cons c a ih =>
      refine ⟨fun hprev rule name after hhead => ?_, ih h.2 (lastOf_cons prev c a ▸ h') ?_⟩
      · obtain ⟨rfl, hname, htext⟩ := Rule.headHere?_eq_some_iff.mp hhead
        rcases List.append_eq_append_iff.mp htext with ⟨y, hy, hb⟩ | ⟨y, ha, hy⟩
        · exact hcross [] a y after rule name rfl hb hname hy hprev
        · cases y with
          | nil =>
              rw [List.append_nil] at ha
              have hname' : name.getD [] = a ++ [] := by rw [ha, List.append_nil]
              exact hcross [] a [] after rule name rfl hy.symm hname hname' hprev
          | cons d y =>
              obtain ⟨rfl, -⟩ := List.cons.inj hy
              exact h.1 hprev rule name y (Rule.headHere?_eq_some_iff.mpr ⟨rfl, hname, ha⟩)
      · intro a₁ y₁ y₂ after rule name ha hb hname hy hprev
        rw [← lastOf_cons prev] at hprev ⊢
        exact hcross (c :: a₁) y₁ y₂ after rule name (congrArg (c :: ·) ha) hb hname hy hprev

/-- No head goes on into a text that begins with neither a part of a name nor a parenthesis. -/
lemma append_of_not_isNamePart (h : EveryHead p prev a) (h' : EveryHead p (lastOf prev a) b)
    (hb : ∀ c ∈ b.head?, Rule.isNamePart c = false ∧ c ≠ '(') : EveryHead p prev (a ++ b) := by
  refine h.append h' fun a₁ y₁ y₂ after rule name _ htext hname hy _ => ?_
  cases y₂ with
  | nil =>
      rw [htext] at hb
      exact absurd rfl (hb '(' rfl).2
  | cons d y₂ =>
      rw [htext] at hb
      have hd : d ∈ name.getD [] := by
        rw [hy]
        exact List.mem_append_right _ List.mem_cons_self
      have hpart := (hb d rfl).1
      rw [hname.isNamePart d hd] at hpart
      cases hpart

/-- No head begins in a text without sigils. -/
lemma append_of_not_isSigil (ha : ∀ c ∈ a, isSigil c = false) (h : EveryHead p (lastOf prev a) b) :
    EveryHead p prev (a ++ b) := by
  refine (of_not_isSigil ha).append h fun a₁ y₁ y₂ after rule name htext _ _ _ _ => ?_
  have hmem : rule.sigil ∈ a := by
    rw [htext]
    exact List.mem_append_right _ List.mem_cons_self
  have hsigil := ha rule.sigil hmem
  rw [isSigil_sigil] at hsigil
  cases hsigil

/-- The end of a text may be replaced if heads that begin before it stay. -/
lemma replace {b' : Text} (h : EveryHead p prev (a ++ b))
    (hb : ∀ y after, (∀ c ∈ y, Rule.isNamePart c = true) → b' = y ++ '(' :: after →
      ∃ after', b = y ++ '(' :: after')
    (h' : EveryHead p (lastOf prev a) b') : EveryHead p prev (a ++ b') := by
  refine h.append_left.append h' fun a₁ y₁ y₂ after rule name ha htext hname hy hprev => ?_
  have hpart : ∀ c ∈ y₂, Rule.isNamePart c = true := fun c hc =>
    hname.isNamePart c (hy ▸ List.mem_append_right _ hc)
  obtain ⟨after', rfl⟩ := hb y₂ after hpart htext
  rw [ha, List.append_assoc] at h
  have hhead : rule.headHere? (rule.sigil :: (y₁ ++ (y₂ ++ '(' :: after'))) = some (name, after') :=
    Rule.headHere?_eq_some_iff.mpr ⟨rfl, hname, by rw [hy, List.append_assoc]⟩
  exact h.append_right.1 hprev rule name after' hhead

end EveryHead

/-! ## Searching -/

namespace Rule

variable {rule : Rule} {prev : Option Char} {t : Text}

/-- At every character either a head of the form begins, or the search goes on. -/
lemma here_or_skip (rule : Rule) (prev : Option Char) (c : Char) (t : Text) :
    (mayPrecede prev = true ∧ ∃ name after, rule.headHere? (c :: t) = some (name, after)) ∨
      (mayPrecede prev = false ∨ rule.headHere? (c :: t) = none) := by
  cases hprev : mayPrecede prev with
  | false => exact Or.inr (Or.inl rfl)
  | true =>
      cases hhead : rule.headHere? (c :: t) with
      | none => exact Or.inr (Or.inr rfl)
      | some found => exact Or.inl ⟨rfl, found.1, found.2, rfl⟩

/-- Where the search goes on, only heads of other forms begin. -/
lemma ne_of_skip {rule' : Rule} {c : Char} {name : Option Text} {after : Text}
    (hskip : mayPrecede prev = false ∨ rule.headHere? (c :: t) = none)
    (hprev : mayPrecede prev = true) (hhead : rule'.headHere? (c :: t) = some (name, after)) :
    rule' ≠ rule := by
  rintro rfl
  rcases hskip with hskip | hskip
  · rw [hprev] at hskip
    cases hskip
  · rw [hhead] at hskip
    cases hskip

/-- **The search fails if there is no head of the form.** -/
lemma findHead_eq_none_iff :
    rule.findHead prev t = none ↔ EveryHead (fun rule' _ _ => rule' ≠ rule) prev t := by
  induction t generalizing prev with
  | nil => exact ⟨fun _ => trivial, fun _ => rfl⟩
  | cons c t ih =>
      rcases here_or_skip rule prev c t with ⟨hprev, name, after, hhead⟩ | hskip
      · rw [findHead_here hprev hhead]
        constructor
        · intro h
          cases h
        · intro h
          exact absurd rfl (h.1 hprev rule name after hhead)
      · rw [findHead_skip hskip, Option.map_eq_none_iff, ih]
        constructor
        · intro h
          exact ⟨fun hprev rule' name after hhead => ne_of_skip hskip hprev hhead, h⟩
        · intro h
          exact h.2

/-- **What the search finds**: a head, with no head of the form before it. -/
lemma findHead_eq_some {head : Head} (h : rule.findHead prev t = some head) :
    t = head.before ++ rule.sigil :: (head.name.getD [] ++ '(' :: head.after) ∧
      rule.Admits head.name ∧ mayPrecede (lastOf prev head.before) = true ∧
        EveryHead (fun rule' _ _ => rule' ≠ rule) prev head.before := by
  induction t generalizing prev head with
  | nil => cases h
  | cons c t ih =>
      rcases here_or_skip rule prev c t with ⟨hprev, name, after, hhead⟩ | hskip
      · rw [findHead_here hprev hhead] at h
        obtain rfl := Option.some_inj.mp h
        obtain ⟨rfl, hname, rfl⟩ := headHere?_eq_some_iff.mp hhead
        exact ⟨rfl, hname, hprev, trivial⟩
      · rw [findHead_skip hskip] at h
        obtain ⟨found, hfound, rfl⟩ := Option.map_eq_some_iff.mp h
        obtain ⟨rfl, hname, hprev, hbefore⟩ := ih hfound
        refine ⟨rfl, hname, ?_, fun hprev rule' name after hhead => ?_, hbefore⟩
        · rwa [lastOf_cons]
        · exact ne_of_skip hskip hprev (headHere?_append hhead _)

end Rule

end FormulaCube
