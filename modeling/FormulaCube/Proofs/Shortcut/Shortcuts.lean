import FormulaCube.Proofs.Outcome
import FormulaCube.Proofs.Pieces.Reading
import FormulaCube.Proofs.Shortcut.Heads

/-!
# A text as a row of shortcuts

A pass reads a text as a row of complete shortcuts of its form. The row ends where no head of the
form is left, or at a head whose parenthesis is never closed. What a pass does, also where it fails,
is shown by induction on the row.

* `closingParen?_of_closed` — where a parenthesis is closed does not depend on what follows.
* `Shortcuts`, `shortcuts` — every text is such a row.
* `expandForm_opened`, `expandForm_closed` — what a pass makes of it.
* `Limited`, `expandLevels_limited` — with a number of levels an expansion comes to the same, or the
  levels do not suffice.
-/

namespace FormulaCube

/-- **Where a parenthesis is closed does not depend on what follows.** -/
lemma closingParen?_of_closed {coordinate k : Text}
    (h : closingParen? (coordinate ++ ')' :: k) = some coordinate.length) (k' : Text) :
    closingParen? (coordinate ++ ')' :: k') = some coordinate.length := by
  have hlast : ([')'] : Text).getLast? = some ')' := rfl
  obtain ⟨before, after, hps, hlength, hclose⟩ := closingFrom_eq_some h hlast
  have htext : coordinate ++ ')' :: k = textOf before ++ ')' :: textOf after := by
    rw [← Piece.flatMap_text_ofText (coordinate ++ ')' :: k), hps, List.flatMap_append,
      List.flatMap_cons]
    rfl
  rw [Nat.zero_add] at hlength
  obtain ⟨rfl, -⟩ := List.append_inj htext hlength
  have hreread := (hps ▸ reread_ofText (textOf before ++ ')' :: k)).behind_code k'
  have hpieces := hreread.ofText_textOf
  rw [textOf, List.flatMap_append, List.flatMap_cons, Piece.flatMap_text_ofText] at hpieces
  rw [closingParen?]
  exact (congrArg (closingFrom [')'] 0) hpieces).trans (hclose _)

/-! ## The row of shortcuts -/

namespace Rule

variable {rule : Rule} {prev : Option Char} {a k before after : Text} {name : Option Text}

/-- No head of the form begins in `a` and ends in `k`. -/
def Parts (rule : Rule) (a k : Text) : Prop :=
  ∀ (a₁ y₁ y₂ after : Text) (name : Option Text), a = a₁ ++ rule.sigil :: y₁ →
    k = y₂ ++ '(' :: after → rule.Admits name → name.getD [] = y₁ ++ y₂ → False

/-- No head goes on into a text that begins with neither a part of a name nor a parenthesis. -/
lemma parts_of_head? (hk : ∀ c ∈ k.head?, isNamePart c = false ∧ c ≠ '(') (a : Text) :
    rule.Parts a k := by
  rintro a₁ y₁ y₂ after name - rfl hname hy
  cases y₂ with
  | nil => exact (hk '(' rfl).2 rfl
  | cons d y₂ =>
      have hd := hname.isNamePart d (hy ▸ List.mem_append_right _ List.mem_cons_self)
      rw [(hk d rfl).1] at hd
      cases hd

lemma headHere?_append_eq_none {c : Char} (hparts : rule.Parts (c :: a) k)
    (h : rule.headHere? (c :: a) = none) : rule.headHere? (c :: (a ++ k)) = none := by
  rw [Option.eq_none_iff_forall_ne_some]
  rintro ⟨name, after⟩ hhead
  obtain ⟨rfl, hname, htext⟩ := headHere?_eq_some_iff.mp hhead
  rcases List.append_eq_append_iff.mp htext with ⟨y, hy, hk⟩ | ⟨y, rfl, hy⟩
  · exact hparts [] a y after name rfl hk hname hy
  · cases y with
    | nil =>
        have hname' : name.getD [] = name.getD [] ++ [] ++ [] := by simp only [List.append_nil]
        exact hparts [] _ [] after name rfl hy.symm hname hname'
    | cons d y =>
        obtain ⟨rfl, -⟩ := List.cons.inj hy
        rw [headHere?_eq_some_iff.mpr ⟨rfl, hname, rfl⟩] at h
        cases h

/-- **The search passes over a text without heads of the form**, also without one that goes on behind
it. -/
lemma findHead_append (ha : EveryHead (fun rule' _ _ => rule' ≠ rule) prev a)
    (hparts : rule.Parts a k) : rule.findHead prev (a ++ k) =
      (rule.findHead (lastOf prev a) k).map fun head => { head with before := a ++ head.before } := by
  induction a generalizing prev with
  | nil =>
      show rule.findHead prev k = (rule.findHead prev k).map id
      rw [Option.map_id, id]
  | cons c a ih =>
      have hskip : mayPrecede prev = false ∨ rule.headHere? (c :: (a ++ k)) = none := by
        rcases here_or_skip rule prev c a with ⟨hprev, name, after, hhead⟩ | hskip
        · exact absurd rfl (ha.1 hprev rule name after hhead)
        · exact hskip.imp_right (headHere?_append_eq_none hparts)
      have hparts' : rule.Parts a k := fun a₁ y₁ y₂ after name ha' =>
        hparts (c :: a₁) y₁ y₂ after name (congrArg (c :: ·) ha')
      rw [List.cons_append, findHead_skip hskip, ih ha.2 hparts', lastOf_cons, Option.map_map]
      rfl

/-- The first head of a text, where it is known. -/
lemma findHead_first (hbefore : EveryHead (fun rule' _ _ => rule' ≠ rule) prev before)
    (hprev : mayPrecede (lastOf prev before) = true) (hname : rule.Admits name) :
    rule.findHead prev (before ++ rule.sigil :: (name.getD [] ++ '(' :: after)) =
      some ⟨before, name, after⟩ := by
  have hsigil : ∀ d ∈ (rule.sigil :: (name.getD [] ++ '(' :: after)).head?,
      isNamePart d = false ∧ d ≠ '(' := by
    intro d hd
    obtain rfl := Option.some_inj.mp hd
    cases rule <;> decide
  have hhead : rule.headHere? (rule.sigil :: (name.getD [] ++ '(' :: after)) = some (name, after) :=
    headHere?_eq_some_iff.mpr ⟨rfl, hname, rfl⟩
  rw [findHead_append hbefore (parts_of_head? hsigil before), findHead_here hprev hhead,
    Option.map_some, List.append_nil]

end Rule

/-- The text, which follows `prev`, as the row of the shortcuts of one form. -/
inductive Shortcuts (rule : Rule) : (prev : Option Char) → Text → Prop where
  /-- No head of the form is left. -/
  | none {prev : Option Char} {t : Text} (h : EveryHead (fun rule' _ _ => rule' ≠ rule) prev t) :
      Shortcuts rule prev t
  /-- The parenthesis of the first head is not closed. -/
  | opened {prev : Option Char} {before after : Text} {name : Option Text}
      (hbefore : EveryHead (fun rule' _ _ => rule' ≠ rule) prev before)
      (hprev : Rule.mayPrecede (lastOf prev before) = true) (hname : rule.Admits name)
      (hopen : closingParen? after = Option.none) :
      Shortcuts rule prev (before ++ rule.sigil :: (name.getD [] ++ '(' :: after))
  /-- The first head opens a shortcut, and the row goes on behind it. -/
  | closed {prev : Option Char} {before coordinate after : Text} {name : Option Text}
      (hbefore : EveryHead (fun rule' _ _ => rule' ≠ rule) prev before)
      (hprev : Rule.mayPrecede (lastOf prev before) = true) (hname : rule.Admits name)
      (hclose : closingParen? (coordinate ++ ')' :: after) = some coordinate.length)
      (hrest : Shortcuts rule (some ')') after) :
      Shortcuts rule prev
        (before ++ rule.sigil :: (name.getD [] ++ '(' :: (coordinate ++ ')' :: after)))

/-- **Every text is a row of shortcuts.** -/
theorem shortcuts (rule : Rule) (prev : Option Char) (t : Text) : Shortcuts rule prev t := by
  cases hfind : rule.findHead prev t with
  | none => exact .none (Rule.findHead_eq_none_iff.mp hfind)
  | some head =>
      have hlength := Rule.findHead_length hfind
      obtain ⟨htext, hname, hprev, hbefore⟩ := Rule.findHead_eq_some hfind
      cases hclose : closingParen? head.after with
      | none =>
          rw [htext]
          exact .opened hbefore hprev hname hclose
      | some close =>
          have hafter := closingParen?_eq_some hclose
          have hrest := shortcuts rule (some ')') (head.after.drop (close + 1))
          have hcount : (head.after.take close).length = close := by
            have hparts := congrArg List.length hafter
            rw [List.length_append, List.length_cons, List.length_take, List.length_drop] at hparts
            rw [List.length_take]
            omega
          generalize head.after.take close = coordinate at hafter hcount
          generalize head.after.drop (close + 1) = after at hafter hrest
          rw [hafter, ← hcount] at hclose
          rw [htext, hafter]
          exact .closed hbefore hprev hname hclose hrest
termination_by t.length
decreasing_by
  simp only [List.length_drop]
  omega

/-! ## What a pass makes of the row -/

section

variable {ε : Type} [HasShortcutErrors ε] {nested : Int → Text → Except ε Text} {rule : Rule}
  {start : Int} {prev : Option Char} {before coordinate after : Text} {name : Option Text}

lemma expandForm_of_everyHead {t : Text} (h : EveryHead (fun rule' _ _ => rule' ≠ rule) prev t) :
    expandForm nested rule start prev t = .ok t :=
  expandForm_of_none (Rule.findHead_eq_none_iff.mpr h)

lemma expandForm_nil : expandForm nested rule start prev [] = .ok [] := expandForm_of_none rfl

/-- **A pass keeps a text without heads of the form**, also without one that goes on behind it. -/
lemma expandForm_append {a k : Text} (ha : EveryHead (fun rule' _ _ => rule' ≠ rule) prev a)
    (hparts : rule.Parts a k) : expandForm nested rule start prev (a ++ k) =
      (expandForm nested rule (start + a.length) (lastOf prev a) k).map (a ++ ·) := by
  have hfind := Rule.findHead_append ha hparts
  cases hrest : rule.findHead (lastOf prev a) k with
  | none =>
      rw [hrest] at hfind
      rw [expandForm_of_none hfind, expandForm_of_none hrest]
      rfl
  | some head =>
      rw [hrest] at hfind
      have hinner : start + (a ++ head.before).length +
          (Rule.Head.mk (a ++ head.before) head.name head.after).length =
          start + a.length + head.before.length + head.length := by
        simp only [Rule.Head.length, List.length_append]
        omega
      have hdrop : (a ++ k).drop (a ++ head.before).length = k.drop head.before.length := by
        rw [List.length_append, ← List.drop_drop, List.drop_left]
      rw [expandForm_of_some hfind, expandForm_of_some hrest, hinner, hdrop]
      exact (map_append_append _ a head.before).symm

/-- **A pass fails at a head whose parenthesis is not closed.** -/
lemma expandForm_opened (hbefore : EveryHead (fun rule' _ _ => rule' ≠ rule) prev before)
    (hprev : Rule.mayPrecede (lastOf prev before) = true) (hname : rule.Admits name)
    (hopen : closingParen? after = none) :
    expandForm nested rule start prev (before ++ rule.sigil :: (name.getD [] ++ '(' :: after)) =
      .error (ofShortcut ⟨.unbalanced rule, start + before.length,
        (rule.sigil :: (name.getD [] ++ '(' :: after)).take 60⟩) := by
  have hat : start + before.length + (Rule.Head.mk before name after).length -
      (name.getD []).length - 2 = start + before.length := by
    simp only [Rule.Head.length]
    omega
  rw [expandForm_of_some (Rule.findHead_first hbefore hprev hname), expandHead, hopen]
  simp only [hat, List.drop_left]
  rfl

/-- **A pass replaces the first shortcut and goes on behind it.** -/
lemma expandForm_closed (hbefore : EveryHead (fun rule' _ _ => rule' ≠ rule) prev before)
    (hprev : Rule.mayPrecede (lastOf prev before) = true) (hname : rule.Admits name)
    (hclose : closingParen? (coordinate ++ ')' :: after) = some coordinate.length) {inner : Int}
    (hinner : inner = start + (before ++ rule.sigil :: (name.getD [] ++ ['('])).length) :
    expandForm nested rule start prev
        (before ++ rule.sigil :: (name.getD [] ++ '(' :: (coordinate ++ ')' :: after))) =
      (nested inner coordinate >>= fun expanded =>
        (coordinateLiteral expanded inner).mapError ofShortcut >>= fun literal =>
        (expandForm nested rule (inner + (coordinate ++ [')']).length) (some ')') after).map
          (before ++ rule.rewrite name literal ++ ·)) := by
  have hinner' : start + before.length +
      (Rule.Head.mk before name (coordinate ++ ')' :: after)).length = inner := by
    simp only [hinner, Rule.Head.length, List.length_append, List.length_cons, List.length_nil]
    omega
  have hrest : inner + coordinate.length + 1 = inner + (coordinate ++ [')']).length := by
    rw [List.length_append, List.length_singleton]
    omega
  have hdrop : (coordinate ++ ')' :: after).drop (coordinate.length + 1) = after := by
    rw [List.drop_append, Nat.add_sub_cancel_left, List.drop_eq_nil_of_le (Nat.le_succ _)]
    rfl
  rw [expandForm_of_some (Rule.findHead_first hbefore hprev hname), expandHead, hclose, hinner']
  simp only [List.take_left, hdrop, hrest]
  cases nested inner coordinate with
  | error e => rfl
  | ok expanded =>
      cases hliteral : coordinateLiteral expanded inner with
      | error e => simp only [hliteral, mapError_error, bind, Except.bind, Except.map]
      | ok literal =>
          simp only [hliteral, mapError_ok, bind, Except.bind]
          cases expandForm nested rule (inner + (coordinate ++ [')']).length) (some ')') after with
          | error e => rfl
          | ok rest => exact congrArg Except.ok (List.append_assoc _ _ _).symm

end

/-! ## Levels -/

/-- The first outcome is the second, or there were too few levels for it. -/
def Limited (limited : Except Failure Text) (r : Except ShortcutError Text) : Prop :=
  limited = r.mapError ofShortcut ∨ limited = .error (.fault .tooDeep)

namespace Limited

variable {limited : Except Failure Text} {r : Except ShortcutError Text}

/-- One step after the other. -/
lemma bind (h : Limited limited r) {f : Text → Except Failure Text}
    {g : Text → Except ShortcutError Text} (hfg : ∀ t, Limited (f t) (g t)) :
    Limited (limited >>= f) (r >>= g) := by
  rcases h with rfl | rfl
  · cases r with
    | error e => exact .inl rfl
    | ok t => exact hfg t
  · exact .inr rfl

lemma map (h : Limited limited r) (f : Text → Text) : Limited (limited.map f) (r.map f) := by
  rcases h with rfl | rfl
  · exact .inl (map_mapError _ r f).symm
  · exact .inr rfl

lemma foldlM {f : Text → Rule → Except Failure Text} {g : Text → Rule → Except ShortcutError Text}
    (hfg : ∀ t rule, Limited (f t rule) (g t rule)) (rules : List Rule) (t : Text) :
    Limited (rules.foldlM f t) (rules.foldlM g t) := by
  induction rules generalizing t with
  | nil => exact .inl rfl
  | cons rule rules ih =>
      rw [List.foldlM_cons, List.foldlM_cons]
      exact (hfg t rule).bind ih

lemma ok {t : Text} (h : Limited limited r) (hok : limited = .ok t) : r = .ok t := by
  rcases h with rfl | rfl
  · exact ok_of_mapError_eq_ok _ hok
  · cases hok

lemma error {e : ShortcutError} (h : Limited limited r) (herror : limited = .error (.shortcut e)) :
    r = .error e := by
  rcases h with rfl | rfl
  · cases r with
    | error e' => exact congrArg Except.error (Failure.shortcut.inj (Except.error.inj herror))
    | ok t => cases herror
  · cases herror

end Limited

/-- A pass has too few levels only if there are too few for the coordinate of a shortcut. -/
lemma expandForm_limited {nested : Int → Text → Except Failure Text}
    {nested' : Int → Text → Except ShortcutError Text}
    (hnested : ∀ inner coordinate, Limited (nested inner coordinate) (nested' inner coordinate))
    (rule : Rule) (start : Int) (prev : Option Char) (t : Text) :
    Limited (expandForm nested rule start prev t) (expandForm nested' rule start prev t) := by
  induction shortcuts rule prev t generalizing start with
  | none hnone =>
      rw [expandForm_of_everyHead hnone, expandForm_of_everyHead hnone]
      exact .inl rfl
  | opened hbefore hprev hname hopen =>
      rw [expandForm_opened hbefore hprev hname hopen, expandForm_opened hbefore hprev hname hopen]
      exact .inl rfl
  | closed hbefore hprev hname hclose hrest ih =>
      rw [expandForm_closed hbefore hprev hname hclose rfl,
        expandForm_closed hbefore hprev hname hclose rfl]
      refine (hnested _ _).bind fun expanded => Limited.bind ?_ fun literal => (ih _).map _
      rw [mapError_ofShortcut]
      exact .inl rfl

/-- **With a number of levels an expansion comes to the same, or the levels do not suffice.** -/
theorem expandLevels_limited (rules : List Rule) {levels depth : Nat} (h : levels ≤ depth)
    (start : Int) (t : Text) :
    Limited (expandLevels rules levels start t) (expandWithin rules depth start t) := by
  induction levels generalizing depth start t with
  | zero => exact .inr rfl
  | succ levels ih =>
      obtain ⟨depth, rfl⟩ : ∃ n, depth = n + 1 := ⟨depth - 1, by omega⟩
      rw [expandLevels, expandWithin]
      exact .foldlM (fun t rule => expandForm_limited
        (fun inner coordinate => ih (Nat.le_of_succ_le_succ h) inner coordinate) rule start none t)
        rules t

end FormulaCube
