import FormulaCube.Proofs.Shortcut.Leftover

/-!
# What an expansion does not depend on

* `expandWithin_add` — the offset at which a text begins is added to the positions of errors, and
  does nothing else.
* `expandWithin_eq` — the number of sigils is as good a bound on the nesting as any greater number.
* `expandIn_limited` — the levels that there are for an expansion decide only whether they suffice.

Where two texts can be expanded, so can both with a line end between them, and nothing is moved over
the line end: not by a closing parenthesis that is looked for in the first text, not by a literal or
a comment that the first text leaves open, and not by what stands before a head of the second.

* `expandForm_seam` — a pass that succeeds goes on behind the text.
* `expandForm_cons` — a character that belongs to no head is kept, and what follows it is read as the
  beginning of a text.
* `expand_append_cons`, `expand_append_line` — all shortcuts of both texts.
-/

namespace FormulaCube

section

variable {nested nested' : Int → Text → Except ShortcutError Text}

/-! ## The offset at which a text begins -/

/-- The error, reported that much later. -/
def ShortcutError.shift (d : Int) (e : ShortcutError) : ShortcutError :=
  { e with position := e.position + d }

lemma ofText_add (p d : Int) (item : Text) : CoordinateEntry.ofText (p + d) item =
    (CoordinateEntry.ofText p item).mapError (ShortcutError.shift d) := by
  rw [CoordinateEntry.ofText, CoordinateEntry.ofText]
  split
  · rfl
  · split
    · split
      · dsimp only
        split <;> rfl
      · rfl
    · rfl

/-- The offset of a coordinate is the position of what is wrong with it. -/
lemma coordinateLiteral_add (t : Text) (p d : Int) :
    coordinateLiteral t (p + d) = (coordinateLiteral t p).mapError (ShortcutError.shift d) := by
  have hentries : CoordinateEntry.ofText (p + d) =
      fun item => (CoordinateEntry.ofText p item).mapError (ShortcutError.shift d) :=
    funext (ofText_add p d)
  rw [coordinateLiteral, coordinateLiteral]
  split
  · rfl
  · rw [bind_mapError, mapM_mapError, hentries]
    refine congrArg _ (funext fun entries => ?_)
    dsimp only
    split
    · rfl
    · split <;> rfl

/-- Where a coordinate is read, the offset does not matter. -/
lemma coordinateLiteral_at {t r : Text} {position : Int} (h : coordinateLiteral t position = .ok r)
    (position' : Int) : coordinateLiteral t position' = .ok r := by
  have hshift : position + (position' - position) = position' := by omega
  rw [← hshift, coordinateLiteral_add, h]
  rfl

lemma expandForm_add {d : Int} (hnested : ∀ inner coordinate,
      nested' (inner + d) coordinate = (nested inner coordinate).mapError (ShortcutError.shift d))
    (rule : Rule) (start : Int) (prev : Option Char) (t : Text) :
    expandForm nested' rule (start + d) prev t =
      (expandForm nested rule start prev t).mapError (ShortcutError.shift d) := by
  induction shortcuts rule prev t generalizing start with
  | none hnone =>
      rw [expandForm_of_everyHead hnone, expandForm_of_everyHead hnone]
      rfl
  | @opened prev before after name hbefore hprev hname hopen =>
      have hat : start + d + before.length = start + before.length + d := by omega
      rw [expandForm_opened hbefore hprev hname hopen, expandForm_opened hbefore hprev hname hopen,
        hat]
      rfl
  | @closed prev before coordinate after name hbefore hprev hname hclose hrest ih =>
      generalize hinner : start + (before ++ rule.sigil :: (name.getD [] ++ ['('])).length = inner
      have hinner' : inner + d = start + d +
        (before ++ rule.sigil :: (name.getD [] ++ ['('])).length := by omega
      have hafter : inner + d + (coordinate ++ [')']).length =
        inner + (coordinate ++ [')']).length + d := by omega
      rw [expandForm_closed hbefore hprev hname hclose hinner.symm,
        expandForm_closed hbefore hprev hname hclose hinner', hnested, hafter, ih, bind_mapError]
      refine congrArg _ (funext fun expanded => ?_)
      rw [mapError_ofShortcut, mapError_ofShortcut, coordinateLiteral_add, bind_mapError]
      exact congrArg _ (funext fun literal => (map_mapError _ _ _).symm)

/-- **The offset at which a text begins is added to the positions of errors**, and does nothing
else. -/
theorem expandWithin_add (rules : List Rule) (depth : Nat) (start d : Int) (t : Text) :
    expandWithin rules depth (start + d) t =
      (expandWithin rules depth start t).mapError (ShortcutError.shift d) := by
  induction depth generalizing start t with
  | zero => rfl
  | succ depth ih =>
      rw [expandWithin, expandWithin, foldlM_mapError]
      congr 1
      funext t rule
      exact expandForm_add ih rule start none t

/-- Where an expansion succeeds, the offset does not matter. -/
lemma expandWithin_of_ok {rules : List Rule} {depth : Nat} {start : Int} {t u : Text}
    (h : expandWithin rules depth start t = .ok u) (start' : Int) :
    expandWithin rules depth start' t = .ok u := by
  have hshift : start + (start' - start) = start' := by omega
  rw [← hshift, expandWithin_add, h]
  rfl

/-! ## The bound on the nesting -/

/-- A pass hands on only texts with fewer sigils. -/
lemma expandForm_congr {rule : Rule} {start : Int} {prev : Option Char} {t : Text}
    (h : ∀ inner coordinate, sigilCount coordinate < sigilCount t →
      nested inner coordinate = nested' inner coordinate) :
    expandForm nested rule start prev t = expandForm nested' rule start prev t := by
  induction shortcuts rule prev t generalizing start with
  | none hnone => rw [expandForm_of_everyHead hnone, expandForm_of_everyHead hnone]
  | opened hbefore hprev hname hopen =>
      rw [expandForm_opened hbefore hprev hname hopen, expandForm_opened hbefore hprev hname hopen]
  | @closed prev before coordinate after name hbefore hprev hname hclose hrest ih =>
      rw [sigilCount_append, sigilCount_shortcut hname] at h
      rw [expandForm_closed hbefore hprev hname hclose rfl,
        expandForm_closed hbefore hprev hname hclose rfl, h _ coordinate (by omega),
        ih fun inner coordinate hcoordinate => h inner coordinate (by omega)]

/-- Passes one after the other hand on only texts with fewer sigils than the first has. -/
lemma foldlM_congr_of_sigils {bound : Nat}
    (hnested : ∀ inner coordinate, sigilCount coordinate < bound →
      nested inner coordinate = nested' inner coordinate)
    (hsigils : ∀ {inner coordinate expanded}, nested inner coordinate = .ok expanded →
      sigilCount expanded ≤ sigilCount coordinate)
    (rules : List Rule) (start : Int) {t : Text} (ht : sigilCount t ≤ bound) :
    rules.foldlM (fun t rule => expandForm nested rule start none t) t =
      rules.foldlM (fun t rule => expandForm nested' rule start none t) t := by
  induction rules generalizing t with
  | nil => rfl
  | cons rule rules ih =>
      have hpass : expandForm nested rule start none t = expandForm nested' rule start none t :=
        expandForm_congr fun inner coordinate hlt => hnested inner coordinate (by omega)
      rw [List.foldlM_cons, List.foldlM_cons, ← hpass]
      cases hfirst : expandForm nested rule start none t with
      | error e => rfl
      | ok u =>
          refine ih ?_
          rcases (replaces_of_expandForm hfirst).sigils hsigils with ⟨rfl, -⟩ | hlt
          · exact ht
          · omega

lemma expandWithin_of_sigilCount_eq_zero {t : Text} (h : sigilCount t = 0) (rules : List Rule)
    (depth : Nat) (start : Int) : expandWithin rules depth start t = .ok t := by
  cases depth with
  | zero => rfl
  | succ depth =>
      refine foldlM_of_findHead_eq_none fun rule _ => Rule.findHead_eq_none_iff.mpr ?_
      exact .of_not_isSigil (not_isSigil_of_sigilCount_eq_zero h)

/-- **The number of sigils is as good a bound on the nesting as any greater number.** -/
theorem expandWithin_eq {rules : List Rule} {depth : Nat} {start : Int} {t : Text}
    (h : sigilCount t ≤ depth) :
    expandWithin rules depth start t = expandWithin rules (sigilCount t) start t := by
  suffices hall : ∀ depth' ≤ depth, sigilCount t ≤ depth' →
      expandWithin rules depth start t = expandWithin rules depth' start t from
    hall _ h (Nat.le_refl _)
  intro depth' hle h'
  clear h
  induction depth' generalizing depth start t with
  | zero =>
      have hcount := Nat.eq_zero_of_le_zero h'
      rw [expandWithin_of_sigilCount_eq_zero hcount, expandWithin_of_sigilCount_eq_zero hcount]
  | succ depth' ih =>
      obtain ⟨depth, rfl⟩ : ∃ n, depth = n + 1 := ⟨depth - 1, by omega⟩
      rw [expandWithin, expandWithin]
      have hnested (inner : Int) (coordinate : Text) (hlt : sigilCount coordinate < depth' + 1) :
          expandWithin rules depth inner coordinate = expandWithin rules depth' inner coordinate :=
        ih (by omega) (by omega)
      exact foldlM_congr_of_sigils hnested sigilCount_expandWithin rules start h'

end

/-- **The levels that there are for an expansion decide only whether they suffice.** -/
theorem expandIn_limited (levels : Nat) (rules : List Rule) (t : Text) :
    Limited (expandIn levels rules t) (expand rules t) := by
  have h := expandLevels_limited rules (le_max_left levels (sigilCount t)) 0 t
  rwa [expandWithin_eq (le_max_right levels (sigilCount t))] at h

/-- What is expanded with a number of levels is expanded without a limit. -/
lemma expand_of_expandIn {levels : Nat} {rules : List Rule} {t u : Text}
    (h : expandIn levels rules t = .ok u) : expand rules t = .ok u :=
  (expandIn_limited levels rules t).ok h

/-! ## Two texts -/

section

variable {nested : Int → Text → Except ShortcutError Text} {rule : Rule} {rules : List Rule}
  {start : Int} {prev : Option Char} {a a' b b' : Text}

/-- **A pass that succeeds goes on behind the text**, if no head can do so. -/
lemma expandForm_seam (h : expandForm nested rule start prev a = .ok a') {k : Text}
    (hk : ∀ c ∈ k.head?, Rule.isNamePart c = false ∧ c ≠ '(') :
    expandForm nested rule start prev (a ++ k) =
      (expandForm nested rule (start + a.length) (lastOf prev a) k).map (a' ++ ·) := by
  induction shortcuts rule prev a generalizing start a' with
  | @none prev a hnone =>
      rw [expandForm_of_everyHead hnone] at h
      rw [← Except.ok.inj h]
      exact expandForm_append hnone (Rule.parts_of_head? hk a)
  | opened hbefore hprev hname hopen =>
      rw [expandForm_opened hbefore hprev hname hopen] at h
      cases h
  | @closed prev before coordinate after name hbefore hprev hname hclose hrest ih =>
      generalize hinner : start + (before ++ rule.sigil :: (name.getD [] ++ ['('])).length = inner
      rw [expandForm_closed hbefore hprev hname hclose hinner.symm] at h
      obtain ⟨expanded, hnested, h⟩ := exists_of_bind_eq_ok h
      obtain ⟨literal, hliteral, h⟩ := exists_of_bind_eq_ok h
      obtain ⟨rest, hrest, rfl⟩ := exists_of_map_eq_ok h
      have htext : before ++ rule.sigil :: (name.getD [] ++ '(' :: (coordinate ++ ')' :: after)) ++ k =
          before ++ rule.sigil :: (name.getD [] ++ '(' :: (coordinate ++ ')' :: (after ++ k))) := by
        simp only [List.append_assoc, List.cons_append]
      have hlast : lastOf (some ')') after = lastOf prev
          (before ++ rule.sigil :: (name.getD [] ++ '(' :: (coordinate ++ ')' :: after))) := by
        simp only [lastOf_append, lastOf_cons]
      have hat : inner + (coordinate ++ [')']).length + after.length = start +
          (before ++ rule.sigil :: (name.getD [] ++ '(' :: (coordinate ++ ')' :: after))).length := by
        simp only [← hinner, List.length_append, List.length_cons, List.length_nil]
        omega
      have hafter := ih hrest
      rw [hat, hlast] at hafter
      have hclose' := closingParen?_of_closed hclose (after ++ k)
      rw [htext, expandForm_closed hbefore hprev hname hclose' hinner.symm, hnested]
      show (coordinateLiteral expanded inner).mapError ofShortcut >>= _ = _
      rw [hliteral]
      show Except.map _ (expandForm nested rule _ (some ')') (after ++ k)) = _
      rw [hafter, map_append_append]

/-- What stands before a text only decides whether a head may stand at its beginning. -/
lemma expandForm_of_prev {prev' : Option Char} (h : Rule.mayPrecede prev = Rule.mayPrecede prev') :
    expandForm nested rule start prev a = expandForm nested rule start prev' a := by
  cases a with
  | nil => rw [expandForm_nil, expandForm_nil]
  | cons c a =>
      rcases rule.here_or_skip prev c a with ⟨hprev, name, after, hhead⟩ | hskip
      · rw [expandForm_here hprev hhead, expandForm_here (h ▸ hprev) hhead]
      · rw [expandForm_skip hskip, expandForm_skip (h ▸ hskip)]

/-! ## A character between two texts -/

/-- The character ends what stands before it and begins nothing, as far as heads are concerned. -/
def isSeam (c : Char) : Bool := !Rule.isNamePart c && c != '(' && !isSigil c

/-- **The character is kept, and what follows it is read as the beginning of a text.** -/
lemma expandForm_cons {depth : Nat} {c : Char} (hc : isSeam c = true)
    (ha : expandForm (expandWithin rules depth) rule start none a = .ok a')
    (hb : expandForm (expandWithin rules depth) rule start none b = .ok b') :
    expandForm (expandWithin rules depth) rule start none (a ++ c :: b) = .ok (a' ++ c :: b') := by
  rw [isSeam, Bool.and_eq_true, Bool.and_eq_true, Bool.not_eq_true', Bool.not_eq_true', bne_iff_ne,
    and_assoc] at hc
  obtain ⟨hname, hparen, hsigil⟩ := hc
  have hend : ∀ d ∈ (c :: b : Text).head?, Rule.isNamePart d = false ∧ d ≠ '(' := by
    rintro d ⟨⟩
    exact ⟨hname, hparen⟩
  have hskip : rule.headHere? (c :: b) = none := Rule.headHere?_of_not_isSigil hsigil rule b
  have hat : start + a.length + 1 = start + (a.length + 1) := by omega
  have hprev : Rule.mayPrecede (some c) = Rule.mayPrecede none :=
    mayPrecede_of_not_isAsciiWord (Bool.eq_false_iff.mpr fun hword => by
      rw [isNamePart_of_isAsciiWord hword] at hname
      cases hname)
  have hb' : expandForm (expandWithin rules depth) rule (start + a.length + 1) (some c) b = .ok b' := by
    rw [hat, expandForm_add (fun inner => expandWithin_add rules depth inner _),
      expandForm_of_prev hprev, hb]
    rfl
  rw [expandForm_seam ha hend, expandForm_skip (Or.inr hskip), hb']
  rfl

/-- The passes keep the character one after the other. -/
lemma foldlM_cons {depth : Nat} {c : Char} (hc : isSeam c = true) (pending : List Rule)
    (ha : pending.foldlM (fun t rule => expandForm (expandWithin rules depth) rule start none t) a =
      .ok a')
    (hb : pending.foldlM (fun t rule => expandForm (expandWithin rules depth) rule start none t) b =
      .ok b') :
    pending.foldlM (fun t rule => expandForm (expandWithin rules depth) rule start none t)
      (a ++ c :: b) = .ok (a' ++ c :: b') := by
  induction pending generalizing a b with
  | nil =>
      rw [← Except.ok.inj ha, ← Except.ok.inj hb]
      rfl
  | cons rule pending ih =>
      rw [List.foldlM_cons] at ha hb
      obtain ⟨a₁, hpass, ha⟩ := exists_of_bind_eq_ok ha
      obtain ⟨b₁, hpass', hb⟩ := exists_of_bind_eq_ok hb
      rw [foldlM_cons_of_ok (expandForm_cons hc hpass hpass')]
      exact ih ha hb

/-- **Shortcuts in two texts with such a character between them.** -/
lemma expand_append_cons {c : Char} (hc : isSeam c = true) (ha : expand rules a = .ok a')
    (hb : expand rules b = .ok b') : expand rules (a ++ c :: b) = .ok (a' ++ c :: b') := by
  have hcount : sigilCount (a ++ c :: b) = sigilCount a + sigilCount b := by
    rw [isSeam, Bool.and_eq_true, Bool.not_eq_true'] at hc
    rw [sigilCount_append, sigilCount, sigilCount, sigilCount, List.countP_cons_of_neg]
    rw [hc.2]
    exact Bool.false_ne_true
  rw [expand] at ha hb ⊢
  rw [← expandWithin_eq (Nat.le_add_right (sigilCount a) (sigilCount b))] at ha
  rw [← expandWithin_eq (Nat.le_add_left (sigilCount b) (sigilCount a))] at hb
  rw [hcount]
  generalize sigilCount a + sigilCount b = depth at ha hb
  cases depth with
  | zero =>
      rw [← Except.ok.inj ha, ← Except.ok.inj hb]
      rfl
  | succ depth => exact foldlM_cons hc rules ha hb

/-- **Shortcuts in two texts with a line end between them.** If each of the texts can be expanded, so
can both, and each becomes what it becomes alone. -/
theorem expand_append_line (ha : expand rules a = .ok a') (hb : expand rules b = .ok b') :
    expand rules (a ++ '\n' :: b) = .ok (a' ++ '\n' :: b') :=
  expand_append_cons rfl ha hb

/-- A stray sigil, a bracket and a literal that the first text leaves open do not reach the second. -/
theorem expand_append_line_open :
    expand Rule.all "$ ['a".toList = .ok "$ ['a".toList ∧
      expand Rule.all "@(a: 1)".toList = .ok "self.get_relative_cell(\x7b'a': 1\x7d)".toList ∧
      expand Rule.all ("$ ['a".toList ++ '\n' :: "@(a: 1)".toList) =
        .ok ("$ ['a".toList ++ '\n' :: "self.get_relative_cell(\x7b'a': 1\x7d)".toList) := by
  have hfirst : expand Rule.all "$ ['a".toList = .ok "$ ['a".toList :=
    expand_eq_self_iff.mpr (by decide)
  have hsecond : expand Rule.all "@(a: 1)".toList =
      .ok "self.get_relative_cell(\x7b'a': 1\x7d)".toList := by
    have hwell : (Fragment.shortcut .relativeAt none
        (.keyed <| .last (.keyed [] (.name ['a']) []) <| .plain ' ' <| .plain '1' .empty)
        .empty).WellFormed none := by
      simp only [Fragment.WellFormed, EntryLead.WellFormed, Axis.WellFormed, Rule.Admits]
      decide
    exact (expand_eq_rewrite hwell).trans (congrArg Except.ok (by decide))
  exact ⟨hfirst, hsecond, expand_append_line hfirst hsecond⟩

end

end FormulaCube
