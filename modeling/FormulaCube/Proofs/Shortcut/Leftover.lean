import FormulaCube.Proofs.Outcome
import FormulaCube.Proofs.Shortcut.Shortcuts
import FormulaCube.Proofs.Shortcut.Tame
import FormulaCube.Proofs.Shortcut.Translation

/-!
# What an expansion leaves

A pass that succeeds keeps a text as it is, or replaces heads one after the other. Here a successful
pass is a relation between texts, and what passes do to the sigils and heads of any text is shown by
induction on it.

* `Replaces` — a pass that succeeds.
* `Replaces.sigils` — a pass changes nothing, or takes away sigils.
* `expand_eq_self_iff` — exactly the texts without heads are left as they are.
* `Replaces.everyHead` — a head that is left was there before, or is made of a sigil and a call
  behind it.
* `headNames_expand` — what is known of the heads that an expansion leaves.
* `expand_expand` — exactly when a second expansion changes nothing; `expand_expand_ne` — the smallest
  source for which it does.
-/

namespace FormulaCube

/-! ## Passes that succeed -/

variable {ε : Type}

/-- The pass for the form makes `u` of the text `t` after `prev`. -/
inductive Replaces (nested : Int → Text → Except ε Text) (rule : Rule) :
    (prev : Option Char) → (t u : Text) → Prop where
  /-- No head of the form is left. -/
  | keep {prev : Option Char} {t : Text} (h : EveryHead (fun rule' _ _ => rule' ≠ rule) prev t) :
      Replaces nested rule prev t t
  /-- The first head is replaced, and the pass goes on behind its coordinate. -/
  | head {prev : Option Char} {before coordinate after expanded literal rest : Text}
      {name : Option Text} {inner : Int}
      (hbefore : EveryHead (fun rule' _ _ => rule' ≠ rule) prev before)
      (hprev : Rule.mayPrecede (lastOf prev before) = true) (hname : rule.Admits name)
      (hnested : nested inner coordinate = .ok expanded)
      (hliteral : coordinateLiteral expanded inner = .ok literal)
      (hrest : Replaces nested rule (some ')') after rest) :
      Replaces nested rule prev
        (before ++ rule.sigil :: (name.getD [] ++ '(' :: (coordinate ++ ')' :: after)))
        (before ++ (rule.rewrite name literal ++ rest))

variable {nested : Int → Text → Except ε Text} {rule : Rule} {prev : Option Char} {t u : Text}

section

variable [HasShortcutErrors ε]

/-- **A pass that succeeds replaces heads.** -/
lemma replaces_of_expandForm {start : Int} {prev : Option Char} {t u : Text}
    (h : expandForm nested rule start prev t = .ok u) : Replaces nested rule prev t u := by
  induction shortcuts rule prev t generalizing start u with
  | none hnone =>
      rw [expandForm_of_everyHead hnone] at h
      obtain rfl := Except.ok.inj h
      exact .keep hnone
  | opened hbefore hprev hname hopen =>
      rw [expandForm_opened hbefore hprev hname hopen] at h
      cases h
  | closed hbefore hprev hname hclose hrest ih =>
      rw [expandForm_closed hbefore hprev hname hclose rfl] at h
      obtain ⟨expanded, hnested, h⟩ := exists_of_bind_eq_ok h
      obtain ⟨literal, hliteral, h⟩ := exists_of_bind_eq_ok h
      obtain ⟨rest, hrest, rfl⟩ := exists_of_map_eq_ok h
      rw [List.append_assoc]
      exact .head hbefore hprev hname hnested (ok_of_mapError_eq_ok _ hliteral) (ih hrest)

end

/-! ## Sigils -/

lemma not_isSigil_of_mem_callee : ∀ c ∈ rule.callee, isSigil c = false := fun c hc =>
  not_isSigil_of_isPlain (isPlain_of_isNamePart (Rule.isNamePart_of_mem_callee c hc))

/-- The sigils of a call are those of its coordinate. -/
lemma sigilCount_rewrite {name : Option Text} (hname : rule.Admits name) (literal : Text) :
    sigilCount (rule.rewrite name literal) = sigilCount literal := by
  have hopen (v : Text) : sigilCount ('(' :: v) = sigilCount v := rfl
  have hclose : sigilCount [')'] = 0 := rfl
  rw [Rule.rewrite_eq hname]
  simp only [sigilCount_append, hopen, hclose, sigilCount_eq_zero not_isSigil_of_mem_callee,
    sigilCount_eq_zero (Rule.not_isSigil_of_mem_leading hname), Nat.zero_add, Nat.add_zero]

/-- The sigils of a shortcut are its own and those of its coordinate. -/
lemma sigilCount_shortcut {name : Option Text} (hname : rule.Admits name)
    (coordinate after : Text) :
    sigilCount (rule.sigil :: (name.getD [] ++ '(' :: (coordinate ++ ')' :: after))) =
      sigilCount coordinate + sigilCount after + 1 := by
  have hname' : sigilCount (name.getD []) = 0 :=
    sigilCount_eq_zero fun c hc => not_isSigil_of_isPlain (hname.isPlain c hc)
  have hsigil (v : Text) : sigilCount (rule.sigil :: v) = sigilCount v + 1 :=
    List.countP_cons_of_pos (isSigil_sigil rule)
  have hopen (v : Text) : sigilCount ('(' :: v) = sigilCount v := rfl
  have hclose (v : Text) : sigilCount (')' :: v) = sigilCount v := rfl
  rw [hsigil, sigilCount_append, hname', hopen, sigilCount_append, hclose, Nat.zero_add]

/-- **A pass changes nothing, or takes away sigils**, if the expansion of coordinates adds none. -/
lemma Replaces.sigils
    (hnested : ∀ {inner coordinate expanded}, nested inner coordinate = .ok expanded →
      sigilCount expanded ≤ sigilCount coordinate)
    (h : Replaces nested rule prev t u) :
    (u = t ∧ EveryHead (fun rule' _ _ => rule' ≠ rule) prev t) ∨ sigilCount u < sigilCount t := by
  induction h with
  | keep h => exact Or.inl ⟨rfl, h⟩
  | @head _ before coordinate after expanded literal rest _ _ _ _ hname hcoordinate hliteral _ ih =>
      refine Or.inr ?_
      have hexpanded := hnested hcoordinate
      have hdisplay := (tame_coordinateLiteral hliteral).sigils
      have hrest : sigilCount rest ≤ sigilCount after := by
        rcases ih with ⟨rfl, -⟩ | hlt
        · exact Nat.le_refl _
        · exact Nat.le_of_lt hlt
      rw [sigilCount_append, sigilCount_append, sigilCount_append, sigilCount_rewrite hname,
        sigilCount_shortcut hname]
      omega

/-- **Passes one after the other change nothing, or take away sigils.** -/
lemma sigils_of_foldlM [HasShortcutErrors ε]
    (hnested : ∀ {inner coordinate expanded}, nested inner coordinate = .ok expanded →
      sigilCount expanded ≤ sigilCount coordinate) {start : Int} {rules : List Rule}
    (h : rules.foldlM (fun t rule => expandForm nested rule start none t) t = .ok u) :
    (u = t ∧ ∀ rule ∈ rules, rule.findHead none t = none) ∨ sigilCount u < sigilCount t := by
  induction rules generalizing t with
  | nil =>
      obtain rfl := Except.ok.inj h
      exact Or.inl ⟨rfl, fun rule hrule => absurd hrule List.not_mem_nil⟩
  | cons rule rules ih =>
      cases hpass : expandForm nested rule start none t with
      | error e =>
          rw [List.foldlM_cons, hpass] at h
          cases h
      | ok t' =>
          rw [foldlM_cons_of_ok hpass] at h
          have hlater := ih h
          rcases (replaces_of_expandForm hpass).sigils hnested with ⟨rfl, hhead⟩ | hlt
          · rcases hlater with ⟨rfl, hheads⟩ | hlt'
            · refine Or.inl ⟨rfl, fun rule' hrule => ?_⟩
              rcases List.mem_cons.mp hrule with rfl | hrule
              · exact Rule.findHead_eq_none_iff.mpr hhead
              · exact hheads rule' hrule
            · exact Or.inr hlt'
          · rcases hlater with ⟨rfl, -⟩ | hlt'
            · exact Or.inr hlt
            · exact Or.inr (Nat.lt_trans hlt' hlt)

/-- No expansion adds a sigil. -/
lemma sigilCount_expandWithin {rules : List Rule} {depth : Nat} {start : Int} {t u : Text}
    (h : expandWithin rules depth start t = .ok u) : sigilCount u ≤ sigilCount t := by
  induction depth generalizing start t u with
  | zero =>
      obtain rfl := Except.ok.inj h
      exact Nat.le_refl _
  | succ depth ih =>
      rcases sigils_of_foldlM (fun hnested => ih hnested) h with ⟨rfl, -⟩ | hlt
      · exact Nat.le_refl _
      · exact Nat.le_of_lt hlt

/-! ## Texts that are left as they are -/

lemma not_isSigil_of_sigilCount_eq_zero (h : sigilCount t = 0) : ∀ c ∈ t, isSigil c = false :=
  fun c hc => Bool.eq_false_iff.mpr (List.countP_eq_zero.mp h c hc)

lemma foldlM_of_findHead_eq_none [HasShortcutErrors ε] {start : Int} {rules : List Rule}
    (h : ∀ rule ∈ rules, rule.findHead none t = none) :
    rules.foldlM (fun t rule => expandForm nested rule start none t) t = .ok t := by
  induction rules with
  | nil => rfl
  | cons rule rules ih =>
      rw [foldlM_cons_of_ok (expandForm_of_none (h rule List.mem_cons_self))]
      exact ih fun rule' hrule => h rule' (List.mem_cons_of_mem _ hrule)

/-- One level suffices for a text without heads. -/
lemma expandLevels_of_findHead_eq_none {rules : List Rule} (h : ∀ rule ∈ rules, rule.findHead none t = none)
    (levels : Nat) (start : Int) : expandLevels rules (levels + 1) start t = .ok t :=
  foldlM_of_findHead_eq_none h

/-- **Exactly the texts without heads are left as they are.** -/
theorem expand_eq_self_iff {rules : List Rule} :
    expand rules t = .ok t ↔ ∀ rule ∈ rules, rule.findHead none t = none := by
  rw [expand]
  cases hcount : sigilCount t with
  | zero =>
      refine ⟨fun _ rule _ => Rule.findHead_eq_none_iff.mpr ?_, fun _ => rfl⟩
      exact .of_not_isSigil (not_isSigil_of_sigilCount_eq_zero hcount)
  | succ depth =>
      constructor
      · intro h
        rcases sigils_of_foldlM (fun hnested => sigilCount_expandWithin hnested) h with
          ⟨-, hheads⟩ | hlt
        · exact hheads
        · exact absurd hlt (Nat.lt_irrefl _)
      · intro h
        rw [expandWithin]
        exact foldlM_of_findHead_eq_none h

/-! ## Heads that are left -/

/-- The character is neither a sigil nor a dot. -/
def Separates (prev : Option Char) : Prop := ∀ c ∈ prev, isSigil c = false ∧ c ≠ '.'

lemma separates_none : Separates none := fun _ hc => nomatch hc

/-- The name ends with the method of a call. -/
def EndsInCall (name : Option Text) : Prop :=
  ∃ (t : Text) (rule : Rule), name = some (t ++ rule.callee)

/-- What is known of a head after some passes. Its form is still pending, and the head does not
touch a sigil or a dot before it; or, if heads may do so (`touching`), its name may end with a call.
-/
def Remains (touching : Prop) (pending : Rule → Prop) (rule : Rule) (prev : Option Char)
    (name : Option Text) : Prop :=
  (pending rule ∧ (Separates prev ∨ touching)) ∨ (touching ∧ EndsInCall name)

section Heads

variable {touching : Prop} {pending : Rule → Prop}

/-- A name before a parenthesis is read in one way only. -/
lemma eq_of_append_paren {y z a b : Text} (hy : ∀ c ∈ y, Rule.isNamePart c = true)
    (hz : ∀ c ∈ z, Rule.isNamePart c = true) (h : y ++ '(' :: a = z ++ '(' :: b) : y = z := by
  induction y generalizing z with
  | nil =>
      cases z with
      | nil => rfl
      | cons d z =>
          have hd := hz d List.mem_cons_self
          rw [← (List.cons.inj h).1] at hd
          cases hd
  | cons c y ih =>
      cases z with
      | nil =>
          have hc := hy c List.mem_cons_self
          rw [(List.cons.inj h).1] at hc
          cases hc
      | cons d z =>
          obtain ⟨rfl, hrest⟩ := List.cons.inj h
          rw [ih (fun e he => hy e (List.mem_cons_of_mem _ he))
            (fun e he => hz e (List.mem_cons_of_mem _ he)) hrest]

/-- A head that stands directly after a sigil and a name stands after a sigil or a dot. -/
lemma not_separates {a y : Text} (hy : ∀ c ∈ y, Rule.isNamePart c = true)
    (hprev : Rule.mayPrecede (lastOf prev (a ++ rule.sigil :: y)) = true) :
    ¬ Separates (lastOf prev (a ++ rule.sigil :: y)) := by
  rw [lastOf_append, lastOf_cons] at hprev ⊢
  intro h
  rcases List.eq_nil_or_concat y with rfl | ⟨z, d, rfl⟩
  · have hsigil := (h rule.sigil rfl).1
    rw [isSigil_sigil] at hsigil
    cases hsigil
  · rw [List.concat_eq_append] at hy hprev h
    have hlast : lastOf (some rule.sigil) (z ++ [d]) = some d := by
      rw [lastOf, List.getLast?_concat]
      rfl
    rw [hlast] at hprev h
    have hpart := hy d (List.mem_append_right _ List.mem_cons_self)
    have hword : Text.isAsciiWord d = true := by
      rw [Rule.isNamePart, Bool.or_eq_true] at hpart
      rcases hpart with hword | hdot
      · exact hword
      · exact absurd (of_decide_eq_true hdot) (h d rfl).2
    rw [Rule.mayPrecede, hword] at hprev
    cases hprev

/-- The heads in a call and in what follows it. -/
lemma everyHead_call {p : Rule → Option Char → Option Text → Prop} {name : Option Text}
    (hname : rule.Admits name) {literal rest : Text} (hliteral : ∀ prev, EveryHead p prev literal)
    (hrest : EveryHead p (some ')') rest) (prev : Option Char) :
    EveryHead p prev (rule.rewrite name literal ++ rest) := by
  have hclose : EveryHead p (lastOf (lastOf (some '(') (Rule.leading name)) literal)
      ([')'] ++ rest) := .append_of_not_isSigil (not_isSigil_of_all (by decide)) hrest
  have hliteral' : EveryHead p (lastOf (some '(') (Rule.leading name))
      (literal ++ ([')'] ++ rest)) := by
    refine (hliteral _).append_of_not_isNamePart hclose fun c hc => ?_
    obtain rfl := Option.some_inj.mp hc
    exact ⟨rfl, by decide⟩
  have hopen : EveryHead p (lastOf prev rule.callee)
      (['('] ++ (Rule.leading name ++ (literal ++ ([')'] ++ rest)))) :=
    .append_of_not_isSigil (not_isSigil_of_all (by decide))
      (.append_of_not_isSigil (Rule.not_isSigil_of_mem_leading hname) hliteral')
  rw [Rule.rewrite_eq hname]
  simp only [List.append_assoc, List.cons_append]
  exact .append_of_not_isSigil not_isSigil_of_mem_callee hopen

/-- **A head that is left was there before, or is made of a sigil and a call behind it.** -/
lemma Replaces.everyHead {depth : Nat}
    (hnested : ∀ {inner coordinate expanded}, sigilCount coordinate ≤ depth →
      EveryHead (Remains touching fun _ => True) none coordinate →
        nested inner coordinate = .ok expanded →
          HeadNames (fun name => touching ∧ EndsInCall name) expanded)
    (h : Replaces nested rule prev t u) (hcount : sigilCount t ≤ depth + 1)
    (ht : EveryHead (Remains touching pending) prev t) :
    EveryHead (Remains touching fun rule' => pending rule' ∧ rule' ≠ rule) prev u := by
  have hother (rule' : Rule) (prev : Option Char) (name : Option Text)
      (h : Remains touching pending rule' prev name ∧ rule' ≠ rule) :
      Remains touching (fun rule' => pending rule' ∧ rule' ≠ rule) rule' prev name := by
    rcases h with ⟨⟨hpending, hprev⟩ | hcall, hne⟩
    · exact Or.inl ⟨⟨hpending, hne⟩, hprev⟩
    · exact Or.inr hcall
  induction h with
  | keep hkeep => exact (ht.and hkeep).imp hother
  | @head prev before coordinate after expanded literal rest name inner hbefore hprev hname
      hcoordinate hliteral _ ih =>
      rw [sigilCount_append, sigilCount_shortcut hname] at hcount
      have hhead := ht.append_right.1 hprev rule name (coordinate ++ ')' :: after)
        (Rule.headHere?_eq_some_iff.mpr ⟨rfl, hname, rfl⟩)
      have hinside : EveryHead (Remains touching pending) (some '(') (coordinate ++ ')' :: after) :=
        ht.append_right.2.append_right.2
      have hweaker : EveryHead (Remains touching fun _ => True) (some '(') coordinate :=
        hinside.append_left.imp fun _ _ _ h => h.imp_left fun h => ⟨trivial, h.2⟩
      have hcoordinate' : EveryHead (Remains touching fun _ => True) none coordinate :=
        hweaker.of_prev rfl fun _ _ h => h.imp_left fun _ => ⟨trivial, Or.inl separates_none⟩
      have hnames := (tame_coordinateLiteral hliteral).names _
        (hnested (by omega) hcoordinate' hcoordinate)
      have hcall := everyHead_call hname
        (fun prev => (hnames.everyHead prev).imp fun _ _ _ h => Or.inr h)
        (ih (by omega) hinside.append_right.2) (lastOf prev before)
      refine ((ht.append_left.and hbefore).imp hother).append hcall
        fun a₁ y₁ y₂ after' rule' name' ha hb hname' hy _ => ?_
      have hmethod : rule.callee = y₂ := by
        rw [Rule.rewrite_eq hname, List.append_assoc] at hb
        exact eq_of_append_paren Rule.isNamePart_of_mem_callee
          (fun c hc => hname'.isNamePart c (hy ▸ List.mem_append_right _ hc)) hb
      have htouching : touching := by
        rcases hhead with ⟨-, hseparates | htouching⟩ | ⟨htouching, -⟩
        · rw [ha] at hseparates hprev
          refine absurd hseparates (not_separates (fun c hc => ?_) hprev)
          exact hname'.isNamePart c (hy ▸ List.mem_append_left _ hc)
        · exact htouching
        · exact htouching
      refine Or.inr ⟨htouching, y₁, rule, ?_⟩
      rw [hmethod, ← hy]
      cases name' with
      | none =>
          obtain ⟨k, hk⟩ := rule.exists_callee_eq
          rw [← hmethod, hk] at hy
          exact absurd hy.symm (List.append_ne_nil_of_right_ne_nil _ (List.cons_ne_nil _ _))
      | some name' => rfl

/-- The heads after passes for some forms. -/
lemma everyHead_foldlM [HasShortcutErrors ε] {depth : Nat}
    (hnested : ∀ {inner coordinate expanded}, sigilCount coordinate ≤ depth →
      EveryHead (Remains touching fun _ => True) none coordinate →
        nested inner coordinate = .ok expanded →
          HeadNames (fun name => touching ∧ EndsInCall name) expanded)
    (hsigils : ∀ {inner coordinate expanded}, nested inner coordinate = .ok expanded →
      sigilCount expanded ≤ sigilCount coordinate)
    {start : Int} {rules : List Rule} (hcount : sigilCount t ≤ depth + 1)
    (ht : EveryHead (Remains touching pending) none t)
    (h : rules.foldlM (fun t rule => expandForm nested rule start none t) t = .ok u) :
    EveryHead (Remains touching fun rule => pending rule ∧ rule ∉ rules) none u := by
  induction rules generalizing t pending with
  | nil =>
      obtain rfl := Except.ok.inj h
      exact ht.imp fun rule _ _ h => h.imp_left fun h => ⟨⟨h.1, List.not_mem_nil⟩, h.2⟩
  | cons rule rules ih =>
      cases hpass : expandForm nested rule start none t with
      | error e =>
          rw [List.foldlM_cons, hpass] at h
          cases h
      | ok t' =>
          rw [foldlM_cons_of_ok hpass] at h
          have hreplaces := replaces_of_expandForm hpass
          have hcount' : sigilCount t' ≤ depth + 1 := by
            rcases hreplaces.sigils hsigils with ⟨rfl, -⟩ | hlt
            · exact hcount
            · omega
          refine (ih hcount' (hreplaces.everyHead hnested hcount ht) h).imp
            fun rule' _ _ h => h.imp_left fun h => ?_
          obtain ⟨⟨⟨hpending, hne⟩, hnot⟩, hprev⟩ := h
          exact ⟨⟨hpending, fun hmem => (List.mem_cons.mp hmem).elim hne hnot⟩, hprev⟩

/-- When all passes are done, no head is left but those that end with a call. -/
lemma headNames_expandWithin {rules : List Rule} (hrules : ∀ rule, rule ∈ rules) {depth : Nat}
    {start : Int} {t u : Text} (hcount : sigilCount t ≤ depth)
    (ht : EveryHead (Remains touching fun _ => True) none t)
    (h : expandWithin rules depth start t = .ok u) :
    HeadNames (fun name => touching ∧ EndsInCall name) u := by
  induction depth generalizing start t u with
  | zero =>
      obtain rfl := Except.ok.inj h
      exact .of_not_isSigil (not_isSigil_of_sigilCount_eq_zero (Nat.eq_zero_of_le_zero hcount))
  | succ depth ih =>
      have hheads := everyHead_foldlM (fun hcount ht h => ih hcount ht h) sigilCount_expandWithin
        hcount ht h
      refine hheads.imp fun rule _ _ h => ?_
      rcases h with ⟨⟨-, hnot⟩, -⟩ | hcall
      · exact absurd (hrules rule) hnot
      · exact hcall

end Heads

/-- No head in the text directly follows a sigil or a dot. -/
def HeadsSeparate (t : Text) : Prop := EveryHead (fun _ prev _ => Separates prev) none t

/-- What a pass keeps: the bound on the sigils, and that no head touches a sigil or a dot. -/
lemma separate_of_expandForm {rules : List Rule} (hrules : ∀ rule, rule ∈ rules) {depth : Nat}
    {start : Int} (hcount : sigilCount t ≤ depth + 1) (ht : HeadsSeparate t)
    (h : expandForm (expandWithin rules depth) rule start none t = .ok u) :
    sigilCount u ≤ depth + 1 ∧ HeadsSeparate u := by
  have hreplaces := replaces_of_expandForm h
  constructor
  · rcases hreplaces.sigils sigilCount_expandWithin with ⟨rfl, -⟩ | hlt
    · exact hcount
    · exact Nat.le_trans (Nat.le_of_lt hlt) hcount
  · have hremains : EveryHead (Remains False fun _ => True) none t :=
      EveryHead.imp ht fun _ _ _ h => Or.inl ⟨trivial, Or.inl h⟩
    refine EveryHead.imp (hreplaces.everyHead (headNames_expandWithin hrules) hcount hremains)
      fun _ _ _ h => ?_
    rcases h with ⟨-, hseparates | hfalse⟩ | ⟨hfalse, -⟩
    · exact hseparates
    · exact hfalse.elim
    · exact hfalse.elim

/-- **What an expansion leaves**: heads whose names end with a call, and none if the heads of the
source do not touch sigils and dots before them. -/
theorem headNames_expand {rules : List Rule} (hrules : ∀ rule, rule ∈ rules)
    (h : expand rules t = .ok u) :
    HeadNames EndsInCall u ∧ (HeadsSeparate t → ∀ rule ∈ rules, rule.findHead none u = none) := by
  constructor
  · have htouching : EveryHead (Remains True fun _ => True) none t :=
      .of_forall (fun _ _ _ => Or.inl ⟨trivial, Or.inr trivial⟩) none t
    exact (headNames_expandWithin hrules (Nat.le_refl _) htouching h).imp fun _ _ _ h => h.2
  · intro hseparate rule _
    have hnot : EveryHead (Remains False fun _ => True) none t :=
      EveryHead.imp hseparate fun _ _ _ h => Or.inl ⟨trivial, Or.inl h⟩
    exact Rule.findHead_eq_none_iff.mpr
      ((headNames_expandWithin hrules (Nat.le_refl _) hnot h).imp fun _ _ _ h => h.1.elim)

/-! ## Expanding a second time

A call has no sigils, but a sigil that stands before a shortcut stands before its call in the end,
and the two together may read as a new shortcut: of `$$()` the expansion is
`$self.get_relative_cell(…)`, which names a cube. So a second expansion may change the text. -/

/-- **When a second expansion changes nothing.** It does so exactly if the first has left no head.
That is so for every source in which no head touches a sigil or a dot before it. Whatever the
source, the heads that are left are those whose name ends with a call. -/
theorem expand_expand {s r : Text} (h : expand Rule.all s = .ok r) :
    (expand Rule.all r = .ok r ↔ ∀ rule : Rule, rule.findHead none r = none) ∧
      (HeadsSeparate s → expand Rule.all r = .ok r) ∧ HeadNames EndsInCall r := by
  obtain ⟨hnames, hseparate⟩ := headNames_expand Rule.mem_all h
  refine ⟨?_, fun hs => expand_eq_self_iff.mpr (hseparate hs), hnames⟩
  rw [expand_eq_self_iff]
  constructor
  · intro hheads rule
    exact hheads rule rule.mem_all
  · intro hheads rule _
    exact hheads rule

/-- The expansion of a well-formed fragment without sigils outside of its shortcuts. -/
lemma expand_eq_rewrite {f : Fragment .code} (h : f.WellFormed none) :
    expand Rule.all f.render = .ok (f.rewrite fun _ => true).render :=
  Fragment.expandWithin_render Rule.mem_all _ f.depth_le_sigilCount h 0

theorem expand_expand_relative :
    expand Rule.all "$()".toList = .ok "self.get_relative_cell(\x7b\x7d)".toList ∧
      HeadsSeparate "$()".toList ∧
      expand Rule.all "self.get_relative_cell(\x7b\x7d)".toList =
        .ok "self.get_relative_cell(\x7b\x7d)".toList := by
  have hexpand : expand Rule.all "$()".toList = .ok "self.get_relative_cell(\x7b\x7d)".toList := by
    have hwell : (Fragment.shortcut .relative none (.blank []) .empty).WellFormed none :=
      ⟨rfl, rfl, rfl, trivial⟩
    exact (expand_eq_rewrite hwell).trans (congrArg Except.ok (by decide))
  have hseparate : HeadsSeparate "$()".toList := by
    have hsource : "$()".toList = ['$', '(', ')'] := by simp
    rw [hsource]
    exact ⟨fun _ _ _ _ _ => separates_none, .of_not_isSigil (not_isSigil_of_all (by decide))⟩
  exact ⟨hexpand, hseparate, (expand_expand hexpand).2.1 hseparate⟩

/-- **A second expansion may change the text.** The sigil before the shortcut and the call that the
shortcut becomes read as a shortcut with the name of a cube. -/
theorem expand_expand_ne :
    expand Rule.all "$$()".toList = .ok "$self.get_relative_cell(\x7b\x7d)".toList ∧
      expand Rule.all "$self.get_relative_cell(\x7b\x7d)".toList =
        .ok "self.get_fixed_cell('self.get_relative_cell', \x7b\x7d)".toList ∧
      "self.get_fixed_cell('self.get_relative_cell', \x7b\x7d)".toList ≠
        "$self.get_relative_cell(\x7b\x7d)".toList := by
  refine ⟨?_, ?_, by decide⟩
  · have hsource : "$$()".toList = ['$', '$', '(', ')'] := by simp
    have hnested : Fragment.ExpandsBelow (expandWithin Rule.all 1) 1 :=
      fun coordinate hlt hwell offset => Fragment.expandWithin_render Rule.mem_all 1 (Nat.le_of_lt hlt)
        (Fragment.wellFormed_of_mayPrecede hwell rfl) offset
    -- The second pass keeps the first sigil and replaces the shortcut behind it.
    have hpass : expandForm (expandWithin Rule.all 1) .relative 0 none ['$', '$', '(', ')'] =
        .ok "$self.get_relative_cell(\x7b\x7d)".toList := by
      have hwell : (Fragment.shortcut .relative none (.blank []) .empty).WellFormed (some '$') :=
        ⟨rfl, rfl, rfl, trivial⟩
      have hmakes := Fragment.passMakes_render hnested (by decide) hwell .relative 1 []
      have hshortcut : expandForm (expandWithin Rule.all 1) .relative (0 + 1) (some '$')
          ['$', '(', ')'] = .ok "self.get_relative_cell(\x7b\x7d)".toList := by
        refine hmakes.trans ?_
        rw [expandForm_of_none rfl]
        exact congrArg Except.ok (by decide)
      rw [expandForm_skip (Or.inr (by decide)), hshortcut]
      exact congrArg Except.ok (by decide)
    have hcount : sigilCount ['$', '$', '(', ')'] = 2 := rfl
    rw [hsource, expand, hcount, expandWithin]
    generalize expandWithin Rule.all 1 = nested at hpass
    rw [Rule.all, foldlM_cons_of_ok (expandForm_of_none (by decide)), foldlM_cons_of_ok hpass,
      foldlM_cons_of_ok (expandForm_of_none (by decide)),
      foldlM_cons_of_ok (expandForm_of_none (by decide))]
    rfl
  · have hwell : (Fragment.shortcut .fixedCube (some "self.get_relative_cell".toList)
        (.bare (.group .curly .empty .empty)) .empty).WellFormed none :=
      ⟨rfl, ⟨rfl, by decide⟩, ⟨⟨trivial, trivial⟩, rfl, rfl, rfl, by decide⟩, trivial⟩
    exact (expand_eq_rewrite hwell).trans (congrArg Except.ok (by decide))

end FormulaCube
