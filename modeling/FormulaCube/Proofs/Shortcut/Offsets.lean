import Mathlib.Logic.Relation
import FormulaCube.Proofs.Shortcut.Independence

/-!
# Where an unbalanced shortcut is reported

A pass goes through the text that the passes before it have made, and counts from the beginning of
that text. So the offset at which an unbalanced shortcut is reported is the length of what has become
of the source before its head: the head stands in the source, but the complete shortcuts before it
may have been replaced by their calls, which have other lengths.

* `HeadBehind` — a head stands in a text behind another text.
* `RewritesOne` — one complete shortcut of a text is replaced by its call.
* `exists_of_expandForm` — a head that a pass leaves stood in the text before, behind what the pass
  has made of that.
* `expandForm_eq_error` — where a pass fails.
* `unbalanced_offset` — where an expansion reports an unbalanced shortcut.
* `unbalanced_offset_ne` — it may do so where the source has no head.
-/

namespace FormulaCube

variable {rule rule' : Rule} {prev : Option Char} {a k t u x x' : Text}

/-! ## Heads by their places -/

/-- A head of the form stands in the text, which follows `prev`, behind `x`. -/
def HeadBehind (rule : Rule) (prev : Option Char) (t x : Text) : Prop :=
  ∃ k, t = x ++ k ∧ Rule.mayPrecede (lastOf prev x) = true ∧ (rule.headHere? k).isSome = true

namespace HeadBehind

lemma iff_exists : HeadBehind rule prev t x ↔ ∃ name after, rule.Admits name ∧
    Rule.mayPrecede (lastOf prev x) = true ∧
      t = x ++ rule.sigil :: (name.getD [] ++ '(' :: after) := by
  constructor
  · rintro ⟨k, rfl, hprev, hhead⟩
    obtain ⟨⟨name, after⟩, hhead⟩ := Option.isSome_iff_exists.mp hhead
    cases k with
    | nil => cases hhead
    | cons c k =>
        obtain ⟨rfl, hname, rfl⟩ := Rule.headHere?_eq_some_iff.mp hhead
        exact ⟨name, after, hname, hprev, rfl⟩
  · rintro ⟨name, after, hname, hprev, rfl⟩
    refine ⟨_, rfl, hprev, ?_⟩
    rw [Rule.headHere?_eq_some_iff.mpr ⟨rfl, hname, rfl⟩]
    rfl

/-- A head stays where it is when the text goes on. -/
lemma append_left (h : HeadBehind rule prev a x) (k : Text) : HeadBehind rule prev (a ++ k) x := by
  obtain ⟨name, after, hname, hprev, rfl⟩ := iff_exists.mp h
  refine iff_exists.mpr ⟨name, after ++ k, hname, hprev, ?_⟩
  simp only [List.append_assoc, List.cons_append]

/-- A head stands behind whatever is put before the text. -/
lemma append_right (h : HeadBehind rule (lastOf prev a) k x) :
    HeadBehind rule prev (a ++ k) (a ++ x) := by
  obtain ⟨k', rfl, hprev, hhead⟩ := h
  exact ⟨k', (List.append_assoc _ _ _).symm, by rwa [lastOf_append], hhead⟩

/-- **Where a head stands in two texts**: in the first or in the second, if it is not in both. -/
lemma of_append (hparts : rule.Parts a k) (h : HeadBehind rule prev (a ++ k) x) :
    HeadBehind rule prev a x ∨ ∃ y, x = a ++ y ∧ HeadBehind rule (lastOf prev a) k y := by
  obtain ⟨name, after, hname, hprev, htext⟩ := iff_exists.mp h
  rcases List.append_eq_append_iff.mp htext with ⟨y, rfl, hk⟩ | ⟨y, ha, hy⟩
  · rw [lastOf_append] at hprev
    exact .inr ⟨y, rfl, iff_exists.mpr ⟨name, after, hname, hprev, hk⟩⟩
  · cases y with
    | nil =>
        rw [List.append_nil] at ha
        subst ha
        refine .inr ⟨[], (List.append_nil _).symm, iff_exists.mpr ⟨name, after, hname, hprev, ?_⟩⟩
        exact hy.symm
    | cons c y =>
        obtain ⟨hc, hrest⟩ := List.cons.inj hy
        subst hc
        rcases List.append_eq_append_iff.mp hrest with ⟨z, rfl, hz⟩ | ⟨z, hz, hk⟩
        · cases z with
          | nil =>
              rw [List.nil_append] at hz
              exact (hparts x (name.getD []) [] after name (by rw [ha, List.append_nil])
                hz.symm hname (List.append_nil _).symm).elim
          | cons d z =>
              obtain ⟨hd, -⟩ := List.cons.inj hz
              subst hd
              exact .inl (iff_exists.mpr ⟨name, z, hname, hprev, ha⟩)
        · exact (hparts x y z after name ha hk hname hz).elim

/-- No head stands in a text without sigils. -/
lemma of_append_of_not_isSigil (ha : ∀ c ∈ a, isSigil c = false)
    (h : HeadBehind rule prev (a ++ k) x) :
    ∃ y, x = a ++ y ∧ HeadBehind rule (lastOf prev a) k y := by
  have hsigil {y z : Text} (htext : a = y ++ rule.sigil :: z) : False := by
    have hmem := ha rule.sigil (htext ▸ List.mem_append_right _ List.mem_cons_self)
    rw [isSigil_sigil] at hmem
    cases hmem
  rcases h.of_append fun a₁ y₁ y₂ after name ha' _ _ _ => hsigil ha' with h | h
  · obtain ⟨name, after, -, -, htext⟩ := iff_exists.mp h
    exact (hsigil htext).elim
  · exact h

/-- What stands before a text matters only to a head at its beginning. -/
lemma of_prev {prev' : Option Char} (hprev : Rule.mayPrecede prev' = true)
    (h : HeadBehind rule prev t x) : HeadBehind rule prev' t x := by
  obtain ⟨k, rfl, hprev', hhead⟩ := h
  refine ⟨k, rfl, ?_, hhead⟩
  cases x with
  | nil => exact hprev
  | cons c x =>
      rw [lastOf_cons] at hprev' ⊢
      exact hprev'

lemma of_everyHead {p : Rule → Option Char → Option Text → Prop} (ht : EveryHead p prev t)
    (h : HeadBehind rule prev t x) : ∃ name, p rule (lastOf prev x) name := by
  obtain ⟨name, after, hname, hprev, rfl⟩ := iff_exists.mp h
  exact ⟨name, ht.append_right.1 hprev rule name after
    (Rule.headHere?_eq_some_iff.mpr ⟨rfl, hname, rfl⟩)⟩

end HeadBehind

/-! ## Shortcuts and their calls -/

/-- One complete shortcut of the text, which follows `prev`, is replaced by its call. -/
inductive RewritesOne (prev : Option Char) : Text → Text → Prop where
  /-- The coordinate is expanded and put into the call. -/
  | mk {rule : Rule} {before coordinate after expanded literal : Text} {name : Option Text}
      {inner : Int} (hprev : Rule.mayPrecede (lastOf prev before) = true) (hname : rule.Admits name)
      (hclose : closingParen? (coordinate ++ ')' :: after) = some coordinate.length)
      (hexpand : expand Rule.all coordinate = .ok expanded)
      (hliteral : coordinateLiteral expanded inner = .ok literal) :
      RewritesOne prev
        (before ++ rule.sigil :: (name.getD [] ++ '(' :: (coordinate ++ ')' :: after)))
        (before ++ (rule.rewrite name literal ++ after))

namespace RewritesOne

/-- What is put before the text stays. -/
lemma append_right (h : RewritesOne (lastOf prev k) t u) : RewritesOne prev (k ++ t) (k ++ u) := by
  cases h with
  | mk hprev hname hclose hexpand hliteral =>
      rw [← lastOf_append] at hprev
      rw [← List.append_assoc, ← List.append_assoc]
      exact .mk hprev hname hclose hexpand hliteral

lemma of_prev {prev' : Option Char} (hprev : Rule.mayPrecede prev' = true)
    (h : RewritesOne prev t u) : RewritesOne prev' t u := by
  cases h with
  | @mk rule before coordinate after expanded literal name inner hprev' hname hclose hexpand
      hliteral =>
      refine .mk ?_ hname hclose hexpand hliteral
      cases before with
      | nil => exact hprev
      | cons c before =>
          rw [lastOf_cons] at hprev' ⊢
          exact hprev'

end RewritesOne

/-- Some complete shortcuts of the text, which follows `prev`, are replaced by their calls. -/
def Rewrites (prev : Option Char) : Text → Text → Prop := Relation.ReflTransGen (RewritesOne prev)

lemma Rewrites.append_right (h : Rewrites (lastOf prev k) t u) : Rewrites prev (k ++ t) (k ++ u) :=
  Relation.ReflTransGen.lift (k ++ ·) (fun _ _ => RewritesOne.append_right) _ _ h

lemma Rewrites.of_prev {prev' : Option Char} (hprev : Rule.mayPrecede prev' = true)
    (h : Rewrites prev t u) : Rewrites prev' t u :=
  Relation.ReflTransGen.mono (fun _ _ => RewritesOne.of_prev hprev) _ _ h

/-! ## Heads that a pass leaves -/

section

variable {depth : Nat} {start : Int}

/-- A shortcut, and what follows it. -/
lemma shortcut_append (before coordinate after k : Text) (name : Option Text) :
    before ++ rule.sigil :: (name.getD [] ++ '(' :: (coordinate ++ ')' :: (after ++ k))) =
      (before ++ rule.sigil :: (name.getD [] ++ '(' :: (coordinate ++ ')' :: after))) ++ k := by
  simp only [List.append_assoc, List.cons_append]

/-- What a pass has gone through when it comes to the rest behind a shortcut. -/
lemma length_shortcut (before coordinate after : Text) (name : Option Text) :
    (before ++ rule.sigil :: (name.getD [] ++ '(' :: (coordinate ++ ')' :: after))).length =
      (before ++ rule.sigil :: (name.getD [] ++ ['('])).length + (coordinate ++ [')']).length +
        after.length := by
  simp only [List.length_append, List.length_cons, List.length_nil]
  omega

/-- A head behind a shortcut. -/
lemma headBehind_shortcut {before coordinate after w : Text} {name : Option Text}
    (h : HeadBehind rule' (some ')') after w) :
    HeadBehind rule' prev
      (before ++ rule.sigil :: (name.getD [] ++ '(' :: (coordinate ++ ')' :: after)))
      (before ++ rule.sigil :: (name.getD [] ++ '(' :: (coordinate ++ ')' :: w))) := by
  have hlast : lastOf prev
      (before ++ rule.sigil :: (name.getD [] ++ '(' :: (coordinate ++ [')']))) = some ')' := by
    simp only [lastOf_append, lastOf_cons]
    rfl
  rw [← hlast] at h
  have hbehind := h.append_right
  rwa [← shortcut_append, ← shortcut_append] at hbehind

/-- **A head behind a call** stands behind the closing parenthesis of the call: there is none in the
call. -/
lemma headBehind_call {name : Option Text} {literal rest : Text} (hname : rule.Admits name)
    (hliteral : HeadNames (fun _ => False) literal)
    (h : HeadBehind rule' prev (rule.rewrite name literal ++ rest) x') :
    ∃ y, x' = rule.rewrite name literal ++ y ∧ HeadBehind rule' (some ')') rest y := by
  have hclose : ∀ c ∈ (')' :: rest : Text).head?, Rule.isNamePart c = false ∧ c ≠ '(' := by
    intro c hc
    obtain rfl := Option.some_inj.mp hc
    decide
  have hopening : ∀ c ∈ rule.callee ++ '(' :: Rule.leading name, isSigil c = false := by
    intro c hc
    rcases List.mem_append.mp hc with hc | hc
    · exact not_isSigil_of_mem_callee c hc
    · rcases List.mem_cons.mp hc with rfl | hc
      · rfl
      · exact Rule.not_isSigil_of_mem_leading hname c hc
  have hcall (t : Text) : rule.rewrite name literal ++ t =
      (rule.callee ++ '(' :: Rule.leading name) ++ (literal ++ ([')'] ++ t)) := by
    rw [Rule.rewrite_eq hname]
    simp only [List.append_assoc, List.cons_append]
  rw [hcall] at h
  obtain ⟨y, rfl, hy⟩ := h.of_append_of_not_isSigil hopening
  rcases hy.of_append (Rule.parts_of_head? hclose literal) with hin | ⟨z, rfl, hz⟩
  · obtain ⟨name, hfalse⟩ := hin.of_everyHead (hliteral.everyHead _)
    exact hfalse.elim
  · have hparen : ∀ c ∈ [')'], isSigil c = false := not_isSigil_of_all (by decide)
    obtain ⟨w, rfl, hw⟩ := HeadBehind.of_append_of_not_isSigil hparen hz
    exact ⟨w, (hcall w).symm, hw⟩

/-- **A head that a pass leaves** stood in the text before, behind what the pass has made of that. -/
lemma exists_of_expandForm (hcount : sigilCount t ≤ depth + 1)
    (ht : EveryHead (fun _ prev _ => Separates prev) prev t)
    (h : expandForm (expandWithin Rule.all depth) rule start prev t = .ok u)
    (hx : HeadBehind rule' prev u x') : ∃ x, HeadBehind rule' prev t x ∧ Rewrites prev x x' := by
  induction shortcuts rule prev t generalizing start u x' with
  | none hnone =>
      rw [expandForm_of_everyHead hnone] at h
      obtain rfl := Except.ok.inj h
      exact ⟨x', hx, .refl⟩
  | opened hbefore hprev hname hopen =>
      rw [expandForm_opened hbefore hprev hname hopen] at h
      cases h
  | @closed prev before coordinate after name hbefore hprev hname hclose hrest ih =>
      rw [expandForm_closed hbefore hprev hname hclose rfl] at h
      obtain ⟨expanded, hnested, h⟩ := exists_of_bind_eq_ok h
      obtain ⟨literal, hliteral, h⟩ := exists_of_bind_eq_ok h
      obtain ⟨rest, hmade, rfl⟩ := exists_of_map_eq_ok h
      rw [mapError_ofShortcut] at hliteral
      rw [sigilCount_append, sigilCount_shortcut hname] at hcount
      have hseparates : Separates (lastOf prev before) := ht.append_right.1 hprev rule name _
        (Rule.headHere?_eq_some_iff.mpr ⟨rfl, hname, rfl⟩)
      have hinside : EveryHead (fun _ prev _ => Separates prev) (some '(')
          (coordinate ++ ')' :: after) := ht.append_right.2.append_right.2
      have hremains : EveryHead (Remains False fun _ => True) none coordinate :=
        (hinside.append_left.of_prev rfl fun _ _ _ => separates_none).imp
          fun _ _ _ h => Or.inl ⟨trivial, Or.inl h⟩
      have hnames : HeadNames (fun _ => False) literal :=
        ((tame_coordinateLiteral hliteral).names _ (headNames_expandWithin Rule.mem_all (by omega)
          hremains hnested)).imp fun _ _ _ h => h.1
      -- a head that goes on into the call would have the sigil of the shortcut behind it
      have hparts : rule'.Parts before (rule.rewrite name literal ++ rest) := by
        intro a₁ y₁ y₂ after' name' ha _ hname' hy
        rw [ha] at hseparates hprev
        exact not_separates (fun c hc => hname'.isNamePart c (hy ▸ List.mem_append_left _ hc)) hprev
          hseparates
      rw [List.append_assoc] at hx
      rcases hx.of_append hparts with hin | ⟨y, rfl, hy⟩
      · exact ⟨x', hin.append_left _, .refl⟩
      · obtain ⟨z, rfl, hz⟩ := headBehind_call hname hnames hy
        obtain ⟨w, hw, hwz⟩ := ih (by omega) hinside.append_right.2 hmade hz
        have hexpand : expand Rule.all coordinate = .ok expanded := by
          have hle : sigilCount coordinate ≤ depth := by omega
          rw [expand, ← expandWithin_eq hle]
          exact expandWithin_of_ok hnested 0
        have hcall : lastOf prev (before ++ rule.rewrite name literal) = some ')' := by
          rw [Rule.rewrite_eq hname]
          simp only [lastOf_append, lastOf_cons]
          rfl
        refine ⟨before ++ rule.sigil :: (name.getD [] ++ '(' :: (coordinate ++ ')' :: w)), ?_, ?_⟩
        · exact headBehind_shortcut hw
        · refine .head (.mk hprev hname (closingParen?_of_closed hclose w) hexpand hliteral) ?_
          rw [← List.append_assoc, ← List.append_assoc]
          rw [← hcall] at hwz
          exact hwz.append_right

end

/-! ## Where a pass fails -/

lemma problem_of_ofText {position : Int} {item : Text} {e : ShortcutError}
    (h : CoordinateEntry.ofText position item = .error e) : e.problem = .invalidEntry := by
  rw [CoordinateEntry.ofText] at h
  split at h
  · cases h
  · split at h
    · dsimp only at h
      split at h
      · split at h
        · obtain rfl := Except.error.inj h
          rfl
        · cases h
      · obtain rfl := Except.error.inj h
        rfl
    · cases h

/-- What is wrong with a coordinate is not its parenthesis. -/
lemma problem_of_coordinateLiteral {position : Int} {e : ShortcutError}
    (h : coordinateLiteral t position = .error e) :
    e.problem = .invalidEntry ∨ e.problem = .mixedEntries := by
  rw [coordinateLiteral] at h
  dsimp only at h
  split at h
  · cases h
  · rcases bind_eq_error h with hentries | ⟨entries, -, hkeyed⟩
    · obtain ⟨item, -, hitem⟩ := exists_of_mapM_eq_error hentries
      exact .inl (problem_of_ofText hitem)
    · split at hkeyed
      · cases hkeyed
      · split at hkeyed
        · obtain rfl := Except.error.inj hkeyed
          exact .inr rfl
        · cases hkeyed

/-- **Where a pass fails**: at a head whose parenthesis is not closed, or within the coordinate of a
shortcut, which is read from where it stands in the text. -/
lemma expandForm_eq_error {nested : Int → Text → Except ShortcutError Text} {start : Int}
    {e : ShortcutError} (h : expandForm nested rule start prev t = .error e) :
    (e.problem = .unbalanced rule ∧ ∃ x, HeadBehind rule prev t x ∧ e.position = start + x.length) ∨
    ∃ x coordinate after, t = x ++ '(' :: (coordinate ++ ')' :: after) ∧
      sigilCount coordinate < sigilCount t ∧
      (nested (start + (x ++ ['(']).length) coordinate = .error e ∨
        ∃ expanded, coordinateLiteral expanded (start + (x ++ ['(']).length) = .error e) := by
  induction shortcuts rule prev t generalizing start with
  | none hnone =>
      rw [expandForm_of_everyHead hnone] at h
      cases h
  | @opened prev before after name hbefore hprev hname hopen =>
      rw [expandForm_opened hbefore hprev hname hopen] at h
      obtain rfl := Except.error.inj h
      exact .inl ⟨rfl, before, HeadBehind.iff_exists.mpr ⟨name, after, hname, hprev, rfl⟩, rfl⟩
  | @closed prev before coordinate after name hbefore hprev hname hclose hrest ih =>
      have hcount := sigilCount_shortcut hname coordinate after
      have hopening : before ++ rule.sigil :: (name.getD [] ++ ['(']) =
          (before ++ rule.sigil :: name.getD []) ++ ['('] := by
        simp only [List.append_assoc, List.cons_append]
      have htext : before ++ rule.sigil :: (name.getD [] ++ '(' :: (coordinate ++ ')' :: after)) =
          (before ++ rule.sigil :: name.getD []) ++ '(' :: (coordinate ++ ')' :: after) := by
        simp only [List.append_assoc, List.cons_append]
      have hlt : sigilCount coordinate <
          sigilCount (before ++ rule.sigil :: (name.getD [] ++ '(' :: (coordinate ++ ')' :: after))) := by
        rw [sigilCount_append]
        omega
      rw [expandForm_closed hbefore hprev hname hclose rfl, hopening] at h
      rcases bind_eq_error h with hnested | ⟨expanded, -, h⟩
      · exact .inr ⟨_, coordinate, after, htext, hlt, .inl hnested⟩
      · rcases bind_eq_error h with hliteral | ⟨literal, -, h⟩
        · rw [mapError_ofShortcut] at hliteral
          exact .inr ⟨_, coordinate, after, htext, hlt, .inr ⟨expanded, hliteral⟩⟩
        · rw [← hopening] at h
          rcases ih (eq_error_of_map h) with ⟨hproblem, x, hx, hat⟩ |
            ⟨x, inside, behind, rfl, hfewer, hfails⟩
          · refine .inl ⟨hproblem, _, headBehind_shortcut hx, ?_⟩
            rw [hat, length_shortcut]
            omega
          · have hat : start + (before ++ rule.sigil :: (name.getD [] ++ ['('])).length +
                (coordinate ++ [')']).length + (x ++ ['(']).length = start + ((before ++ rule.sigil ::
                  (name.getD [] ++ '(' :: (coordinate ++ ')' :: x))) ++ ['(']).length := by
              rw [← shortcut_append, length_shortcut]
              omega
            rw [hat] at hfails
            refine .inr ⟨_, inside, behind, shortcut_append .., ?_, hfails⟩
            rw [sigilCount_append]
            omega

/-! ## Where an expansion fails -/

/-- What is reported of a text that begins at offset `start`: the head of the form stands in the
source, and the offset counts what has become of the source before it. -/
def ReportsHead (rule : Rule) (start position : Int) (source : Text) : Prop :=
  ∃ x x', HeadBehind rule none source x ∧ Rewrites none x x' ∧ position = start + x'.length

/-- The heads of the text stand in the source, behind what has become the text before them. -/
def StandsIn (source t : Text) : Prop :=
  ∀ rule x', HeadBehind rule none t x' → ∃ x, HeadBehind rule none source x ∧ Rewrites none x x'

section

variable {depth : Nat} {start : Int} {source : Text} {e : ShortcutError}

/-- A head in the coordinate of a shortcut is a head of the text. -/
lemma ReportsHead.of_coordinate {x coordinate after : Text} {position : Int}
    (hstands : StandsIn source (x ++ '(' :: (coordinate ++ after)))
    (h : ReportsHead rule (start + (x ++ ['(']).length) position coordinate) :
    ReportsHead rule start position source := by
  obtain ⟨y, y', hy, hrewrites, hat⟩ := h
  have hlast : lastOf none (x ++ ['(']) = some '(' := by
    rw [lastOf_append]
    rfl
  have htext : x ++ '(' :: (coordinate ++ after) = (x ++ ['(']) ++ (coordinate ++ after) := by
    simp only [List.append_assoc, List.cons_append, List.nil_append]
  have hparen : Rule.mayPrecede (lastOf none (x ++ ['('])) = true := by
    rw [hlast]
    rfl
  rw [htext] at hstands
  obtain ⟨z, hz, hbefore⟩ := hstands rule _ ((hy.of_prev hparen).append_left after).append_right
  refine ⟨z, x ++ ['('] ++ y', hz, hbefore.trans (hrewrites.of_prev hparen).append_right, ?_⟩
  have hlength : (x ++ ['('] ++ y').length = (x ++ ['(']).length + y'.length := List.length_append
  omega

/-- The passes one after the other: if one of them fails at a parenthesis, the head stands in the
source. -/
lemma reportsHead_of_foldlM
    (hnested : ∀ {inner coordinate}, sigilCount coordinate ≤ depth → HeadsSeparate coordinate →
      expandWithin Rule.all depth inner coordinate = .error e →
        ReportsHead rule inner e.position coordinate)
    (he : e.problem = .unbalanced rule) {pending : List Rule} (hcount : sigilCount t ≤ depth + 1)
    (ht : HeadsSeparate t) (hstands : StandsIn source t)
    (h : pending.foldlM (fun t rule => expandForm (expandWithin Rule.all depth) rule start none t) t =
      .error e) : ReportsHead rule start e.position source := by
  induction pending generalizing t with
  | nil => cases h
  | cons form pending ih =>
      rw [List.foldlM_cons] at h
      rcases bind_eq_error h with hpass | ⟨u, hpass, hlater⟩
      · rcases expandForm_eq_error hpass with ⟨hproblem, x, hx, hat⟩ |
          ⟨x, coordinate, after, rfl, hlt, hfails⟩
        · obtain rfl : form = rule := ShortcutProblem.unbalanced.inj (hproblem.symm.trans he)
          obtain ⟨z, hz, hbefore⟩ := hstands form x hx
          exact ⟨z, x, hz, hbefore, hat⟩
        · have hinside : HeadsSeparate coordinate :=
            (ht.append_right.2.append_left).of_prev rfl fun _ _ _ => separates_none
          rcases hfails with hinner | ⟨expanded, hliteral⟩
          · exact (hnested (by omega) hinside hinner).of_coordinate hstands
          · rcases problem_of_coordinateLiteral hliteral with hproblem | hproblem
            · rw [he] at hproblem
              cases hproblem
            · rw [he] at hproblem
              cases hproblem
      · obtain ⟨hcount', ht'⟩ := separate_of_expandForm Rule.mem_all hcount ht hpass
        refine ih hcount' ht' (fun form x' hx' => ?_) hlater
        obtain ⟨x, hx, hrewrites⟩ := exists_of_expandForm hcount ht hpass hx'
        obtain ⟨z, hz, hbefore⟩ := hstands form x hx
        exact ⟨z, hz, hbefore.trans hrewrites⟩

/-- At every bound on the nesting. -/
lemma reportsHead_of_expandWithin (he : e.problem = .unbalanced rule)
    (hcount : sigilCount t ≤ depth) (ht : HeadsSeparate t)
    (h : expandWithin Rule.all depth start t = .error e) :
    ReportsHead rule start e.position t := by
  induction depth generalizing start t with
  | zero => cases h
  | succ depth ih =>
      exact reportsHead_of_foldlM (fun hcount ht h => ih hcount ht h) he hcount ht
        (fun rule x hx => ⟨x, hx, .refl⟩) h

end

/-- **Where an unbalanced shortcut is reported.** If no head of the source directly follows a sigil
or a dot, then the reported form has a head in the source, and the offset counts what has become of
the source before that head: complete shortcuts in it may have been replaced by their calls. Where
there is no complete shortcut before the head, the offset is the place of the head. -/
theorem unbalanced_offset {s text : Text} {position : Int} (hs : HeadsSeparate s)
    (h : expand Rule.all s = .error ⟨.unbalanced rule, position, text⟩) :
    ∃ x x', HeadBehind rule none s x ∧ Rewrites none x x' ∧ position = x'.length ∧
      ((∀ u, ¬ RewritesOne none x u) → position = x.length) := by
  obtain ⟨x, x', hx, hrewrites, hat⟩ := reportsHead_of_expandWithin rfl (Nat.le_refl _) hs h
  rw [Int.zero_add] at hat
  refine ⟨x, x', hx, hrewrites, hat, fun hnone => ?_⟩
  rcases hrewrites.cases_head with rfl | ⟨u, hone, -⟩
  · exact hat
  · exact (hnone u hone).elim

/-- The first shortcut is complete and becomes a call; the second is reported behind the call. -/
lemma expand_unbalanced_behind_call : expand Rule.all "$A()@B(".toList =
    .error ⟨.unbalanced .relativeCube, 28, "@B(".toList⟩ := by
  have hsource : "$A()@B(".toList = [] ++ Rule.fixedCube.sigil ::
      ((some ['A'] : Option Text).getD [] ++ '(' :: ([] ++ ')' :: ['@', 'B', '('])) := by decide
  have hclose : closingParen? ([] ++ ')' :: ['@', 'B', '(']) = some ([] : Text).length := by
    rw [closingParen?, List.nil_append, ofText_code (by decide) rfl]
    rfl
  have hliteral : coordinateLiteral [] 3 = .ok "\x7b\x7d".toList := by
    rw [coordinateLiteral, withoutComments_nil]
    rfl
  have hopen : closingParen? [] = none := by
    rw [closingParen?, Piece.ofText]
    rfl
  -- the first pass replaces the complete shortcut
  have hfirst : expandForm (expandWithin Rule.all 1) .fixedCube 0 none "$A()@B(".toList =
      .ok "self.get_fixed_cell('A', \x7b\x7d)@B(".toList := by
    have hnested : expandWithin Rule.all 1 3 [] = .ok [] :=
      expandWithin_of_sigilCount_eq_zero rfl Rule.all 1 3
    have hname : Rule.fixedCube.Admits (some ['A']) := ⟨rfl, by decide⟩
    have hrest : expandForm (expandWithin Rule.all 1) .fixedCube (3 + 1) (some ')') ['@', 'B', '('] =
        .ok ['@', 'B', '('] := expandForm_of_none (by decide)
    have hbefore : EveryHead (fun rule' _ _ => rule' ≠ Rule.fixedCube) none [] := trivial
    rw [hsource, expandForm_closed hbefore rfl hname hclose rfl]
    show expandWithin Rule.all 1 3 [] >>= _ = _
    rw [hnested]
    show (coordinateLiteral [] 3).mapError _ >>= _ = _
    rw [hliteral]
    show Except.map _ (expandForm (expandWithin Rule.all 1) .fixedCube (3 + 1) _ _) = _
    rw [hrest]
    exact congrArg Except.ok (by decide)
  -- the third counts in what the first has made
  have hthird : expandForm (expandWithin Rule.all 1) .relativeCube 0 none
      "self.get_fixed_cell('A', \x7b\x7d)@B(".toList =
      .error ⟨.unbalanced .relativeCube, 28, "@B(".toList⟩ := by
    have hcall : "self.get_fixed_cell('A', \x7b\x7d)@B(".toList =
        "self.get_fixed_cell('A', \x7b\x7d)".toList ++ Rule.relativeCube.sigil ::
          ((some ['B'] : Option Text).getD [] ++ '(' :: []) := by decide
    have hname : Rule.relativeCube.Admits (some ['B']) := ⟨rfl, by decide⟩
    have hbefore : EveryHead (fun rule' _ _ => rule' ≠ Rule.relativeCube) none
        "self.get_fixed_cell('A', \x7b\x7d)".toList := Rule.findHead_eq_none_iff.mp (by decide)
    rw [hcall, expandForm_opened hbefore (by decide) hname hopen]
    refine congrArg Except.error ?_
    decide
  have hsecond : expandForm (expandWithin Rule.all 1) .relative 0 none
      "self.get_fixed_cell('A', \x7b\x7d)@B(".toList =
      .ok "self.get_fixed_cell('A', \x7b\x7d)@B(".toList := expandForm_of_none (by decide)
  have hcount : sigilCount "$A()@B(".toList = 2 := by decide
  rw [expand, hcount, expandWithin]
  generalize expandWithin Rule.all 1 = nested at hfirst hsecond hthird
  rw [Rule.all, foldlM_cons_of_ok hfirst, foldlM_cons_of_ok hsecond, List.foldlM_cons, hthird]
  rfl

/-- **The offset need not be the place of a head**, nor lie within the source: here the source has
seven characters. -/
theorem unbalanced_offset_ne :
    expand Rule.all "$A()@B(".toList = .error ⟨.unbalanced .relativeCube, 28, "@B(".toList⟩ ∧
      ¬ ∃ x, HeadBehind .relativeCube none "$A()@B(".toList x ∧ (28 : Int) = x.length := by
  refine ⟨expand_unbalanced_behind_call, ?_⟩
  rintro ⟨x, ⟨k, htext, -, -⟩, hat⟩
  have hlength : "$A()@B(".toList.length = 7 := by decide
  rw [htext, List.length_append] at hlength
  omega

/-- Where a sigil before the head belongs to no shortcut, the place of the head is reported. -/
lemma expand_unbalanced_behind_sigil : expand Rule.all "$ @B(".toList =
    .error ⟨.unbalanced .relativeCube, 2, "@B(".toList⟩ := by
  have hsource : "$ @B(".toList = "$ ".toList ++ Rule.relativeCube.sigil ::
      ((some ['B'] : Option Text).getD [] ++ '(' :: []) := by decide
  have hname : Rule.relativeCube.Admits (some ['B']) := ⟨rfl, by decide⟩
  have hopen : closingParen? [] = none := by
    rw [closingParen?, Piece.ofText]
    rfl
  have hthird : expandForm (expandWithin Rule.all 1) .relativeCube 0 none "$ @B(".toList =
      .error ⟨.unbalanced .relativeCube, 2, "@B(".toList⟩ := by
    have hbefore : EveryHead (fun rule' _ _ => rule' ≠ Rule.relativeCube) none "$ ".toList :=
      Rule.findHead_eq_none_iff.mp (by decide)
    rw [hsource, expandForm_opened hbefore (by decide) hname hopen]
    refine congrArg Except.error ?_
    decide
  have hcount : sigilCount "$ @B(".toList = 2 := by decide
  rw [expand, hcount, expandWithin]
  generalize expandWithin Rule.all 1 = nested at hthird
  rw [Rule.all, foldlM_cons_of_ok (expandForm_of_none (by decide)),
    foldlM_cons_of_ok (expandForm_of_none (by decide)), List.foldlM_cons, hthird]
  rfl

theorem unbalanced_offset_behind_call :
    (HeadsSeparate "$A()@B(".toList ∧
      expand Rule.all "$A()@B(".toList = .error ⟨.unbalanced .relativeCube, 28, "@B(".toList⟩ ∧
      ∃ x x', HeadBehind .relativeCube none "$A()@B(".toList x ∧ Rewrites none x x' ∧
        (28 : Int) = x'.length ∧ ((∀ u, ¬ RewritesOne none x u) → (28 : Int) = x.length)) ∧
    HeadsSeparate "$ @B(".toList ∧
      expand Rule.all "$ @B(".toList = .error ⟨.unbalanced .relativeCube, 2, "@B(".toList⟩ ∧
      ∃ x, HeadBehind .relativeCube none "$ @B(".toList x ∧ (∀ u, ¬ RewritesOne none x u) ∧
        (2 : Int) = x.length := by
  have hseparate : HeadsSeparate "$A()@B(".toList := by
    have hsource : "$A()@B(".toList = '$' :: ("A()".toList ++ '@' :: "B(".toList) := by decide
    rw [hsource]
    refine ⟨fun _ _ _ _ _ => separates_none, .append_of_not_isSigil (not_isSigil_of_all (by decide))
      ⟨fun _ _ _ _ _ c hc => ?_, .of_not_isSigil (not_isSigil_of_all (by decide))⟩⟩
    obtain rfl := Option.some_inj.mp hc
    exact ⟨rfl, by decide⟩
  have hseparate' : HeadsSeparate "$ @B(".toList := by
    have hsource : "$ @B(".toList = '$' :: (" ".toList ++ '@' :: "B(".toList) := by decide
    rw [hsource]
    refine ⟨fun _ _ _ _ _ => separates_none, .append_of_not_isSigil (not_isSigil_of_all (by decide))
      ⟨fun _ _ _ _ _ c hc => ?_, .of_not_isSigil (not_isSigil_of_all (by decide))⟩⟩
    obtain rfl := Option.some_inj.mp hc
    exact ⟨rfl, by decide⟩
  refine ⟨⟨hseparate, expand_unbalanced_behind_call,
    unbalanced_offset hseparate expand_unbalanced_behind_call⟩, hseparate',
    expand_unbalanced_behind_sigil, ?_⟩
  obtain ⟨x, -, hx, -, -, hplace⟩ := unbalanced_offset hseparate' expand_unbalanced_behind_sigil
  have hnone : ∀ u, ¬ RewritesOne none x u := by
    -- a complete shortcut has a closing parenthesis
    intro u hone
    have hparen : ')' ∈ x := by
      obtain ⟨-, -, -, -, -⟩ := hone
      simp
    obtain ⟨k, htext, -, -⟩ := hx
    have hmem : ')' ∈ "$ @B(".toList := htext ▸ List.mem_append_left k hparen
    exact absurd hmem (by decide)
  exact ⟨x, hx, hnone, hplace hnone⟩

end FormulaCube
