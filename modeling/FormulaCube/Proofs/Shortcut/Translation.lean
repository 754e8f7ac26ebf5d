import FormulaCube.Proofs.Shortcut.Rewriting
import FormulaCube.Proofs.Shortcut.Shortcuts

/-!
# Expansion is translation

The expander makes one pass for each form over text that earlier passes have rewritten, and each
pass expands coordinates with all forms before it reads them. On well-formed source this comes to
the same as replacing every shortcut of the tree at once, in whatever order the forms are applied.

**One pass.** `Fragment.passMakes_render`: a pass over the text of a fragment makes the text of the
fragment in which the shortcuts of its form are calls, if coordinates are expanded rightly.

**All passes.** `Fragment.expandWithin_render`, `Fragment.expandLevels_render`: by induction on the
bound on the nesting, so are the coordinates.

**The expander.** `Fragment.expand_render`: the result for every order of the forms.

**Too few levels.** `Fragment.expandLevels_nest`: shortcuts that are nested as deep as there are levels
need not be expanded.
-/

namespace FormulaCube

namespace Fragment

/-! ## One pass -/

lemma lastOf_text (lead : EntryLead) (prev : Option Char) :
    lastOf prev lead.text = lead.text.getLast? := by
  obtain ⟨t, c, htext, -⟩ := lead.exists_text_eq_append
  rw [htext, lastOf, List.getLast?_concat]
  rfl

lemma not_isSigil_of_mem_text {lead : EntryLead} (h : lead.WellFormed) :
    ∀ c ∈ lead.text, isSigil c = false := by
  have hblank {t : Text} (ht : t.isBlankText = true) : ∀ c ∈ t, isSigil c = false := fun c hc =>
    not_isSigil_of_isPlain (EntryLead.isPlain_of_isBlankText ht c hc)
  intro c hc
  cases lead with
  | keyed before axis after =>
      obtain ⟨hbefore, haxis, hafter⟩ := h
      simp only [EntryLead.text, List.mem_append, List.mem_singleton] at hc
      rcases hc with hc | hc | hc | rfl
      · exact hblank hbefore c hc
      · cases axis with
        | name t => exact not_isSigil_of_isPlain (Axis.isPlain_of_isSimpleName haxis c hc)
        | quoted mark body => exact Axis.not_isSigil_of_mem_display haxis c hc
      · exact hblank hafter c hc
      · rfl
  | spread before =>
      simp only [EntryLead.text, List.mem_append, List.mem_cons, List.not_mem_nil, or_false] at hc
      rcases hc with hc | rfl | rfl
      · exact hblank h c hc
      · rfl
      · rfl

section

variable {ε : Type} [HasShortcutErrors ε] {nested : Int → Text → Except ε Text} {depth : Nat}

/-- What a pass needs of the expansion of coordinates: those in which shortcuts are nested less deep than
`depth` are expanded to the text in which all of them are calls. -/
def ExpandsBelow (nested : Int → Text → Except ε Text) (depth : Nat) : Prop :=
  ∀ coordinate : Fragment .coordinate, coordinate.depth < depth →
    coordinate.WellFormed (some '(') → ∀ offset,
      nested offset coordinate.render = .ok (coordinate.rewrite fun _ => true).render

/-- **A pass rewrites the shortcuts of its form.** -/
lemma passMakes_render (hnested : ExpandsBelow nested depth) {s : Spot} {f : Fragment s}
    (hf : f.depth ≤ depth) {prev : Option Char} (h : f.WellFormed prev) (rule : Rule) :
    PassMakes nested rule prev f.render (f.rewrite (· == rule)).render := by
  induction f generalizing prev with
  | empty => exact .nil prev
  | plain c rest ih =>
      exact .append (.singleton (not_isSigil_of_isPlain h.1) prev) (ih hf h.2)
  | literal body rest ih =>
      obtain ⟨hclosed, hsigils, -, hrest⟩ := h
      obtain ⟨mark, inner, rfl, -⟩ := exists_eq_of_isClosedLiteral hclosed
      have hlast : lastOf prev (mark :: (inner ++ [mark])) =
          (mark :: (inner ++ [mark])).getLast? := by
        rw [← List.cons_append, lastOf, List.getLast?_concat]
        rfl
      exact .append (.of_not_isSigil hsigils prev) (hlast ▸ ih hf hrest)
  | group bracket inner rest ihinner ihrest =>
      have hle : max inner.depth rest.depth ≤ depth := hf
      have hopen : isSigil bracket.opener = false := by cases bracket <;> rfl
      have hclose : isSigil bracket.closer = false := by cases bracket <;> rfl
      exact .append (.singleton hopen prev) (.append (ihinner (by omega) h.1)
        (.append (.singleton hclose _) (ihrest (by omega) h.2)))
  | shortcut rule' name coordinate rest ihcoordinate ihrest =>
      obtain ⟨hprev, hname, hcoordinate, hrest⟩ := h
      have hle : max (coordinate.depth + 1) rest.depth ≤ depth := hf
      have ihrest := ihrest (by omega) hrest
      by_cases hrule : rule' = rule
      · subst hrule
        have hcall := PassMakes.shortcut hprev hname (closingParen?_render coordinate hcoordinate)
          (hnested coordinate (by omega) hcoordinate)
          (coordinateLiteral_render _ (depth_rewrite_all coordinate)
            (wellFormed_rewrite hcoordinate fun _ => true))
        have hlast : lastOf prev
            (rule'.sigil :: (name.getD [] ++ '(' :: (coordinate.render ++ [')']))) = some ')' := by
          rw [← List.cons_append, ← List.cons_append, ← List.append_assoc, lastOf_append]
          rfl
        have htext : (shortcut rule' name coordinate rest).render =
            rule'.sigil :: (name.getD [] ++ '(' :: (coordinate.render ++ [')'])) ++
              rest.render := by
          simp only [render, List.cons_append, List.append_assoc, List.nil_append]
        rw [rewrite, if_pos (beq_self_eq_true rule'), render_call, callText_eq_rewrite hname, htext]
        exact .append hcall (hlast ▸ ihrest)
      · have hlast : lastOf prev (rule'.sigil :: (name.getD [] ++ ['('])) = some '(' := by
          rw [← List.cons_append, lastOf_append]
          rfl
        have htext (coordinate : Fragment .coordinate) (rest : Fragment .code) :
            (shortcut rule' name coordinate rest).render =
              rule'.sigil :: (name.getD [] ++ ['(']) ++
                (coordinate.render ++ ([')'] ++ rest.render)) := by
          simp only [render, List.cons_append, List.append_assoc, List.nil_append]
        rw [rewrite, if_neg (by rwa [beq_iff_eq]), htext, htext]
        exact .append (.head hrule hname prev)
          (hlast ▸ .append (ihcoordinate (by omega) hcoordinate)
            (.append (.singleton rfl _) ihrest))
  | blank t =>
      exact .of_not_isSigil
        (fun c hc => not_isSigil_of_isPlain (EntryLead.isPlain_of_isBlankText h c hc)) prev
  | bare f ih => exact ih hf h.1
  | keyed entries ih => exact ih hf h
  | last lead value ih =>
      obtain ⟨hlead, hvalue, -, -⟩ := h
      rw [← lastOf_text lead prev] at hvalue
      exact .append (.of_not_isSigil (not_isSigil_of_mem_text hlead) prev) (ih hf hvalue)
  | more lead value rest ihvalue ihrest =>
      obtain ⟨hlead, hvalue, -, -, hrest⟩ := h
      have hle : max value.depth rest.depth ≤ depth := hf
      rw [← lastOf_text lead prev] at hvalue
      exact .append (.of_not_isSigil (not_isSigil_of_mem_text hlead) prev)
        (.append (ihvalue (by omega) hvalue)
          (.append (.singleton rfl _) (ihrest (by omega) hrest)))

/-! ## All passes -/

/-- Only the character before a shortcut matters, and only to the shortcut. -/
lemma wellFormed_of_mayPrecede {s : Spot} {f : Fragment s} {prev prev' : Option Char}
    (h : f.WellFormed prev) (hprev : Rule.mayPrecede prev' = true) : f.WellFormed prev' := by
  induction f generalizing prev prev' with
  | shortcut rule name coordinate rest _ _ => exact ⟨hprev, h.2⟩
  | bare f ih => exact ⟨ih h.1 hprev, h.2⟩
  | keyed entries ih => exact ih h hprev
  | _ => exact h

lemma rewrite_none {s : Spot} (f : Fragment s) : f.rewrite (fun _ => false) = f := by
  induction f with
  | empty => rfl
  | plain c rest ih => exact congrArg (plain c) ih
  | literal body rest ih => exact congrArg (literal body) ih
  | group bracket inner rest ihinner ihrest => rw [rewrite, ihinner, ihrest]
  | shortcut rule name coordinate rest ihcoordinate ihrest =>
      rw [rewrite, if_neg Bool.false_ne_true, ihcoordinate, ihrest]
  | blank t => rfl
  | bare f ih => exact congrArg bare ih
  | keyed entries ih => exact congrArg keyed ih
  | last lead value ih => exact congrArg (last lead) ih
  | more lead value rest ihvalue ihrest => rw [rewrite, ihvalue, ihrest]

/-- **Passes one after the other rewrite the shortcuts of their forms.** -/
lemma foldlM_render (hnested : ExpandsBelow nested depth) (rules : List Rule) {s : Spot} {f : Fragment s}
    (hf : f.depth ≤ depth) (h : f.WellFormed none) (start : Int) :
    rules.foldlM (fun t rule => expandForm nested rule start none t) f.render =
      .ok (f.rewrite fun rule => rules.contains rule).render := by
  induction rules generalizing f with
  | nil =>
      have hnone : (fun rule : Rule => ([] : List Rule).contains rule) = fun _ => false := rfl
      rw [hnone, rewrite_none]
      rfl
  | cons rule rules ih =>
      have hpass :
          expandForm nested rule start none f.render = .ok (f.rewrite (· == rule)).render := by
        have hmakes := passMakes_render hnested hf h rule start []
        have hend : ∀ offset prev, expandForm nested rule offset prev [] = .ok [] :=
          fun offset prev => expandForm_of_none rfl
        rw [List.append_nil, hend] at hmakes
        rw [hmakes, Except.map, List.append_nil]
      have hle : (f.rewrite (· == rule)).depth ≤ depth :=
        Nat.le_trans (depth_rewrite_le f _) hf
      have hchosen : (fun rule' => rule' == rule || rules.contains rule') =
          fun rule' => (rule :: rules).contains rule' := by
        funext rule'
        rw [List.contains_cons]
      rw [foldlM_cons_of_ok hpass]
      exact (ih hle (wellFormed_rewrite h _)).trans (by rw [rewrite_rewrite, hchosen])

end

lemma contains_of_all {rules : List Rule} (hrules : ∀ rule, rule ∈ rules) :
    (fun rule => rules.contains rule) = fun _ => true :=
  funext fun rule => List.contains_iff_mem.mpr (hrules rule)

/-- **Within a bound on the nesting, all shortcuts are rewritten.** -/
theorem expandWithin_render {rules : List Rule} (hrules : ∀ rule, rule ∈ rules) (depth : Nat)
    {s : Spot} {f : Fragment s} (hf : f.depth ≤ depth) (h : f.WellFormed none) (start : Int) :
    expandWithin rules depth start f.render = .ok (f.rewrite fun _ => true).render := by
  induction depth generalizing s f start with
  | zero => rw [expandWithin, rewrite_of_depth_eq_zero (Nat.eq_zero_of_le_zero hf)]
  | succ depth ih =>
      have hnested : ExpandsBelow (expandWithin rules depth) (depth + 1) :=
        fun coordinate hlt hwell offset =>
          ih (Nat.le_of_lt_succ hlt) (wellFormed_of_mayPrecede hwell rfl) offset
      rw [expandWithin, foldlM_render hnested rules hf h start, contains_of_all hrules]

/-- **With more levels than shortcuts are nested deep, all of them are rewritten.** -/
theorem expandLevels_render {rules : List Rule} (hrules : ∀ rule, rule ∈ rules) {levels : Nat}
    {s : Spot} {f : Fragment s} (hf : f.depth < levels) (h : f.WellFormed none) (start : Int) :
    expandLevels rules levels start f.render = .ok (f.rewrite fun _ => true).render := by
  induction levels generalizing s f start with
  | zero => exact absurd hf (Nat.not_lt_zero _)
  | succ levels ih =>
      have hnested : ExpandsBelow (expandLevels rules levels) levels :=
        fun coordinate hlt hwell offset => ih hlt (wellFormed_of_mayPrecede hwell rfl) offset
      rw [expandLevels, foldlM_render hnested rules (Nat.le_of_lt_succ hf) h start,
        contains_of_all hrules]

/-! ## The expander -/

/-- Shortcuts are nested no deeper than there are sigils. -/
lemma depth_le_sigilCount {s : Spot} (f : Fragment s) : f.depth ≤ sigilCount f.render := by
  induction f with
  | empty => exact Nat.le_refl _
  | plain c rest ih =>
      simp only [depth, render, sigilCount, List.countP_cons] at ih ⊢
      omega
  | literal body rest ih =>
      simp only [depth, render, sigilCount, List.countP_append] at ih ⊢
      omega
  | group bracket inner rest ihinner ihrest =>
      simp only [depth, render, sigilCount, List.countP_append, List.countP_cons]
        at ihinner ihrest ⊢
      omega
  | shortcut rule name coordinate rest ihcoordinate ihrest =>
      simp only [depth, render, sigilCount, List.countP_append, List.countP_cons,
        isSigil_sigil, if_true]
        at ihcoordinate ihrest ⊢
      omega
  | blank t => exact Nat.zero_le _
  | bare f ih => exact ih
  | keyed entries ih => exact ih
  | last lead value ih =>
      simp only [depth, render, sigilCount, List.countP_append] at ih ⊢
      omega
  | more lead value rest ihvalue ihrest =>
      simp only [depth, render, sigilCount, List.countP_append, List.countP_cons]
        at ihvalue ihrest ⊢
      omega

lemma render_rewrite_eq_translation {f : Fragment .code} {prev : Option Char} (h : f.WellFormed prev) :
    (f.rewrite fun _ => true).render = f.translation := by
  have htranslation := render_rewrite_all h
  rwa [display_code] at htranslation

/-- **Expansion is translation.** Expanding the text of a well-formed fragment, with the forms in
any order, gives its translation if there are more levels than its shortcuts are nested deep. With any
number of levels it gives that, or the levels do not suffice. -/
theorem expand_render {rules : List Rule} (hrules : rules.Perm Rule.all) {f : Fragment .code}
    (h : f.WellFormed none) :
    expand rules f.render = .ok f.translation ∧
      (∀ levels, f.depth < levels → expandIn levels rules f.render = .ok f.translation) ∧
      ∀ levels, expandIn levels rules f.render = .ok f.translation ∨
        expandIn levels rules f.render = .error (.fault .tooDeep) := by
  have hmem : ∀ rule, rule ∈ rules := fun rule => hrules.mem_iff.mpr rule.mem_all
  have hwithin {depth : Nat} (hdepth : f.depth ≤ depth) :
      expandWithin rules depth 0 f.render = .ok f.translation := by
    rw [expandWithin_render hmem depth hdepth h, render_rewrite_eq_translation h]
  refine ⟨hwithin (depth_le_sigilCount f), fun levels hlevels => ?_, fun levels => ?_⟩
  · rw [expandIn, expandLevels_render hmem hlevels h, render_rewrite_eq_translation h]
  · have hlimited := expandLevels_limited rules (le_max_left levels f.depth) 0 f.render
    rw [hwithin (le_max_right levels f.depth)] at hlimited
    exact hlimited

/-- `1 + $rate(state: s, 'n': @(**c))`, as a tree. -/
def nestedSource : Fragment .code :=
  plains "1 + ".toList <|
    .shortcut .fixedCube (some "rate".toList)
      (.keyed <|
        .more (.keyed [] (.name "state".toList) []) (plains " s".toList .empty) <|
        .last (.keyed [' '] (.quoted '\'' ['n']) [])
          (.plain ' ' <| .shortcut .relativeAt none
            (.keyed <| .last (.spread []) (plains ['c'] .empty)) .empty))
      .empty

theorem expand_render_nestedSource :
    [Rule.relativeAt, .relativeCube, .relative, .fixedCube].Perm Rule.all ∧
      nestedSource.WellFormed none ∧
      nestedSource.render = "1 + $rate(state: s, 'n': @(**c))".toList ∧
      nestedSource.depth = 2 ∧
      expandIn 3 [Rule.relativeAt, .relativeCube, .relative, .fixedCube] nestedSource.render =
        .ok ("1 + self.get_fixed_cell('rate', \x7b'state': s, " ++
          "'n': self.get_relative_cell(\x7b**c\x7d)\x7d)").toList := by
  have hwell : nestedSource.WellFormed none := by
    simp only [nestedSource, plains, List.foldr, String.reduceToList, WellFormed,
      EntryLead.WellFormed, Axis.WellFormed, Rule.Admits, List.forall_mem_singleton]
    decide
  refine ⟨by decide, hwell, by decide, by decide,
    ((expand_render (by decide) hwell).2.1 3 (by decide)).trans ?_⟩
  exact congrArg Except.ok (by decide)

/-! ## Too few levels -/

/-- A shortcut in the coordinate of a shortcut, and so on, with that many around the innermost. -/
def nest : Nat → Fragment .code
  | 0 => .shortcut .relative none (.blank []) .empty
  | n + 1 => .shortcut .relative none (.bare (nest n)) .empty

lemma render_nest_succ (n : Nat) : (nest (n + 1)).render = '$' :: '(' :: ((nest n).render ++ [')']) :=
  rfl

lemma exists_render_nest_eq (n : Nat) : ∃ t, (nest n).render = '$' :: t := by
  cases n <;> exact ⟨_, rfl⟩

lemma wellFormed_nest (n : Nat) {prev : Option Char} (hprev : Rule.mayPrecede prev = true) :
    (nest n).WellFormed prev := by
  induction n generalizing prev with
  | zero => exact ⟨hprev, rfl, rfl, trivial⟩
  | succ n ih =>
      obtain ⟨t, ht⟩ := exists_render_nest_eq n
      have hlacks (sep : Char) : (nest n).lacks sep = true := by cases n <;> rfl
      have hstars : "**".toList.isPrefixOf (nest n).render.trim = false := by
        rw [ht, isPrefixOf_stars_cons rfl]
        rfl
      exact ⟨hprev, rfl, ⟨ih rfl, by rw [ht]; rfl, hlacks ',', hlacks ':', hstars⟩, trivial⟩

section

variable {ε : Type} [HasShortcutErrors ε] {nested : Int → Text → Except ε Text} {start : Int}

/-- Other forms have no heads in it. -/
lemma expandForm_nest_of_ne {rule : Rule} (hrule : .relative ≠ rule) (n : Nat) :
    expandForm nested rule start none (nest n).render = .ok (nest n).render := by
  have hmakes (prev : Option Char) : PassMakes nested rule prev (nest n).render (nest n).render := by
    have hname : Rule.relative.Admits none := rfl
    induction n generalizing prev with
    | zero => exact .append (.head hrule hname prev) (.singleton rfl _)
    | succ n ih => exact .append (.head hrule hname prev) (.append (ih _) (.singleton rfl _))
  have hpass := hmakes none start []
  rw [List.append_nil, expandForm_nil] at hpass
  rw [hpass, Except.map, List.append_nil]

/-- A pass fails where the coordinate of its first shortcut cannot be expanded. -/
lemma expandForm_relative_of_error {coordinate : Fragment .coordinate}
    (hwell : coordinate.WellFormed (some '(')) {e : ε}
    (h : ∀ inner, nested inner coordinate.render = .error e) :
    expandForm nested .relative start none (shortcut .relative none coordinate .empty).render =
      .error e := by
  have hclose := closingParen?_render coordinate hwell []
  have hbefore : EveryHead (fun rule _ _ => rule ≠ .relative) none [] := trivial
  have hname : Rule.relative.Admits none := rfl
  refine (expandForm_closed hbefore rfl hname hclose rfl).trans ?_
  rw [h]
  rfl

/-- The passes fail where the one for the form does. -/
lemma foldlM_nest {rules : List Rule} (hrules : .relative ∈ rules) {n : Nat} {e : ε}
    (h : expandForm nested .relative start none (nest n).render = .error e) :
    rules.foldlM (fun t rule => expandForm nested rule start none t) (nest n).render = .error e := by
  induction rules with
  | nil => exact absurd hrules List.not_mem_nil
  | cons rule rules ih =>
      by_cases hrule : .relative = rule
      · rw [List.foldlM_cons, ← hrule, h]
        rfl
      · rw [foldlM_cons_of_ok (expandForm_nest_of_ne hrule n)]
        exact ih (List.mem_of_ne_of_mem hrule hrules)

end

/-- **Coordinates are expanded from the outermost to the innermost**, and there are too few levels for
as many of them. -/
theorem expandLevels_nest {rules : List Rule} (hrules : .relative ∈ rules) {levels n : Nat}
    (h : levels ≤ n + 1) (start : Int) :
    expandLevels rules levels start (nest n).render = .error (.fault .tooDeep) := by
  induction levels generalizing n start with
  | zero => rfl
  | succ levels ih =>
      refine foldlM_nest hrules ?_
      cases n with
      | zero =>
          obtain rfl : levels = 0 := by omega
          have hwell : (blank []).WellFormed (some '(') := rfl
          exact expandForm_relative_of_error hwell fun inner => rfl
      | succ n =>
          have hprev : Rule.mayPrecede none = true := rfl
          have hwell : (bare (nest n)).WellFormed (some '(') := (wellFormed_nest (n + 1) hprev).2.2.1
          exact expandForm_relative_of_error hwell fun inner => ih (by omega) inner

lemma render_nest (n : Nat) : (nest n).render =
    (List.replicate (n + 1) "$(".toList).flatten ++ List.replicate (n + 1) ')' := by
  induction n with
  | zero => rfl
  | succ n ih =>
      have hopen : (List.replicate (n + 2) "$(".toList).flatten =
          '$' :: '(' :: (List.replicate (n + 1) "$(".toList).flatten := rfl
      have hclose : List.replicate (n + 2) ')' = List.replicate (n + 1) ')' ++ [')'] :=
        List.replicate_succ'
      rw [render_nest_succ, ih, hopen, hclose]
      simp only [List.cons_append, List.append_assoc]

/-- Five hundred shortcuts in each other are well-formed, and too many. -/
theorem expandIn_nest : (nest 499).WellFormed none ∧
    (nest 499).render = (List.replicate 500 "$(".toList).flatten ++ List.replicate 500 ')' ∧
    expandIn expansionLevels Rule.all (nest 499).render = .error (.fault .tooDeep) :=
  ⟨wellFormed_nest 499 rfl, render_nest 499, expandLevels_nest (by decide) (by decide) 0⟩

end Fragment

end FormulaCube
