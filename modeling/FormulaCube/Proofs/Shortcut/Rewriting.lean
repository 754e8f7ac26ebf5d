import FormulaCube.Proofs.Shortcut.Display
import FormulaCube.Proofs.Shortcut.Passes

/-!
# Fragments in which some forms are rewritten

Each pass of the expansion replaces the shortcuts of one form and leaves those of the others, in
coordinates too.  What it leaves is again the text of a fragment.

* `Fragment.call` — a call on the running cell, as a fragment.
* `Fragment.rewrite` — the fragment in which the shortcuts of some forms are calls.
* `Fragment.rewrite_rewrite` — forms may be rewritten one after the other.
* `Fragment.wellFormed_rewrite` — the fragment stays well-formed.
* `Fragment.render_rewrite_all` — when all forms are rewritten, the text is the translation.
-/

namespace FormulaCube

/-! ## Calls -/

namespace Fragment

/-- Plain text, and what follows it. -/
def plains (t : Text) (rest : Fragment .code) : Fragment .code := t.foldr .plain rest

/-- What stands between the parentheses of a call. -/
def arguments (name : Option Text) (coordinate : Fragment .code) : Fragment .code :=
  match name with
  | some name => .literal ('\'' :: (name ++ ['\''])) (.plain ',' (.plain ' ' coordinate))
  | none => coordinate

/-- A call on the running cell, and what follows it. -/
def call (rule : Rule) (name : Option Text) (coordinate rest : Fragment .code) : Fragment .code :=
  plains rule.callee (.group .round (arguments name coordinate) rest)

/-- The fragment in which the shortcuts of the chosen forms are calls. The coordinate of a call has
no shortcuts left. -/
@[simp] def rewrite : {s : Spot} → (chosen : Rule → Bool) → Fragment s → Fragment s
  | _, _, .empty => .empty
  | _, chosen, .plain c rest => .plain c (rest.rewrite chosen)
  | _, chosen, .literal body rest => .literal body (rest.rewrite chosen)
  | _, chosen, .group bracket inner rest =>
    .group bracket (inner.rewrite chosen) (rest.rewrite chosen)
  | _, chosen, .shortcut rule name coordinate rest =>
    if chosen rule then
      call rule name (coordinate.rewrite fun _ => true).display (rest.rewrite chosen)
    else .shortcut rule name (coordinate.rewrite chosen) (rest.rewrite chosen)
  | _, _, .blank t => .blank t
  | _, chosen, .bare f => .bare (f.rewrite chosen)
  | _, chosen, .keyed entries => .keyed (entries.rewrite chosen)
  | _, chosen, .last lead value => .last lead (value.rewrite chosen)
  | _, chosen, .more lead value rest => .more lead (value.rewrite chosen) (rest.rewrite chosen)

lemma depth_plains (t : Text) (rest : Fragment .code) :
    (plains t rest).depth = rest.depth := by
  induction t with
  | nil => rfl
  | cons c t ih => exact ih

lemma render_plains (t : Text) (rest : Fragment .code) :
    (plains t rest).render = t ++ rest.render := by
  induction t with
  | nil => rfl
  | cons c t ih => exact congrArg (c :: ·) ih

lemma depth_arguments (name : Option Text) (coordinate : Fragment .code) :
    (arguments name coordinate).depth = coordinate.depth := by
  cases name <;> rfl

lemma depth_call (rule : Rule) (name : Option Text) (coordinate rest : Fragment .code) :
    (call rule name coordinate rest).depth = max coordinate.depth rest.depth := by
  rw [call, depth_plains, depth, depth_arguments]

/-- A call is its method, and in parentheses the name and the coordinate. -/
lemma callText_eq (rule : Rule) (name : Option Text) (coordinate : Text) :
    callText rule name coordinate =
      rule.callee ++ '(' :: (Rule.leading name ++ (coordinate ++ [')'])) := by
  have hfixed : "self.get_fixed_cell(".toList = "self.get_fixed_cell".toList ++ ['('] := by simp
  have hcube : "self.get_relative_cube_cell(".toList =
      "self.get_relative_cube_cell".toList ++ ['('] := by simp
  have hrelative : "self.get_relative_cell(".toList =
      "self.get_relative_cell".toList ++ ['('] := by simp
  have hmark : "', ".toList = ['\'', ',', ' '] := by simp
  unfold callText Rule.callee
  cases name <;> cases rule <;>
    simp only [Rule.leading, hfixed, hcube, hrelative, hmark, List.append_assoc, List.cons_append,
      List.nil_append]

/-- The call that a form makes is the one that its shortcut stands for. -/
lemma callText_eq_rewrite {rule : Rule} {name : Option Text} (h : rule.Admits name)
    (coordinate : Text) : callText rule name coordinate = rule.rewrite name coordinate := by
  rw [callText_eq, Rule.rewrite_eq h]

/-- The text of a call. -/
lemma render_call (rule : Rule) (name : Option Text) (coordinate rest : Fragment .code) :
    (call rule name coordinate rest).render =
      callText rule name coordinate.render ++ rest.render := by
  have harguments : (arguments name coordinate).render =
      Rule.leading name ++ coordinate.render := by
    cases name with
    | none => rfl
    | some name =>
        simp only [arguments, render, Rule.leading, List.append_assoc, List.cons_append,
          List.nil_append]
  rw [callText_eq, call, render_plains, render, harguments]
  simp only [Bracket.opener, Bracket.closer, List.append_assoc, List.cons_append, List.nil_append]

/-! ## Shortcuts that are left -/

lemma depth_rewrite_all {s : Spot} (f : Fragment s) :
    (f.rewrite fun _ => true).depth = 0 := by
  induction f with
  | empty => rfl
  | plain c rest ih => exact ih
  | literal body rest ih => exact ih
  | group bracket inner rest ihinner ihrest => simp only [rewrite, depth, ihinner, ihrest, max_self]
  | shortcut rule name coordinate rest ihcoordinate ihrest =>
      rw [rewrite, if_pos rfl, depth_call, depth_display ihcoordinate, ihrest, max_self]
  | blank t => rfl
  | bare f ih => exact ih
  | keyed entries ih => exact ih
  | last lead value ih => exact ih
  | more lead value rest ihvalue ihrest => simp only [rewrite, depth, ihvalue, ihrest, max_self]

/-- No pass nests shortcuts deeper. -/
lemma depth_rewrite_le {s : Spot} (f : Fragment s) (chosen : Rule → Bool) :
    (f.rewrite chosen).depth ≤ f.depth := by
  induction f with
  | empty => exact Nat.le_refl _
  | plain c rest ih => exact ih
  | literal body rest ih => exact ih
  | group bracket inner rest ihinner ihrest => exact max_le_max ihinner ihrest
  | shortcut rule name coordinate rest ihcoordinate ihrest =>
      rw [rewrite]
      split
      · rw [depth_call, depth_display (depth_rewrite_all coordinate), depth]
        omega
      · exact max_le_max (Nat.succ_le_succ ihcoordinate) ihrest
  | blank t => exact Nat.le_refl _
  | bare f ih => exact ih
  | keyed entries ih => exact ih
  | last lead value ih => exact ih
  | more lead value rest ihvalue ihrest => exact max_le_max ihvalue ihrest

/-- A fragment without shortcuts is left as it is. -/
lemma rewrite_of_depth_eq_zero {s : Spot} {f : Fragment s} (hf : f.depth = 0)
    (chosen : Rule → Bool) : f.rewrite chosen = f := by
  induction f with
  | empty => rfl
  | plain c rest ih => exact congrArg (plain c) (ih hf)
  | literal body rest ih => exact congrArg (literal body) (ih hf)
  | group bracket inner rest ihinner ihrest =>
      obtain ⟨hinner, hrest⟩ : inner.depth = 0 ∧ rest.depth = 0 :=
        Nat.max_eq_zero_iff.mp hf
      rw [rewrite, ihinner hinner, ihrest hrest]
  | shortcut rule name coordinate rest _ _ => exact absurd hf (depth_shortcut_ne_zero rule name _ _)
  | blank t => rfl
  | bare f ih => exact congrArg bare (ih hf)
  | keyed entries ih => exact congrArg keyed (ih hf)
  | last lead value ih => exact congrArg (last lead) (ih hf)
  | more lead value rest ihvalue ihrest =>
      obtain ⟨hvalue, hrest⟩ : value.depth = 0 ∧ rest.depth = 0 :=
        Nat.max_eq_zero_iff.mp hf
      rw [rewrite, ihvalue hvalue, ihrest hrest]

/-! ## One form after the other -/

lemma rewrite_plains (t : Text) (rest : Fragment .code) (chosen : Rule → Bool) :
    (plains t rest).rewrite chosen = plains t (rest.rewrite chosen) := by
  induction t with
  | nil => rfl
  | cons c t ih => exact congrArg (plain c) ih

lemma rewrite_call {coordinate : Fragment .code} (h : coordinate.depth = 0) (rule : Rule)
    (name : Option Text) (rest : Fragment .code) (chosen : Rule → Bool) :
    (call rule name coordinate rest).rewrite chosen =
      call rule name coordinate (rest.rewrite chosen) := by
  have harguments : (arguments name coordinate).depth = 0 := by
    rw [depth_arguments, h]
  rw [call, rewrite_plains, rewrite, rewrite_of_depth_eq_zero harguments]
  rfl

/-- **Forms may be rewritten one after the other.** -/
lemma rewrite_rewrite {s : Spot} (f : Fragment s) (chosen chosen' : Rule → Bool) :
    (f.rewrite chosen).rewrite chosen' = f.rewrite fun rule => chosen rule || chosen' rule := by
  induction f generalizing chosen chosen' with
  | empty => rfl
  | plain c rest ih => exact congrArg (plain c) (ih chosen chosen')
  | literal body rest ih => exact congrArg (literal body) (ih chosen chosen')
  | group bracket inner rest ihinner ihrest => simp only [rewrite, ihinner, ihrest]
  | shortcut rule name coordinate rest ihcoordinate ihrest =>
      have hfree := depth_display (depth_rewrite_all coordinate)
      by_cases h : chosen rule = true
      · rw [rewrite, if_pos h, rewrite_call hfree, ihrest, rewrite, if_pos (by rw [h]; rfl)]
      · have hcoordinate : (coordinate.rewrite chosen).rewrite (fun _ => true) =
            coordinate.rewrite fun _ => true := by
          rw [ihcoordinate]
          congr 1
          funext rule'
          exact Bool.or_true _
        rw [rewrite, if_neg h, rewrite, hcoordinate, ihcoordinate, ihrest, rewrite]
        by_cases h' : chosen' rule = true
        · rw [if_pos h', if_pos (by rw [h', Bool.or_true])]
        · rw [if_neg h', if_neg (by rw [Bool.or_eq_true]; exact not_or.mpr ⟨h, h'⟩)]
  | blank t => rfl
  | bare f ih => exact congrArg bare (ih chosen chosen')
  | keyed entries ih => exact congrArg keyed (ih chosen chosen')
  | last lead value ih => exact congrArg (last lead) (ih chosen chosen')
  | more lead value rest ihvalue ihrest => simp only [rewrite, ihvalue, ihrest]

/-! ## What a pass does not change -/

/-- The text of a call begins with a letter. -/
lemma exists_render_call_eq (rule : Rule) (name : Option Text) (coordinate rest : Fragment .code) :
    ∃ t, (call rule name coordinate rest).render = 's' :: t := by
  obtain ⟨t, ht⟩ := rule.exists_callee_eq
  exact ⟨_, by rw [render_call, callText_eq, ht, List.cons_append, List.cons_append]⟩

/-- The first character stays, but for the sigil of a shortcut that is now a call. -/
lemma head?_rewrite {f : Fragment .code} {prev : Option Char} (h : f.WellFormed prev)
    (chosen : Rule → Bool) :
    (f.rewrite chosen).render.head? = f.render.head? ∨
      (f.rewrite chosen).render.head? = some 's' ∧
        ∃ rule : Rule, f.render.head? = some rule.sigil := by
  cases f with
  | empty => exact Or.inl rfl
  | plain c rest => exact Or.inl rfl
  | literal body rest =>
      obtain ⟨mark, inner, rfl, -⟩ := exists_eq_of_isClosedLiteral h.1
      exact Or.inl rfl
  | group bracket inner rest => exact Or.inl rfl
  | shortcut rule name coordinate rest =>
      rw [rewrite]
      split
      · obtain ⟨t, ht⟩ := exists_render_call_eq rule name
          (coordinate.rewrite fun _ => true).display (rest.rewrite chosen)
        exact Or.inr ⟨by rw [ht]; rfl, rule, rfl⟩
      · exact Or.inl rfl

lemma startsQuote_eq (t : Text) : startsQuote t = t.head?.any Text.isQuote := by
  cases t <;> rfl

lemma startsQuote_rewrite {f : Fragment .code} {prev : Option Char} (h : f.WellFormed prev)
    (hquote : startsQuote f.render = false) (chosen : Rule → Bool) :
    startsQuote (f.rewrite chosen).render = false := by
  rw [startsQuote_eq] at hquote ⊢
  rcases head?_rewrite h chosen with heq | ⟨heq, -⟩
  · rw [heq, hquote]
  · rw [heq]
    rfl

lemma isBlankText_rewrite : ∀ (f : Fragment .code) (chosen : Rule → Bool),
    (f.rewrite chosen).render.isBlankText = f.render.isBlankText
  | .empty, _ => rfl
  | .plain c rest, chosen => congrArg (Text.isBlank c && ·) (isBlankText_rewrite rest chosen)
  | .literal body rest, chosen => by
      have ih := isBlankText_rewrite rest chosen
      rw [Text.isBlankText, Text.isBlankText] at ih
      rw [rewrite, render, render, Text.isBlankText, Text.isBlankText, List.all_append,
        List.all_append, ih]
  | .group bracket inner rest, chosen => by
      rw [rewrite, render, render, Text.isBlankText, Text.isBlankText, List.all_cons, List.all_cons,
        isBlank_opener, Bool.false_and, Bool.false_and]
  | .shortcut rule name coordinate rest, chosen => by
      have hleft : (shortcut rule name coordinate rest).render.isBlankText = false := by
        rw [render, Text.isBlankText, List.all_cons, isBlank_sigil, Bool.false_and]
      rw [hleft, rewrite]
      split
      · obtain ⟨t, ht⟩ := exists_render_call_eq rule name
          (coordinate.rewrite fun _ => true).display (rest.rewrite chosen)
        rw [ht]
        rfl
      · rw [render, Text.isBlankText, List.all_cons, isBlank_sigil, Bool.false_and]

lemma lacks_plains {t : Text} {sep : Char} (ht : sep ∉ t) {rest : Fragment .code}
    (hrest : rest.lacks sep = true) : (plains t rest).lacks sep = true := by
  induction t with
  | nil => exact hrest
  | cons c t ih =>
      obtain ⟨hc, ht⟩ := not_or.mp (mt List.mem_cons.mpr ht)
      exact Bool.and_eq_true_iff.mpr ⟨bne_iff_ne.mpr (Ne.symm hc), ih ht⟩

/-- A separator that is no part of a name separates nothing new. -/
lemma lacks_rewrite {s : Spot} {f : Fragment s} {sep : Char} (hsep : Rule.isNamePart sep = false)
    (h : f.lacks sep = true) (chosen : Rule → Bool) : (f.rewrite chosen).lacks sep = true := by
  induction f with
  | empty => rfl
  | plain c rest ih =>
      obtain ⟨hc, hrest⟩ := Bool.and_eq_true_iff.mp h
      exact Bool.and_eq_true_iff.mpr ⟨hc, ih hrest⟩
  | literal body rest ih => exact ih h
  | group bracket inner rest _ ih => exact ih h
  | shortcut rule name coordinate rest _ ih =>
      have hcallee : sep ∉ rule.callee := fun hmem => by
        rw [Rule.isNamePart_of_mem_callee sep hmem] at hsep
        cases hsep
      rw [rewrite]
      split
      · exact lacks_plains hcallee (ih h)
      · exact ih h
  | blank t => exact h
  | bare f ih => exact ih h
  | keyed entries ih => exact ih h
  | last lead value _ => cases h
  | more lead value rest _ _ => cases h

lemma isPrefixOf_trimRight {a : Text} (ha : ∀ c ∈ a, Text.isBlank c = false) (t : Text) :
    a.isPrefixOf t.trimRight = a.isPrefixOf t := by
  induction a generalizing t with
  | nil => rw [List.isPrefixOf_nil_left, List.isPrefixOf_nil_left]
  | cons c a ih =>
      cases t with
      | nil => rfl
      | cons d t =>
          have ih := ih (fun e he => ha e (List.mem_cons_of_mem _ he)) t
          by_cases hcd : c = d
          · subst hcd
            rw [Text.trimRight_cons_of_not_isBlank (ha c List.mem_cons_self),
              List.isPrefixOf_cons_cons, List.isPrefixOf_cons_cons, ih]
          · have hne : (c == d) = false := beq_eq_false_iff_ne.mpr hcd
            rw [Text.trimRight_cons]
            split
            · split
              · rw [List.isPrefixOf_cons_cons, hne, Bool.false_and]
                rfl
              · rw [List.isPrefixOf_cons_cons, List.isPrefixOf_cons_cons, hne, Bool.false_and,
                  Bool.false_and]
            · rw [List.isPrefixOf_cons_cons, List.isPrefixOf_cons_cons, hne, Bool.false_and,
                Bool.false_and]

/-- Whether a text begins with two stars is decided by its first characters that are not blank. -/
lemma isPrefixOf_stars_trim (t : Text) :
    "**".toList.isPrefixOf t.trim = "**".toList.isPrefixOf t.trimLeft := by
  have hall : "**".toList.all (fun c => !Text.isBlank c) = true := by decide
  exact isPrefixOf_trimRight
    (fun c hc => (Bool.not_eq_true' _).mp (List.all_eq_true.mp hall c hc)) t.trimLeft

lemma isPrefixOf_stars_cons {c : Char} (hblank : Text.isBlank c = false) (t : Text) :
    "**".toList.isPrefixOf (Text.trim (c :: t)) = ('*' == c && t.head? == some '*') := by
  have hstars : "**".toList = ['*', '*'] := by simp
  rw [isPrefixOf_stars_trim, Text.trimLeft_cons_of_not_isBlank hblank, hstars,
    List.isPrefixOf_cons_cons]
  cases t with
  | nil => rfl
  | cons d t =>
      rw [List.isPrefixOf_cons_cons, List.isPrefixOf_nil_left, Bool.and_true, List.head?_cons,
        Option.some_beq_some, Bool.beq_comm (a := d)]

lemma not_isPrefixOf_stars {c : Char} (hblank : Text.isBlank c = false) (hc : c ≠ '*') (t : Text) :
    "**".toList.isPrefixOf (Text.trim (c :: t)) = false := by
  rw [isPrefixOf_stars_cons hblank, beq_eq_false_iff_ne.mpr hc.symm, Bool.false_and]

/-- Two stars begin the text only if they did before. -/
lemma isPrefixOf_rewrite : ∀ {f : Fragment .code} {prev : Option Char}, f.WellFormed prev →
    "**".toList.isPrefixOf f.render.trim = false → ∀ chosen : Rule → Bool,
      "**".toList.isPrefixOf (f.rewrite chosen).render.trim = false
  | .empty, _, _, hstars, _ => hstars
  | .plain c rest, _, h, hstars, chosen => by
      rw [render] at hstars
      rw [rewrite, render]
      cases hblank : Text.isBlank c with
      | true =>
          rw [isPrefixOf_stars_trim, Text.trimLeft_cons_of_isBlank hblank,
            ← isPrefixOf_stars_trim] at hstars ⊢
          exact isPrefixOf_rewrite h.2 hstars chosen
      | false =>
          rw [isPrefixOf_stars_cons hblank] at hstars ⊢
          rcases head?_rewrite h.2 chosen with heq | ⟨heq, -⟩
          · rw [heq, hstars]
          · rw [heq]
            exact Bool.and_false _
  | .literal body rest, _, h, _, chosen => by
      obtain ⟨mark, inner, rfl, hmark⟩ := exists_eq_of_isClosedLiteral h.1
      refine not_isPrefixOf_stars (not_isBlank_of_isQuote hmark) ?_ _
      rintro rfl
      cases hmark
  | .group bracket inner rest, _, _, _, chosen => by
      refine not_isPrefixOf_stars (isBlank_opener bracket) ?_ _
      cases bracket <;> decide
  | .shortcut rule name coordinate rest, _, _, _, chosen => by
      rw [rewrite]
      split
      · obtain ⟨t, ht⟩ := exists_render_call_eq rule name
          (coordinate.rewrite fun _ => true).display (rest.rewrite chosen)
        rw [ht]
        exact not_isPrefixOf_stars (c := 's') rfl (by decide) t
      · refine not_isPrefixOf_stars (isBlank_sigil rule) ?_ _
        cases rule <;> decide

/-! ## The fragment stays well-formed -/

lemma wellFormed_plains {t : Text} (ht : ∀ c ∈ t, isPlain c = true) {rest : Fragment .code}
    (hrest : ∀ prev, rest.WellFormed prev) (prev : Option Char) :
    (plains t rest).WellFormed prev := by
  induction t generalizing prev with
  | nil => exact hrest prev
  | cons c t ih =>
      exact ⟨ht c List.mem_cons_self, ih (fun d hd => ht d (List.mem_cons_of_mem _ hd)) _⟩

lemma wellFormed_arguments {rule : Rule} {name : Option Text} (hname : rule.Admits name)
    {coordinate : Fragment .code} {prev : Option Char} (h : ∀ prev', coordinate.WellFormed prev') :
    (arguments name coordinate).WellFormed prev := by
  cases name with
  | none => exact h prev
  | some name =>
      have hpart := isNamePart_of_isCubeName hname.2
      have hclosed : isClosedLiteral ('\'' :: (name ++ ['\''])) = true := by
        refine Axis.isClosedLiteral_quoted rfl fun c hc => ⟨?_, ?_, ?_⟩
        all_goals
          rintro rfl
          cases hpart _ hc
      refine ⟨hclosed, fun c hc => ?_, rfl, rfl, rfl, h _⟩
      simp only [List.mem_cons, List.mem_append, List.not_mem_nil, or_false] at hc
      rcases hc with rfl | hc | rfl
      · rfl
      · exact not_isSigil_of_isPlain (isPlain_of_isNamePart (hpart c hc))
      · rfl

/-- A call is well-formed wherever it stands. -/
lemma wellFormed_call {rule : Rule} {name : Option Text} (hname : rule.Admits name)
    {coordinate rest : Fragment .code} (hcoordinate : ∀ prev, coordinate.WellFormed prev)
    (hrest : rest.WellFormed (some ')')) (prev : Option Char) :
    (call rule name coordinate rest).WellFormed prev := by
  refine wellFormed_plains (fun c hc => isPlain_of_isNamePart (Rule.isNamePart_of_mem_callee c hc))
    (fun prev => ?_) prev
  exact And.intro (wellFormed_arguments hname hcoordinate) hrest

/-- **No pass leaves a fragment that is not well-formed.** -/
theorem wellFormed_rewrite {s : Spot} {f : Fragment s} {prev : Option Char} (h : f.WellFormed prev)
    (chosen : Rule → Bool) : (f.rewrite chosen).WellFormed prev := by
  induction f generalizing prev chosen with
  | empty => trivial
  | plain c rest ih => exact ⟨h.1, ih h.2 chosen⟩
  | literal body rest ih =>
      obtain ⟨hclosed, hsigils, hquote, hrest⟩ := h
      exact ⟨hclosed, hsigils, startsQuote_rewrite hrest hquote chosen, ih hrest chosen⟩
  | group bracket inner rest ihinner ihrest => exact ⟨ihinner h.1 chosen, ihrest h.2 chosen⟩
  | shortcut rule name coordinate rest ihcoordinate ihrest =>
      obtain ⟨hprev, hname, hcoordinate, hrest⟩ := h
      rw [rewrite]
      split
      · exact wellFormed_call hname (wellFormed_display (depth_rewrite_all coordinate)
          (ihcoordinate hcoordinate fun _ => true)) (ihrest hrest chosen) prev
      · exact ⟨hprev, hname, ihcoordinate hcoordinate chosen, ihrest hrest chosen⟩
  | blank t => exact h
  | bare f ih =>
      obtain ⟨hcode, hnonblank, hcomma, hcolon, hstars⟩ := h
      exact ⟨ih hcode chosen, by rw [isBlankText_rewrite, hnonblank],
        lacks_rewrite rfl hcomma chosen, lacks_rewrite rfl hcolon chosen,
        isPrefixOf_rewrite hcode hstars chosen⟩
  | keyed entries ih => exact ih h chosen
  | last lead value ih =>
      obtain ⟨hlead, hvalue, hnonblank, hcomma⟩ := h
      exact ⟨hlead, ih hvalue chosen, by rw [isBlankText_rewrite, hnonblank],
        lacks_rewrite rfl hcomma chosen⟩
  | more lead value rest ihvalue ihrest =>
      obtain ⟨hlead, hvalue, hnonblank, hcomma, hrest⟩ := h
      exact ⟨hlead, ihvalue hvalue chosen, by rw [isBlankText_rewrite, hnonblank],
        lacks_rewrite rfl hcomma chosen, ihrest hrest chosen⟩

/-! ## The text when all forms are rewritten -/

lemma display_code (f : Fragment .code) : f.display = f := by
  cases f <;> rfl

/-- **Rewriting all forms is the translation.** -/
theorem render_rewrite_all {s : Spot} {f : Fragment s} {prev : Option Char}
    (h : f.WellFormed prev) :
    (f.rewrite fun _ => true).display.render = f.translation := by
  induction f generalizing prev with
  | empty => rfl
  | plain c rest ih =>
      have ih := ih h.2
      rw [display_code] at ih ⊢
      rw [rewrite, render, ih, translation]
  | literal body rest ih =>
      have ih := ih h.2.2.2
      rw [display_code] at ih ⊢
      rw [rewrite, render, ih, translation]
  | group bracket inner rest ihinner ihrest =>
      have ihinner := ihinner h.1
      have ihrest := ihrest h.2
      rw [display_code] at ihinner ihrest ⊢
      rw [rewrite, render, ihinner, ihrest, translation]
  | shortcut rule name coordinate rest ihcoordinate ihrest =>
      have ihrest := ihrest h.2.2.2
      rw [display_code] at ihrest ⊢
      rw [rewrite, if_pos rfl, render_call, ihcoordinate h.2.2.1, ihrest, translation]
  | blank t =>
      rw [translation]
      simp only [rewrite, display, render, Bracket.opener, Bracket.closer, List.nil_append,
        String.reduceToList]
  | bare f ih =>
      have ih := ih h.1
      rw [display_code] at ih
      rw [rewrite, display,
        render_trim (by decide) (depth_rewrite_all f) (wellFormed_rewrite h.1 _), ih,
        translation]
  | keyed entries ih =>
      rw [rewrite, display, render, render, ih h, translation]
      rfl
  | last lead value ih =>
      have ih := ih h.2.1
      rw [display_code] at ih
      rw [rewrite, display,
        render_fragment (depth_rewrite_all value) (wellFormed_rewrite h.2.1 _), ih, render,
        List.append_nil, translation]
  | more lead value rest ihvalue ihrest =>
      have hcomma : ", ".toList = [',', ' '] := by simp
      have ihvalue := ihvalue h.2.1
      rw [display_code] at ihvalue
      rw [rewrite, display,
        render_fragment (depth_rewrite_all value) (wellFormed_rewrite h.2.1 _), ihvalue, render,
        render, ihrest h.2.2.2.2, translation, hcomma]
      rfl

end Fragment

end FormulaCube
