import FormulaCube.Proofs.Shortcut.Separators
import Mathlib.Order.MinMax

/-!
# Blanks at the ends of a fragment

* `Text.trimRight_append`, `Text.trimLeft_trimRight` — blanks at the ends of a text.
* `Fragment.trimLeft`, `Fragment.trimRight` — a fragment without the blanks at its ends, and
  `Fragment.render_trimLeft`, `Fragment.render_trimRight` — what that is for its text.
* `Fragment.append` — two sequences, one after the other.
-/

namespace FormulaCube

/-! ## Texts -/

namespace Text

variable {c : Char} {a b t : Text}

lemma trimLeft_cons_of_not_isBlank (h : isBlank c = false) : trimLeft (c :: t) = c :: t := by
  rw [trimLeft, List.dropWhile_cons, if_neg (by rw [h]; exact Bool.false_ne_true)]

lemma trimLeft_cons_of_isBlank (h : isBlank c = true) : trimLeft (c :: t) = trimLeft t := by
  rw [trimLeft, List.dropWhile_cons, if_pos h]
  rfl

lemma trimLeft_append_of_isBlankText (h : a.isBlankText = true) :
    trimLeft (a ++ t) = trimLeft t := by
  induction a with
  | nil => rfl
  | cons c a ih =>
      rw [isBlankText, List.all_cons, Bool.and_eq_true] at h
      rw [List.cons_append, trimLeft_cons_of_isBlank h.1, ih h.2]

lemma trimRight_cons : trimRight (c :: t) =
    if trimRight t = [] then (if isBlank c then [] else [c]) else c :: trimRight t := by
  have hrest : trimRight t = dropTailWhile isBlank t := rfl
  rw [hrest, trimRight, dropTailWhile]
  cases dropTailWhile isBlank t with
  | nil => rfl
  | cons d kept => rfl

lemma trimRight_eq_nil_iff : trimRight t = [] ↔ t.isBlankText = true := by
  induction t with
  | nil => exact ⟨fun _ => rfl, fun _ => rfl⟩
  | cons c t ih =>
      rw [trimRight_cons, isBlankText, List.all_cons, Bool.and_eq_true]
      change _ ↔ _ ∧ isBlankText t = true
      rw [← ih]
      by_cases h : trimRight t = []
      · rw [if_pos h]
        by_cases hc : isBlank c = true
        · simp [hc, h]
        · simp [hc]
      · simp [h]

lemma trimRight_cons_of_not_isBlank (h : isBlank c = false) :
    trimRight (c :: t) = c :: trimRight t := by
  rw [trimRight_cons, h]
  split
  · rename_i hnil
    rw [hnil]
    rfl
  · rfl

/-- Blanks are taken away from the second part, and from the first only if the second is blank. -/
lemma trimRight_append (a b : Text) :
    trimRight (a ++ b) = if b.isBlankText = true then trimRight a else a ++ trimRight b := by
  induction a with
  | nil =>
      split
      · exact trimRight_eq_nil_iff.mpr (by assumption)
      · rfl
  | cons c a ih =>
      rw [List.cons_append, trimRight_cons, ih]
      split
      · rw [trimRight_cons]
      · rename_i hb
        have hne : ¬ a ++ trimRight b = [] := by
          intro h
          exact hb (trimRight_eq_nil_iff.mp (List.append_eq_nil_iff.mp h).2)
        rw [if_neg hne]
        rfl

/-- Before a character that is not blank nothing is taken away. -/
lemma trimRight_append_cons (hc : isBlank c = false) :
    trimRight (a ++ c :: t) = a ++ c :: trimRight t := by
  have hblank : ¬ isBlankText (c :: t) = true := by
    rw [isBlankText, List.all_cons, hc]
    exact Bool.false_ne_true
  rw [trimRight_append, if_neg hblank, trimRight_cons_of_not_isBlank hc]

lemma trimRight_concat (hc : isBlank c = false) : trimRight (a ++ [c]) = a ++ [c] :=
  trimRight_append_cons hc

lemma trimRight_trimRight (t : Text) : trimRight (trimRight t) = trimRight t := by
  induction t with
  | nil => rfl
  | cons c t ih =>
      rw [trimRight_cons]
      split
      · split
        · rfl
        · rename_i hc
          exact trimRight_cons_of_not_isBlank (by simpa using hc)
      · rename_i hne
        rw [trimRight_cons, ih, if_neg hne]

/-- The two ends have nothing to do with each other. -/
lemma trimLeft_trimRight (t : Text) : trimLeft (trimRight t) = trimRight (trimLeft t) := by
  induction t with
  | nil => rfl
  | cons c t ih =>
      cases hc : isBlank c with
      | true =>
          rw [trimLeft_cons_of_isBlank hc, ← ih, trimRight_cons, hc]
          split
          · rename_i hnil
            rw [hnil]
            rfl
          · exact trimLeft_cons_of_isBlank hc
      | false =>
          rw [trimLeft_cons_of_not_isBlank hc, trimRight_cons_of_not_isBlank hc,
            trimLeft_cons_of_not_isBlank hc]

@[simp] lemma trim_trimRight (t : Text) : trim (trimRight t) = trim t := by
  rw [trim, trim, trimLeft_trimRight, trimRight_trimRight]

lemma trimLeft_trimLeft (t : Text) : trimLeft (trimLeft t) = trimLeft t := by
  induction t with
  | nil => rfl
  | cons c t ih =>
      cases hc : isBlank c with
      | true => rw [trimLeft_cons_of_isBlank hc, ih]
      | false => rw [trimLeft_cons_of_not_isBlank hc, trimLeft_cons_of_not_isBlank hc]

lemma trim_trim (t : Text) : trim (trim t) = trim t :=
  (trim_trimRight (trimLeft t)).trans (congrArg trimRight (trimLeft_trimLeft t))

@[simp] lemma isBlankText_trimLeft (t : Text) : (trimLeft t).isBlankText = t.isBlankText := by
  induction t with
  | nil => rfl
  | cons c t ih =>
      cases hc : isBlank c with
      | true =>
          rw [trimLeft_cons_of_isBlank hc, ih, isBlankText, isBlankText, List.all_cons, hc,
            Bool.true_and]
      | false => rw [trimLeft_cons_of_not_isBlank hc]

@[simp] lemma isBlankText_trimRight (t : Text) : (trimRight t).isBlankText = t.isBlankText := by
  rw [Bool.eq_iff_iff, ← trimRight_eq_nil_iff, ← trimRight_eq_nil_iff, trimRight_trimRight]

lemma trim_eq_nil_iff : trim t = [] ↔ t.isBlankText = true := by
  rw [trim, trimRight_eq_nil_iff, isBlankText_trimLeft]

end Text

lemma startsQuote_trimRight {t : Text} (h : startsQuote t = false) :
    startsQuote t.trimRight = false := by
  cases t with
  | nil => rfl
  | cons c t =>
      rw [Text.trimRight_cons]
      split
      · split
        · rfl
        · exact h
      · exact h

/-! ## Fragments -/

namespace EntryLead

/-- The lead of an entry without the blanks before it. -/
def trimLeft : EntryLead → EntryLead
  | .keyed _ axis after => .keyed [] axis after
  | .spread _ => .spread []

/-- No axis begins with a blank, and none is empty. -/
lemma exists_text_eq {axis : Axis} (h : axis.WellFormed) :
    ∃ c t, axis.text = c :: t ∧ Text.isBlank c = false ∧ c ≠ '*' := by
  cases axis with
  | name t =>
      cases t with
      | nil => cases h
      | cons c rest =>
          have h' : CoordinateEntry.isSimpleName (c :: rest) = true := h
          rw [CoordinateEntry.isSimpleName, Bool.and_eq_true] at h'
          have hpart := isNamePart_of_isAsciiWord (isAsciiWord_of_isAsciiNameStart h'.1)
          refine ⟨c, rest, rfl, not_isBlank_of_isNamePart hpart, ?_⟩
          rintro rfl
          cases hpart
  | quoted mark body =>
      refine ⟨mark, body ++ [mark], rfl, not_isBlank_of_isQuote h.1, ?_⟩
      rintro rfl
      cases h.1

lemma trimLeft_text {lead : EntryLead} (h : lead.WellFormed) (t : Text) :
    (lead.text ++ t).trimLeft = lead.trimLeft.text ++ t := by
  cases lead with
  | keyed before axis after =>
      obtain ⟨c, rest, htext, hc, -⟩ := exists_text_eq h.2.1
      simp only [text, trimLeft, List.append_assoc, List.nil_append]
      rw [Text.trimLeft_append_of_isBlankText h.1, htext, List.cons_append,
        Text.trimLeft_cons_of_not_isBlank hc]
  | spread before =>
      have hstar : Text.isBlank '*' = false := rfl
      simp only [text, trimLeft, List.append_assoc, List.nil_append, List.cons_append]
      rw [Text.trimLeft_append_of_isBlankText h, Text.trimLeft_cons_of_not_isBlank hstar]

lemma wellFormed_trimLeft {lead : EntryLead} (h : lead.WellFormed) : lead.trimLeft.WellFormed := by
  cases lead with
  | keyed before axis after => exact ⟨rfl, h.2.1, h.2.2⟩
  | spread before => exact rfl

lemma display_trimLeft (lead : EntryLead) (value : Text) :
    lead.trimLeft.display value = lead.display value := by
  cases lead <;> rfl

/-- Before a value stands a colon or a star. -/
lemma exists_text_eq_append (lead : EntryLead) :
    ∃ t c, lead.text = t ++ [c] ∧ Text.isBlank c = false ∧ (c = ':' ∨ c = '*') := by
  cases lead with
  | keyed before axis after =>
      refine ⟨before ++ (axis.text ++ after), ':', ?_, rfl, Or.inl rfl⟩
      simp only [text, List.append_assoc]
  | spread before =>
      refine ⟨before ++ ['*'], '*', ?_, rfl, Or.inr rfl⟩
      simp only [text, List.append_assoc, List.cons_append, List.nil_append]

lemma trimRight_text (lead : EntryLead) (t : Text) :
    (lead.text ++ t).trimRight = lead.text ++ t.trimRight := by
  obtain ⟨u, c, htext, hc, -⟩ := lead.exists_text_eq_append
  rw [htext, List.append_assoc, List.append_assoc]
  exact Text.trimRight_append_cons hc

end EntryLead

lemma exists_eq_of_closesBlock {mark : Char} {t : Text} (h : closesBlock mark t = true) :
    ∃ body, t = body ++ [mark] := by
  induction t with
  | nil => cases h
  | cons c t ih =>
      rw [closesBlock] at h
      split at h
      · obtain rfl := of_decide_eq_true h
        exact ⟨[c, mark], rfl⟩
      · obtain ⟨body, rfl⟩ := ih h
        exact ⟨c :: body, rfl⟩

lemma exists_eq_of_closesLine {mark : Char} {t : Text} (h : closesLine mark t = true) :
    ∃ body, t = body ++ [mark] := by
  fun_induction closesLine mark t with
  | case1 => cases h
  | case2 => cases h
  | case3 d more ih =>
      obtain ⟨body, rfl⟩ := ih h
      exact ⟨Text.backslash :: d :: body, rfl⟩
  | case4 rest hback =>
      obtain rfl := List.isEmpty_iff.mp h
      exact ⟨[], rfl⟩
  | case5 => cases h
  | case6 c rest hback hmark hline ih =>
      obtain ⟨body, rfl⟩ := ih h
      exact ⟨c :: body, rfl⟩

/-- A closed literal begins and ends with its mark. -/
lemma exists_eq_of_isClosedLiteral {l : Text} (h : isClosedLiteral l = true) :
    ∃ mark body, l = mark :: (body ++ [mark]) ∧ Text.isQuote mark = true := by
  cases l with
  | nil => cases h
  | cons mark rest =>
      rw [isClosedLiteral, Bool.and_eq_true] at h
      obtain ⟨hquote, hclosed⟩ := h
      split at hclosed
      · rename_i hblock
        obtain ⟨more, rfl⟩ := List.isPrefixOf_iff_prefix.mp hblock
        have hclosed' : closesBlock mark more = true := hclosed
        obtain ⟨body, rfl⟩ := exists_eq_of_closesBlock hclosed'
        exact ⟨mark, mark :: mark :: body, rfl, hquote⟩
      · obtain ⟨body, rfl⟩ := exists_eq_of_closesLine hclosed
        exact ⟨mark, body, rfl, hquote⟩

lemma isBlank_opener (b : Bracket) : Text.isBlank b.opener = false := by
  cases b <;> rfl

lemma isBlank_closer (b : Bracket) : Text.isBlank b.closer = false := by
  cases b <;> rfl

lemma isBlank_sigil (rule : Rule) : Text.isBlank rule.sigil = false := by
  cases rule <;> rfl

namespace Fragment

/-- A sequence, or entries, without the blanks before it. -/
@[simp] def trimLeft : {s : Spot} → Fragment s → Fragment s
  | _, .plain c rest => if Text.isBlank c then rest.trimLeft else .plain c rest
  | _, .last lead value => .last lead.trimLeft value
  | _, .more lead value rest => .more lead.trimLeft value rest
  | _, .empty => .empty
  | _, .literal body rest => .literal body rest
  | _, .group bracket inner rest => .group bracket inner rest
  | _, .shortcut rule name coordinate rest => .shortcut rule name coordinate rest
  | _, .blank t => .blank t
  | _, .bare f => .bare f
  | _, .keyed entries => .keyed entries

/-- A sequence, or entries, without the blanks after it. -/
@[simp] def trimRight : {s : Spot} → Fragment s → Fragment s
  | _, .empty => .empty
  | _, .plain c rest =>
    if Text.isBlank c && rest.render.isBlankText then .empty else .plain c rest.trimRight
  | _, .literal body rest => .literal body rest.trimRight
  | _, .group bracket inner rest => .group bracket inner rest.trimRight
  | _, .shortcut rule name coordinate rest => .shortcut rule name coordinate rest.trimRight
  | _, .last lead value => .last lead value.trimRight
  | _, .more lead value rest => .more lead value rest.trimRight
  | _, .blank t => .blank t
  | _, .bare f => .bare f
  | _, .keyed entries => .keyed entries

/-- A sequence without the blanks at its ends. -/
def trim {s : Spot} (f : Fragment s) : Fragment s := f.trimLeft.trimRight

/-- One sequence after another. -/
@[simp] def append : {s : Spot} → Fragment s → Fragment .code → Fragment s
  | _, .empty, g => g
  | _, .plain c rest, g => .plain c (rest.append g)
  | _, .literal body rest, g => .literal body (rest.append g)
  | _, .group bracket inner rest, g => .group bracket inner (rest.append g)
  | _, .shortcut rule name coordinate rest, g => .shortcut rule name coordinate (rest.append g)
  | _, .blank t, _ => .blank t
  | _, .bare f, _ => .bare f
  | _, .keyed entries, _ => .keyed entries
  | _, .last lead value, _ => .last lead value
  | _, .more lead value rest, _ => .more lead value rest

/-! ## The texts -/

lemma render_trimLeft {s : Spot} (f : Fragment s) (hs : s ≠ .coordinate) {prev : Option Char}
    (h : f.WellFormed prev) : f.trimLeft.render = f.render.trimLeft := by
  induction f generalizing prev with
  | empty => rfl
  | plain c rest ih =>
      simp only [trimLeft, render]
      cases hc : Text.isBlank c with
      | true => rw [if_pos rfl, Text.trimLeft_cons_of_isBlank hc, ih hs h.2]
      | false => rw [if_neg Bool.false_ne_true, Text.trimLeft_cons_of_not_isBlank hc, render]
  | literal body rest ih =>
      obtain ⟨mark, inner, rfl, hmark⟩ := exists_eq_of_isClosedLiteral h.1
      exact (Text.trimLeft_cons_of_not_isBlank (not_isBlank_of_isQuote hmark)).symm
  | group bracket inner rest _ _ =>
      exact (Text.trimLeft_cons_of_not_isBlank (isBlank_opener bracket)).symm
  | shortcut rule name coordinate rest _ _ =>
      exact (Text.trimLeft_cons_of_not_isBlank (isBlank_sigil rule)).symm
  | blank t => exact absurd rfl hs
  | bare f _ => exact absurd rfl hs
  | keyed entries _ => exact absurd rfl hs
  | last lead value _ => exact (EntryLead.trimLeft_text h.1 _).symm
  | more lead value rest _ _ => exact (EntryLead.trimLeft_text h.1 _).symm

lemma render_trimRight {s : Spot} (f : Fragment s) (hs : s ≠ .coordinate) {prev : Option Char}
    (h : f.WellFormed prev) : f.trimRight.render = f.render.trimRight := by
  induction f generalizing prev with
  | empty => rfl
  | plain c rest ih =>
      have ih := ih hs h.2
      simp only [trimRight, render]
      rw [Text.trimRight_cons]
      by_cases hrest : rest.render.isBlankText = true
      · have hnil := Text.trimRight_eq_nil_iff.mpr hrest
        rw [hnil, if_pos rfl]
        cases hc : Text.isBlank c with
        | true =>
            rw [if_pos rfl, hrest]
            rfl
        | false =>
            rw [if_neg Bool.false_ne_true]
            show (Fragment.plain c rest.trimRight).render = [c]
            rw [render, ih, hnil]
      · have hne : ¬ rest.render.trimRight = [] := fun hnil =>
          hrest (Text.trimRight_eq_nil_iff.mp hnil)
        rw [if_neg hne, if_neg (by simp [hrest]), render, ih]
  | literal body rest ih =>
      obtain ⟨mark, inner, rfl, hmark⟩ := exists_eq_of_isClosedLiteral h.1
      simp only [trimRight, render, List.cons_append, List.append_assoc, List.nil_append]
      rw [Text.trimRight_cons_of_not_isBlank (not_isBlank_of_isQuote hmark),
        Text.trimRight_append_cons (not_isBlank_of_isQuote hmark), ih hs h.2.2.2]
  | group bracket inner rest _ ih =>
      simp only [trimRight, render]
      rw [Text.trimRight_cons_of_not_isBlank (isBlank_opener bracket),
        Text.trimRight_append_cons (isBlank_closer bracket), ih hs h.2]
  | shortcut rule name coordinate rest _ ih =>
      have hopen : Text.isBlank '(' = false := rfl
      have hclose : Text.isBlank ')' = false := rfl
      simp only [trimRight, render]
      rw [Text.trimRight_cons_of_not_isBlank (isBlank_sigil rule), Text.trimRight_append_cons hopen,
        Text.trimRight_append_cons hclose, ih hs h.2.2.2]
  | blank t => exact absurd rfl hs
  | bare f _ => exact absurd rfl hs
  | keyed entries _ => exact absurd rfl hs
  | last lead value ih =>
      simp only [trimRight, render]
      rw [lead.trimRight_text, ih (by decide) h.2.1]
  | more lead value rest _ ih =>
      have hcomma : Text.isBlank ',' = false := rfl
      simp only [trimRight, render]
      rw [lead.trimRight_text, Text.trimRight_append_cons hcomma, ih hs h.2.2.2.2]

/-- The text of one sequence after another. -/
lemma render_append : ∀ (f g : Fragment .code), (f.append g).render = f.render ++ g.render
  | .empty, g => rfl
  | .plain c rest, g => congrArg (c :: ·) (render_append rest g)
  | .literal body rest, g => by
      simp only [append, render, render_append rest g, List.append_assoc]
  | .group bracket inner rest, g => by
      simp only [append, render, render_append rest g, List.append_assoc, List.cons_append]
  | .shortcut rule name coordinate rest, g => by
      simp only [append, render, render_append rest g, List.append_assoc, List.cons_append]

/-! ## Shortcuts -/

lemma depth_shortcut_ne_zero (rule : Rule) (name : Option Text) (coordinate : Fragment .coordinate)
    (rest : Fragment .code) : (shortcut rule name coordinate rest).depth ≠ 0 := by
  rw [depth]
  omega

/-- What stands before a fragment matters only to the shortcut that it begins with. -/
lemma wellFormed_of_depth_eq_zero {s : Spot} {f : Fragment s} (hf : f.depth = 0)
    {prev : Option Char} (h : f.WellFormed prev) (prev' : Option Char) : f.WellFormed prev' := by
  induction f generalizing prev prev' with
  | shortcut rule name coordinate rest _ _ => exact absurd hf (depth_shortcut_ne_zero rule name _ _)
  | bare f ih => exact ⟨ih hf h.1 prev', h.2⟩
  | keyed entries ih => exact ih hf h prev'
  | _ => exact h

lemma depth_trimLeft_le {s : Spot} (f : Fragment s) : f.trimLeft.depth ≤ f.depth := by
  induction f with
  | plain c rest ih =>
      rw [trimLeft]
      split
      · exact ih
      · exact Nat.le_refl _
  | _ => exact Nat.le_refl _

lemma depth_trimRight_le {s : Spot} (f : Fragment s) :
    f.trimRight.depth ≤ f.depth := by
  induction f with
  | empty => exact Nat.le_refl _
  | plain c rest ih =>
      rw [trimRight]
      split
      · exact Nat.zero_le _
      · exact ih
  | literal body rest ih => exact ih
  | group bracket inner rest _ ih => exact max_le_max_left _ ih
  | shortcut rule name coordinate rest _ ih => exact max_le_max_left _ ih
  | blank t => exact Nat.le_refl _
  | bare f _ => exact Nat.le_refl _
  | keyed entries _ => exact Nat.le_refl _
  | last lead value ih => exact ih
  | more lead value rest _ ih => exact max_le_max_left _ ih

lemma depth_trim {s : Spot} {f : Fragment s} (h : f.depth = 0) : f.trim.depth = 0 := by
  have hright := depth_trimRight_le f.trimLeft
  have hleft := depth_trimLeft_le f
  rw [trim]
  omega

lemma depth_append : ∀ (f g : Fragment .code),
    (f.append g).depth = max f.depth g.depth
  | .empty, g => (Nat.zero_max _).symm
  | .plain _ rest, g => depth_append rest g
  | .literal _ rest, g => depth_append rest g
  | .group _ inner rest, g => by
      simp only [append, depth, depth_append rest g]
      omega
  | .shortcut _ _ coordinate rest, g => by
      simp only [append, depth, depth_append rest g]
      omega

/-! ## Separators -/

lemma lacks_trimLeft {s : Spot} {f : Fragment s} {sep : Char} (h : f.lacks sep = true) :
    f.trimLeft.lacks sep = true := by
  induction f with
  | plain c rest ih =>
      rw [trimLeft]
      split
      · rw [lacks, Bool.and_eq_true] at h
        exact ih h.2
      · exact h
  | last lead value _ => cases h
  | more lead value rest _ _ => cases h
  | _ => exact h

lemma lacks_trimRight {s : Spot} {f : Fragment s} {sep : Char} (h : f.lacks sep = true) :
    f.trimRight.lacks sep = true := by
  induction f with
  | empty => exact h
  | plain c rest ih =>
      rw [lacks, Bool.and_eq_true] at h
      rw [trimRight]
      split
      · rfl
      · rw [lacks, h.1, ih h.2]
        rfl
  | literal body rest ih => exact ih h
  | group bracket inner rest _ ih => exact ih h
  | shortcut rule name coordinate rest _ ih => exact ih h
  | blank t => exact h
  | bare f _ => exact h
  | keyed entries _ => exact h
  | last lead value _ => cases h
  | more lead value rest _ _ => cases h

/-! ## Well-formed fragments -/

lemma wellFormed_trimLeft {s : Spot} {f : Fragment s} (hf : f.depth = 0) {prev : Option Char}
    (h : f.WellFormed prev) : f.trimLeft.WellFormed prev := by
  induction f generalizing prev with
  | plain c rest ih =>
      have hrest : rest.depth = 0 := hf
      rw [trimLeft]
      split
      · exact ih hrest (wellFormed_of_depth_eq_zero hrest h.2 prev)
      · exact h
  | last lead value _ =>
      obtain ⟨hlead, hvalue, hnonblank, hlacks⟩ := h
      have hvalue' : value.depth = 0 := hf
      exact ⟨EntryLead.wellFormed_trimLeft hlead, wellFormed_of_depth_eq_zero hvalue' hvalue _,
        hnonblank, hlacks⟩
  | more lead value rest _ _ =>
      obtain ⟨hlead, hvalue, hnonblank, hlacks, hrest⟩ := h
      have hvalue' : value.depth = 0 := (Nat.max_eq_zero_iff.mp hf).1
      exact ⟨EntryLead.wellFormed_trimLeft hlead, wellFormed_of_depth_eq_zero hvalue' hvalue _,
        hnonblank, hlacks, hrest⟩
  | _ => exact h

lemma wellFormed_trimRight {s : Spot} {f : Fragment s} (hs : s ≠ .coordinate) {prev : Option Char}
    (h : f.WellFormed prev) : f.trimRight.WellFormed prev := by
  induction f generalizing prev with
  | empty => exact trivial
  | plain c rest ih =>
      rw [trimRight]
      split
      · exact trivial
      · exact ⟨h.1, ih hs h.2⟩
  | literal body rest ih =>
      obtain ⟨hclosed, hsigils, hnext, hrest⟩ := h
      refine ⟨hclosed, hsigils, ?_, ih hs hrest⟩
      rw [render_trimRight rest hs hrest]
      exact startsQuote_trimRight hnext
  | group bracket inner rest _ ih => exact ⟨h.1, ih hs h.2⟩
  | shortcut rule name coordinate rest _ ih => exact ⟨h.1, h.2.1, h.2.2.1, ih hs h.2.2.2⟩
  | blank t => exact absurd rfl hs
  | bare f _ => exact absurd rfl hs
  | keyed entries _ => exact absurd rfl hs
  | last lead value ih =>
      obtain ⟨hlead, hvalue, hnonblank, hlacks⟩ := h
      refine ⟨hlead, ih (by decide) hvalue, ?_, lacks_trimRight hlacks⟩
      rw [render_trimRight value (by decide) hvalue, Text.isBlankText_trimRight]
      exact hnonblank
  | more lead value rest _ ih =>
      obtain ⟨hlead, hvalue, hnonblank, hlacks, hrest⟩ := h
      exact ⟨hlead, hvalue, hnonblank, hlacks, ih hs hrest⟩

lemma wellFormed_trim {s : Spot} {f : Fragment s} (hs : s ≠ .coordinate) (hf : f.depth = 0)
    {prev : Option Char} (h : f.WellFormed prev) : f.trim.WellFormed prev :=
  wellFormed_trimRight hs (wellFormed_trimLeft hf h)

lemma render_trim {s : Spot} {f : Fragment s} (hs : s ≠ .coordinate) (hf : f.depth = 0)
    {prev : Option Char} (h : f.WellFormed prev) : f.trim.render = f.render.trim := by
  rw [trim, render_trimRight _ hs (wellFormed_trimLeft hf h), render_trimLeft f hs h]
  rfl

/-- One sequence may stand after another if it does not begin with a literal. -/
lemma wellFormed_append : ∀ {f g : Fragment .code} {prev : Option Char}, f.WellFormed prev →
    (∀ prev', g.WellFormed prev') → startsQuote g.render = false → (f.append g).WellFormed prev
  | .empty, g, prev, _, hg, _ => hg prev
  | .plain c rest, g, _, h, hg, hquote => ⟨h.1, wellFormed_append h.2 hg hquote⟩
  | .literal body rest, g, _, h, hg, hquote => by
      obtain ⟨hclosed, hsigils, hnext, hrest⟩ := h
      refine ⟨hclosed, hsigils, ?_, wellFormed_append hrest hg hquote⟩
      rw [render_append]
      exact startsQuote_append hnext hquote
  | .group bracket inner rest, g, _, h, hg, hquote =>
      ⟨h.1, wellFormed_append h.2 hg hquote⟩
  | .shortcut rule name coordinate rest, g, _, h, hg, hquote =>
      ⟨h.1, h.2.1, h.2.2.1, wellFormed_append h.2.2.2 hg hquote⟩

end Fragment

end FormulaCube
