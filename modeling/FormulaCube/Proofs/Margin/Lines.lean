import FormulaCube.Proofs.Margin.Marks
import FormulaCube.Proofs.Margin.Moved

/-!
# Lines with a margin in front

* `flagged` — the characters of pieces, each with whether it belongs to a literal; `markedLines_textOf` —
  the lines of a text whose literals are closed.
* `Moved.indent` — putting blanks in front of the lines of a text moves it.
* `Moved.dedent_eq` — taking away the blanks that all lines have in common makes both texts equal.
-/

namespace FormulaCube

/-! ## Pieces whose literals are closed -/

/-- The characters of pieces, each with whether it belongs to a literal. -/
def flagged (ps : List Piece) : List (Char × Bool) :=
  ps.flatMap fun x => x.text.map fun c => (c, x.isLiteral)

lemma flagged_cons (x : Piece) (ps : List Piece) :
    flagged (x :: ps) = x.text.map (fun c => (c, x.isLiteral)) ++ flagged ps := List.flatMap_cons

lemma map_fst_flagged (ps : List Piece) : (flagged ps).map Prod.fst = textOf ps := by
  induction ps with
  | nil => rfl
  | cons x ps ih =>
      rw [flagged_cons, textOf_cons, List.map_append, ih, List.map_map]
      exact congrArg (· ++ textOf ps) (List.map_id _)

lemma marks_congr (lead : List (Char × Bool)) {cs ds : List (Char × Bool)} (h : marks cs = marks ds) :
    marks (lead ++ cs) = marks (lead ++ ds) := by
  induction lead with
  | nil => exact h
  | cons c lead ih =>
      obtain ⟨c, inside⟩ := c
      rw [List.cons_append, List.cons_append, marks, marks, ih]

/-- The last character of a closed literal is its mark, not the end of a line. -/
lemma marks_flagged {p : Piece → Prop} {ps : List Piece} (htidy : Tidy p ps) :
    marks (ongoing ps) = marks (flagged ps) := by
  induction ps with
  | nil => rfl
  | cons x ps ih =>
      obtain ⟨t, c, htext⟩ := htidy.reread.1.exists_text_eq_concat
      rw [ongoing_cons htext, flagged_cons, htext, List.map_append, List.append_assoc]
      have hlast : x.isLiteral = true → c ≠ '\n' := by
        intro hx
        cases x with
        | code d => cases hx
        | comment body => cases hx
        | literal body cut =>
            obtain ⟨mark, rest, rfl, hmark⟩ := exists_eq_of_isClosedLiteral htidy.1.2
            have heq : (mark :: rest) ++ [mark] = t ++ [c] := htext
            obtain rfl := List.singleton_inj.mp (List.append_inj' heq rfl).2
            rintro rfl
            cases hmark
      refine marks_congr _ ?_
      show marks ((c, false) :: ongoing ps) = marks ((c, x.isLiteral) :: flagged ps)
      rw [marks, marks, ih htidy.2.2.2]
      cases hx : x.isLiteral with
      | false => rfl
      | true => rw [if_neg (hlast hx), if_neg (hlast hx)]

/-- **The lines of a text are those of its marked characters.** -/
lemma markedLines_textOf {p : Piece → Prop} {ps : List Piece} (h : Tidy p ps) :
    markedLines (textOf ps) = ((marks (flagged ps)).1, false) :: (marks (flagged ps)).2 := by
  rw [h.reread.markedLines_textOf, marks_flagged h]

/-! ## Lines on both sides -/

/-- A line and the same line with the margin. Lines that begin inside a literal stay as they are, and in
front of blanks the margin may be missing. -/
def LineMoved (width : Nat) (line line' : Text × Bool) : Prop :=
  line'.2 = line.2 ∧ (line'.1 = line.1 ∧ (line.2 = true ∨ line.1.isBlankText = true) ∨
    line.2 = false ∧ line'.1 = blanks width ++ line.1)

variable {p : Piece → Prop} {width : Nat} {ends fresh : Bool} {ps qs : List Piece}

/-- Lines of which the first are equal stay so behind a piece that ends no line of code. -/
lemma marks_append {cs ds : List (Char × Bool)} (lead : List (Char × Bool))
    (hlead : ∀ inside, ('\n', inside) ∈ lead → inside = true) (hfirst : (marks ds).1 = (marks cs).1)
    (hothers : List.Forall₂ (LineMoved width) (marks cs).2 (marks ds).2) :
    (marks (lead ++ ds)).1 = (marks (lead ++ cs)).1 ∧
      List.Forall₂ (LineMoved width) (marks (lead ++ cs)).2 (marks (lead ++ ds)).2 := by
  induction lead with
  | nil => exact ⟨hfirst, hothers⟩
  | cons c lead ih =>
      obtain ⟨c, inside⟩ := c
      obtain ⟨hfirst, hothers⟩ := ih fun inside h => hlead inside (List.mem_cons_of_mem _ h)
      by_cases hc : c = '\n'
      · subst hc
        obtain rfl := hlead inside List.mem_cons_self
        exact ⟨rfl, .cons ⟨rfl, .inl ⟨hfirst, .inl rfl⟩⟩ hothers⟩
      · rw [List.cons_append, List.cons_append, marks_cons hc, marks_cons hc]
        exact ⟨congrArg (c :: ·) hfirst, hothers⟩

lemma marks_blanks (cs : List (Char × Bool)) :
    marks ((blanks width).map (fun c => (c, false)) ++ cs) =
      (blanks width ++ (marks cs).1, (marks cs).2) :=
  marks_line (fun hmem => by cases mem_blanks hmem) false cs

lemma flagged_codes (t : Text) (ps : List Piece) :
    flagged (t.map .code ++ ps) = t.map (fun c => (c, false)) ++ flagged ps := by
  induction t with
  | nil => rfl
  | cons c t ih => exact congrArg ((c, false) :: ·) ih

/-- A newline in a piece that ends no line of code belongs to a literal. -/
lemma eq_true_of_newline_mem {x : Piece} (hx : x.IsWhole) (hline : x ≠ .code '\n') {inside : Bool}
    (h : ('\n', inside) ∈ x.text.map fun c => (c, x.isLiteral)) : inside = true := by
  obtain ⟨c, hc, heq⟩ := List.mem_map.mp h
  obtain ⟨rfl, rfl⟩ := Prod.mk.inj heq
  cases x with
  | literal body cut => rfl
  | code c => exact absurd (congrArg Piece.code (List.mem_singleton.mp hc).symm) hline
  | comment body =>
      obtain ⟨t, rfl, ht⟩ := hx
      rcases List.mem_cons.mp hc with heq | hc
      · cases heq
      · exact absurd hc ht

/-- The first line is blank if only blanks stand before its end. -/
lemma isBlankText_marks (cs : List (Char × Bool)) :
    (marks cs).1.isBlankText = opensBlankText true (cs.map Prod.fst) := by
  induction cs with
  | nil => rfl
  | cons c cs ih =>
      obtain ⟨c, inside⟩ := c
      by_cases hc : c = '\n'
      · subst hc
        rfl
      · rw [marks_cons hc, List.map_cons, opensBlankText, decide_eq_false hc, Bool.false_or, ← ih]
        rfl

lemma opensBlankText_true {t : Text} (h : opensBlankText ends t = true) :
    opensBlankText true t = true := by
  induction t with
  | nil => rfl
  | cons c t ih =>
      rw [opensBlankText, Bool.or_eq_true, Bool.and_eq_true] at h ⊢
      exact h.imp_right fun h => ⟨h.1, ih h.2⟩

/-- **The lines of both sides**: one by one they are the same, or there is the margin. -/
lemma Shifted.marks (htidy : Tidy p ps) (h : Shifted width ends fresh ps qs) :
    (if fresh then LineMoved width ((FormulaCube.marks (flagged ps)).1, false)
        ((FormulaCube.marks (flagged qs)).1, false)
      else (FormulaCube.marks (flagged qs)).1 = (FormulaCube.marks (flagged ps)).1) ∧
    List.Forall₂ (LineMoved width) (FormulaCube.marks (flagged ps)).2
      (FormulaCube.marks (flagged qs)).2 := by
  induction h with
  | nil => exact ⟨rfl, .nil⟩
  | @keep x ps qs hx _ ih =>
      obtain ⟨hfirst, hothers⟩ := ih htidy.2.2.2
      rw [flagged_cons, flagged_cons]
      exact marks_append _ (fun inside => eq_true_of_newline_mem htidy.1 hx) hfirst hothers
  | newline _ ih =>
      obtain ⟨hfirst, hothers⟩ := ih htidy.2.2.2
      exact ⟨rfl, .cons hfirst hothers⟩
  | margin _ ih =>
      obtain ⟨hfirst, hothers⟩ := ih htidy
      rw [flagged_codes, marks_blanks]
      exact ⟨⟨rfl, .inr ⟨rfl, congrArg (blanks _ ++ ·) hfirst⟩⟩, hothers⟩
  | blank hblank _ ih =>
      obtain ⟨hfirst, hothers⟩ := ih htidy
      refine ⟨⟨rfl, .inl ⟨hfirst, .inr ?_⟩⟩, hothers⟩
      rw [isBlankText_marks, map_fst_flagged]
      exact opensBlankText_true (opensBlank_eq htidy ▸ hblank)

lemma Moved.markedLines {t u : Text} (hp : ∀ c, p (.code c)) (h : Moved p width ends true t u) :
    List.Forall₂ (LineMoved width) (markedLines t) (FormulaCube.markedLines u) := by
  obtain ⟨ps, qs, rfl, rfl, htidy, hshift⟩ := h
  obtain ⟨hfirst, hothers⟩ := hshift.marks htidy
  rw [markedLines_textOf htidy, markedLines_textOf (hshift.tidy hp htidy)]
  exact .cons hfirst hothers

/-! ## Putting a margin in front -/

/-- Lines that begin in literals are put together as they are. -/
lemma join_marks_append {f : Text × Bool → Text} (hf : ∀ line, f (line, true) = line)
    (lead cs : List (Char × Bool)) (hlead : ∀ inside, ('\n', inside) ∈ lead → inside = true) :
    Text.join ['\n'] ((marks (lead ++ cs)).1 :: (marks (lead ++ cs)).2.map f) =
      lead.map Prod.fst ++ Text.join ['\n'] ((marks cs).1 :: (marks cs).2.map f) := by
  induction lead with
  | nil => rfl
  | cons c lead ih =>
      obtain ⟨c, inside⟩ := c
      have ih := ih fun inside h => hlead inside (List.mem_cons_of_mem _ h)
      rw [List.cons_append, List.map_cons, List.cons_append, ← ih]
      by_cases hc : c = '\n'
      · subst hc
        obtain rfl := hlead inside List.mem_cons_self
        rw [marks_cons_newline, List.map_cons, hf, join_nil_cons _ (List.cons_ne_nil _ _)]
        rfl
      · rw [marks_cons hc]
        exact join_append_cons _ [c] _ _

lemma indentLine_true (margin line : Text) : indentLine margin (line, true) = line := by
  rw [indentLine, Bool.or_true, if_pos rfl]

/-- The pieces `qs` are the pieces `ps` with the margin in front of all lines but the first. -/
def IsIndented (width : Nat) (ps qs : List Piece) : Prop :=
  Shifted width true false ps qs ∧ textOf qs = Text.join ['\n'] ((marks (flagged ps)).1 ::
    (marks (flagged ps)).2.map (indentLine (blanks width)))

/-- The first line gets the margin like the others. -/
lemma IsIndented.first (htidy : Tidy p ps) (h : IsIndented width ps qs) :
    ∃ qs, Shifted width true true ps qs ∧
      textOf qs = Text.join ['\n'] ((((marks (flagged ps)).1, false) :: (marks (flagged ps)).2).map
        (indentLine (blanks width))) := by
  obtain ⟨hshift, htext⟩ := h
  rw [List.map_cons, indentLine, Bool.or_false]
  split
  · rename_i hblank
    rw [isBlankText_marks, map_fst_flagged, ← opensBlank_eq htidy] at hblank
    exact ⟨qs, .blank hblank hshift, htext⟩
  · refine ⟨_, .margin hshift, ?_⟩
    rw [textOf_codes, htext]
    exact (join_append_cons _ _ _ _).symm

lemma exists_isIndented (htidy : Tidy p ps) (width : Nat) : ∃ qs, IsIndented width ps qs := by
  induction ps with
  | nil => exact ⟨[], .nil, rfl⟩
  | cons x ps ih =>
      obtain ⟨qs, hqs⟩ := ih htidy.2.2.2
      by_cases hx : x = .code '\n'
      · subst hx
        obtain ⟨qs, hshift, htext⟩ := hqs.first htidy.2.2.2
        refine ⟨.code '\n' :: qs, .newline hshift, ?_⟩
        have hmarks : marks (flagged (.code '\n' :: ps)) =
            ([], ((marks (flagged ps)).1, false) :: (marks (flagged ps)).2) := rfl
        rw [textOf_cons, htext, hmarks, List.map_cons]
        exact (join_nil_cons _ (List.cons_ne_nil _ _)).symm
      · refine ⟨x :: qs, .keep hx hqs.1, ?_⟩
        rw [textOf_cons, hqs.2, flagged_cons, join_marks_append (indentLine_true _) _ _ fun inside =>
          eq_true_of_newline_mem htidy.1 hx, List.map_map]
        exact congrArg (· ++ _) (List.map_id _).symm

/-- **A text is moved when a margin is put in front of its lines.** -/
theorem moved_indent {t : Text} (htidy : Tidy p (Piece.ofText t)) (width : Nat) :
    Moved p width true true t (indent (blanks width) t) := by
  obtain ⟨qs, hqs⟩ := exists_isIndented htidy width
  obtain ⟨qs, hshift, htext⟩ := hqs.first htidy
  have hwhole : t = textOf (Piece.ofText t) := (Piece.flatMap_text_ofText t).symm
  refine ⟨_, qs, hwhole, ?_, htidy, hshift⟩
  rw [htext, ← markedLines_textOf htidy, ← hwhole]
  rfl

/-! ## Taking the common margin away -/

namespace LineMoved

variable {line line' : Text × Bool} {lines lines' : List (Text × Bool)}

lemma isBlankText_eq (h : LineMoved width line line') : line'.1.isBlankText = line.1.isBlankText := by
  obtain ⟨-, ⟨hline, -⟩ | ⟨-, hline⟩⟩ := h
  · rw [hline]
  · rw [hline, isBlankText_blanks_append]

lemma isCodeLine_eq (h : LineMoved width line line') : isCodeLine line' = isCodeLine line := by
  rw [isCodeLine, isCodeLine, h.isBlankText_eq, h.1]

/-- In front of a line of code there is the margin. -/
lemma eq_append (h : LineMoved width line line') (hcode : isCodeLine line = true) :
    line'.1 = blanks width ++ line.1 := by
  rw [isCodeLine, Bool.and_eq_true, Bool.not_eq_true', Bool.not_eq_true'] at hcode
  obtain ⟨-, ⟨-, hother | hother⟩ | ⟨-, hline⟩⟩ := h
  · cases hcode.2.symm.trans hother
  · cases hcode.1.symm.trans hother
  · exact hline

lemma filter_isCodeLine (h : List.Forall₂ (LineMoved width) lines lines') :
    (lines'.filter isCodeLine).map Prod.fst =
      ((lines.filter isCodeLine).map Prod.fst).map (blanks width ++ ·) := by
  induction h with
  | nil => rfl
  | @cons line line' _ _ hline _ ih =>
      rw [List.filter_cons, List.filter_cons, hline.isCodeLine_eq]
      split
      · rename_i hcode
        rw [List.map_cons, List.map_cons, List.map_cons, ih, hline.eq_append hcode]
      · exact ih

lemma dedentLine_eq (h : LineMoved width line line') {n n' : Nat}
    (hn : isCodeLine line = true → n' = width + n) : dedentLine n' line' = dedentLine n line := by
  rw [dedentLine, dedentLine, h.1, h.isBlankText_eq]
  split
  · rename_i hinside
    obtain ⟨-, ⟨hline, -⟩ | ⟨houtside, -⟩⟩ := h
    · exact hline
    · cases hinside.symm.trans houtside
  · rename_i houtside
    split
    · rfl
    · rename_i hblank
      have hcode : isCodeLine line = true := by
        rw [isCodeLine, Bool.eq_false_iff.mpr hblank, Bool.eq_false_iff.mpr houtside]
        rfl
      have hlength : (blanks width).length = width := List.length_replicate
      rw [h.eq_append hcode, hn hcode, ← List.drop_drop]
      exact congrArg (List.drop n) (List.drop_left' hlength)

lemma map_dedentLine (h : List.Forall₂ (LineMoved width) lines lines') {n n' : Nat}
    (hn : ∀ line ∈ lines, isCodeLine line = true → n' = width + n) :
    lines'.map (dedentLine n') = lines.map (dedentLine n) := by
  induction h with
  | nil => rfl
  | cons hline _ ih =>
      rw [List.map_cons, List.map_cons, hline.dedentLine_eq (hn _ List.mem_cons_self),
        ih fun line hmem => hn line (List.mem_cons_of_mem _ hmem)]

end LineMoved

/-- **Without their common margin both texts are equal.** -/
theorem Moved.dedent_eq {t u : Text} (hp : ∀ c, p (.code c)) (h : Moved p width ends true t u) :
    dedent u = dedent t := by
  have hlines := h.markedLines hp
  rw [FormulaCube.dedent_eq, FormulaCube.dedent_eq, LineMoved.filter_isCodeLine hlines]
  refine congrArg (Text.join ['\n']) (LineMoved.map_dedentLine hlines fun line hmem hcode => ?_)
  have hne : ((FormulaCube.markedLines t).filter isCodeLine).map Prod.fst ≠ [] :=
    List.ne_nil_of_mem (List.mem_map_of_mem (List.mem_filter.mpr ⟨hmem, hcode⟩))
  rw [commonMargin_map (isBlankText_blanks width) hne, List.length_append]
  exact congrArg (· + _) List.length_replicate

end FormulaCube
