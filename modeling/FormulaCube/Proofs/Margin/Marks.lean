import FormulaCube.Proofs.Cutting
import FormulaCube.Proofs.Pieces.Reading
import FormulaCube.Source.Indentation

/-!
# Lines that begin inside a literal

Which lines begin inside a literal is given in numbers: of lines, and of characters before them. Here it
is said of the pieces of a text, whose characters are marked.

* `lineSpansFrom` — in which lines the literals among pieces begin and end; `literalLines_eq` — in which
  those of a text do.
* `marks` — the lines of marked characters; `markedLines_eq` — they are the lines of the text. A line
  behind the last character of a literal is one of code, also where the literal ends with its line or with
  the text.
* `indentLine`, `dedentLine` — what is done with one line; `commonMargin_map` — the margin of lines that
  have one more.
-/

namespace FormulaCube

/-! ## Numbers of lines -/

/-- For each literal among pieces of which the first stands in line `n`, the lines in which it begins
and ends. -/
def lineSpansFrom : (n : Nat) → List Piece → List (Nat × Nat)
  | _, [] => []
  | n, .literal body cut :: ps =>
    (n, n + (if cut then body else body.dropLast).count '\n') ::
      lineSpansFrom (n + body.count '\n') ps
  | n, x :: ps => lineSpansFrom (n + x.text.count '\n') ps

lemma take_before_last (lead : Text) {body : Text} (h : body ≠ []) (k : Text) :
    (lead ++ body ++ k).take (lead.length + body.length - 1) = lead ++ body.dropLast := by
  have htext : lead ++ body ++ k = (lead ++ body.dropLast) ++ ([body.getLast h] ++ k) := by
    conv => lhs; rw [← List.dropLast_concat_getLast h]
    simp only [List.append_assoc]
  have hlength : lead.length + body.length - 1 = (lead ++ body.dropLast).length := by
    have hpos := List.length_pos_iff.mpr h
    rw [List.length_append, List.length_dropLast]
    omega
  rw [htext, hlength, List.take_left]

/-- The numbers of lines are those of newlines in front. -/
lemma map_spansFrom {ps : List Piece} (hps : Reread ps) (lead : Text) :
    (spansFrom lead.length ps).map (fun span => (((lead ++ textOf ps).take span.1).count '\n',
      ((lead ++ textOf ps).take (span.2 - 1)).count '\n')) = lineSpansFrom (lead.count '\n') ps := by
  induction ps generalizing lead with
  | nil => rfl
  | cons x ps ih =>
      have ih := ih hps.2 (lead ++ x.text)
      rw [List.length_append, List.count_append] at ih
      rw [textOf_cons, ← List.append_assoc]
      cases x with
      | code c => exact ih
      | comment body => exact ih
      | literal body cut =>
          obtain ⟨c, t, rfl⟩ := hps.1.exists_text_eq
          refine congrArg₂ List.cons (Prod.ext ?_ ?_) ih
          · show ((lead ++ (c :: t) ++ textOf ps).take lead.length).count '\n' = _
            rw [List.append_assoc, List.take_left]
          · show ((lead ++ (c :: t) ++ textOf ps).take
              (lead.length + (c :: t).length + (if cut then 1 else 0) - 1)).count '\n' = _
            cases cut with
            | true =>
                rw [if_pos rfl, if_pos rfl, Nat.add_sub_cancel, ← List.length_append, List.take_left,
                  List.count_append]
            | false =>
                rw [if_neg Bool.false_ne_true, if_neg Bool.false_ne_true, Nat.add_zero,
                  take_before_last lead (List.cons_ne_nil _ _), List.count_append]

/-- **The lines of literals can be read off the pieces.** -/
lemma literalLines_eq (t : Text) : literalLines t = lineSpansFrom 0 (Piece.ofText t) := by
  have h := map_spansFrom (reread_ofText t) []
  rwa [List.nil_append, textOf_ofText] at h

/-- No literal begins in a line before. -/
lemma le_of_mem_lineSpansFrom {n : Nat} {ps : List Piece} {span : Nat × Nat}
    (h : span ∈ lineSpansFrom n ps) : n ≤ span.1 := by
  induction ps generalizing n with
  | nil => cases h
  | cons x ps ih =>
      cases x with
      | literal body cut =>
          rcases List.mem_cons.mp h with rfl | h
          · exact Nat.le_refl _
          · exact Nat.le_trans (Nat.le_add_right _ _) (ih h)
      | code c => exact Nat.le_trans (Nat.le_add_right _ _) (ih h)
      | comment body => exact Nat.le_trans (Nat.le_add_right _ _) (ih h)

/-- No literal is in the line that begins between the ends of some and the beginnings of others. -/
lemma beginsInLiteral_eq_false {before : List (Nat × Nat)} {n : Nat} (h : ∀ span ∈ before, span.2 ≤ n)
    (ps : List Piece) : beginsInLiteral (before ++ lineSpansFrom (n + 1) ps) (n + 1) = false := by
  rw [beginsInLiteral, List.any_eq_false]
  intro span hspan
  rw [Bool.and_eq_true, decide_eq_true_eq, decide_eq_true_eq]
  rintro ⟨hbegins, hends⟩
  rcases List.mem_append.mp hspan with hspan | hspan
  · exact Nat.not_succ_le_self n (Nat.le_trans hends (h span hspan))
  · exact Nat.not_lt.mpr (le_of_mem_lineSpansFrom hspan) hbegins

lemma lineSpansFrom_cons {x : Piece} (hx : x.isLiteral = false) (hline : '\n' ∉ x.text) (n : Nat)
    (ps : List Piece) : lineSpansFrom n (x :: ps) = lineSpansFrom n ps := by
  have hcount := List.count_eq_zero_of_not_mem hline
  cases x with
  | literal body cut => cases hx
  | code c =>
      show lineSpansFrom (n + _) ps = _
      rw [hcount, Nat.add_zero]
  | comment body =>
      show lineSpansFrom (n + _) ps = _
      rw [hcount, Nat.add_zero]

lemma lineSpansFrom_lineCode {a : Text} (ha : isLineCode a = true) (n : Nat) (t : Text) :
    lineSpansFrom n (Piece.ofText (a ++ t)) = lineSpansFrom n (Piece.ofText t) := by
  rw [ofText_lineCode ha]
  have hline : ∀ c ∈ a, c ≠ '\n' := fun c hc => (of_isLineCode ha hc).2.2
  clear ha
  induction a with
  | nil => rfl
  | cons c a ih =>
      have hc : '\n' ∉ (Piece.code c).text := fun hmem =>
        hline c List.mem_cons_self (List.mem_singleton.mp hmem).symm
      rw [List.map_cons, List.cons_append, lineSpansFrom_cons rfl hc]
      exact ih fun d hd => hline d (List.mem_cons_of_mem _ hd)

/-! ## Marked characters -/

/-- The first line of marked characters, and the others with whether they begin inside a literal. -/
def marks : List (Char × Bool) → Text × List (Text × Bool)
  | [] => ([], [])
  | (c, inside) :: cs =>
    if c = '\n' then ([], ((marks cs).1, inside) :: (marks cs).2)
    else (c :: (marks cs).1, (marks cs).2)

lemma marks_cons_newline (inside : Bool) (cs : List (Char × Bool)) :
    marks (('\n', inside) :: cs) = ([], ((marks cs).1, inside) :: (marks cs).2) := rfl

lemma marks_cons {c : Char} (hc : c ≠ '\n') (inside : Bool) (cs : List (Char × Bool)) :
    marks ((c, inside) :: cs) = (c :: (marks cs).1, (marks cs).2) := by
  rw [marks, if_neg hc]

/-- Characters within a line stand in front of the first line. -/
lemma marks_line {lead : Text} (h : '\n' ∉ lead) (inside : Bool) (cs : List (Char × Bool)) :
    marks (lead.map (fun c => (c, inside)) ++ cs) = (lead ++ (marks cs).1, (marks cs).2) := by
  induction lead with
  | nil => rfl
  | cons c lead ih =>
      rw [List.mem_cons, not_or] at h
      rw [List.map_cons, List.cons_append, marks_cons (Ne.symm h.1), ih h.2]
      rfl

/-- A character at the beginning of the first line is the first one. -/
lemma exists_eq_of_marks {cs : List (Char × Bool)} {c : Char} {line : Text}
    (h : (marks cs).1 = c :: line) :
    ∃ inside ds, cs = (c, inside) :: ds ∧ marks ds = (line, (marks cs).2) := by
  cases cs with
  | nil => cases h
  | cons d ds =>
      obtain ⟨d, inside⟩ := d
      by_cases hd : d = '\n'
      · subst hd
        cases h
      · rw [marks_cons hd] at h ⊢
        obtain ⟨rfl, rfl⟩ := List.cons.inj h
        exact ⟨inside, ds, rfl, rfl⟩

/-- The lines put together again. -/
lemma join_marks (cs : List (Char × Bool)) :
    Text.join ['\n'] ((marks cs).1 :: (marks cs).2.map Prod.fst) = cs.map Prod.fst := by
  induction cs with
  | nil => rfl
  | cons c cs ih =>
      obtain ⟨c, inside⟩ := c
      by_cases hc : c = '\n'
      · subst hc
        rw [marks_cons_newline, List.map_cons, List.map_cons,
          join_nil_cons _ (List.cons_ne_nil _ _), ih]
        rfl
      · rw [marks_cons hc, List.map_cons, ← ih]
        exact join_append_cons _ [c] _ _

/-- The number of each line tells whether it begins inside a literal. -/
def Tells (begins : Nat → Bool) : (n : Nat) → List (Char × Bool) → Prop
  | _, [] => True
  | n, (c, inside) :: cs =>
    if c = '\n' then begins (n + 1) = inside ∧ Tells begins (n + 1) cs else Tells begins n cs

/-- Numbered lines are the lines of the marked characters. -/
lemma zipIdx_splitOn {begins : Nat → Bool} {n : Nat} {cs : List (Char × Bool)}
    (h : Tells begins n cs) :
    ((Text.splitOn '\n' (cs.map Prod.fst)).zipIdx n).map (fun (line, i) => (line, begins i)) =
      ((marks cs).1, begins n) :: (marks cs).2 := by
  induction cs generalizing n with
  | nil => rfl
  | cons c cs ih =>
      obtain ⟨c, inside⟩ := c
      by_cases hc : c = '\n'
      · subst hc
        obtain ⟨hbegins, h⟩ : begins (n + 1) = inside ∧ Tells begins (n + 1) cs := h
        have ih := ih h
        rw [marks_cons_newline, ← hbegins, ← ih]
        rfl
      · have h : Tells begins n cs := by rwa [Tells, if_neg hc] at h
        obtain ⟨part, parts, hparts⟩ := splitOn_eq '\n' (cs.map Prod.fst)
        have ih := ih h
        rw [hparts, List.zipIdx_cons, List.map_cons, List.cons.injEq, Prod.mk.injEq] at ih
        rw [List.map_cons, splitOn_cons hc hparts, marks_cons hc, List.zipIdx_cons, List.map_cons,
          ih.2, ih.1.1]

lemma tells_literal {begins : Nat → Bool} {n : Nat} {body : Text} {cs : List (Char × Bool)}
    (hbody : ∀ i, n < i → i ≤ n + body.count '\n' → begins i = true)
    (h : Tells begins (n + body.count '\n') cs) :
    Tells begins n (body.map (fun c => (c, true)) ++ cs) := by
  induction body generalizing n with
  | nil => exact h
  | cons c body ih =>
      by_cases hc : c = '\n'
      · subst hc
        rw [List.count_cons_self, Nat.add_comm _ 1, ← Nat.add_assoc] at hbody h
        exact ⟨hbody _ (Nat.lt_succ_self n) (Nat.le_add_right _ _),
          ih (fun i hi => hbody i (Nat.lt_of_succ_lt hi)) h⟩
      · rw [List.count_cons_of_ne hc] at hbody h
        show if c = '\n' then _ else _
        rw [if_neg hc]
        exact ih hbody h

lemma tells_code {begins : Nat → Bool} {n : Nat} {inside : Bool} {body : Text}
    {cs : List (Char × Bool)} (hbody : '\n' ∉ body) (h : Tells begins n cs) :
    Tells begins n (body.map (fun c => (c, inside)) ++ cs) := by
  induction body with
  | nil => exact h
  | cons c body ih =>
      rw [List.mem_cons, not_or] at hbody
      show if c = '\n' then _ else _
      rw [if_neg (Ne.symm hbody.1)]
      exact ih hbody.2

/-! ## The marks of pieces -/

/-- The characters of a piece, each with whether a literal goes on behind it. -/
def Piece.ongoing (x : Piece) : List (Char × Bool) :=
  x.text.dropLast.map (fun c => (c, x.isLiteral)) ++ x.text.getLast?.toList.map fun c => (c, false)

/-- The characters of pieces, each with whether a literal goes on behind it. -/
def ongoing (ps : List Piece) : List (Char × Bool) := ps.flatMap Piece.ongoing

lemma Piece.ongoing_concat {x : Piece} {t : Text} {c : Char} (h : x.text = t ++ [c]) :
    x.ongoing = t.map (fun c => (c, x.isLiteral)) ++ [(c, false)] := by
  rw [ongoing, h, List.dropLast_concat, List.getLast?_concat]
  rfl

lemma ongoing_cons {x : Piece} {t : Text} {c : Char} (h : x.text = t ++ [c]) (ps : List Piece) :
    ongoing (x :: ps) = t.map (fun c => (c, x.isLiteral)) ++ (c, false) :: ongoing ps := by
  rw [ongoing, List.flatMap_cons, Piece.ongoing_concat h, List.append_assoc]
  rfl

lemma map_fst_ongoing (ps : List Piece) : (ongoing ps).map Prod.fst = textOf ps := by
  induction ps with
  | nil => rfl
  | cons x ps ih =>
      rw [ongoing, List.flatMap_cons, List.map_append, textOf_cons]
      refine congrArg₂ (· ++ ·) ?_ ih
      rcases List.eq_nil_or_concat x.text with h | ⟨t, c, h⟩
      · rw [Piece.ongoing, h]
        rfl
      · rw [List.concat_eq_append] at h
        rw [Piece.ongoing_concat h, h, List.map_append, List.map_map]
        exact congrArg (· ++ [c]) (List.map_id t)

/-- Behind the last character of a piece no literal goes on. -/
lemma tells_last {before : List (Nat × Nat)} {n : Nat} (hbefore : ∀ span ∈ before, span.2 ≤ n)
    {c : Char} {ps : List Piece} {cs : List (Char × Bool)}
    (h : Tells (beginsInLiteral (before ++ lineSpansFrom (n + [c].count '\n') ps))
      (n + [c].count '\n') cs) :
    Tells (beginsInLiteral (before ++ lineSpansFrom (n + [c].count '\n') ps)) n ((c, false) :: cs) := by
  by_cases hc : c = '\n'
  · subst hc
    exact ⟨beginsInLiteral_eq_false hbefore ps, h⟩
  · rw [List.count_cons_of_ne hc, List.count_nil, Nat.add_zero] at h ⊢
    rw [Tells, if_neg hc]
    exact h

/-- A literal ends in the line of its last character. -/
lemma lineSpansFrom_literal {t : Text} {c : Char} {cut : Bool} {k : Text}
    (h : (Piece.literal (t ++ [c]) cut).ReadBefore k) (n : Nat) (ps : List Piece) :
    lineSpansFrom n (.literal (t ++ [c]) cut :: ps) =
      (n, n + t.count '\n') :: lineSpansFrom (n + t.count '\n' + [c].count '\n') ps := by
  rw [lineSpansFrom, List.count_append, Nat.add_assoc]
  cases cut with
  | false => rw [if_neg Bool.false_ne_true, List.dropLast_concat]
  | true =>
      obtain ⟨u, hu⟩ := h.exists_eq_of_cut
      obtain ⟨-, hc⟩ := List.append_inj' hu rfl
      rw [if_pos rfl, List.count_append, hc]
      rfl

/-- **The numbers of lines tell the same as the marks.** -/
lemma tells_ongoing {ps : List Piece} (hps : Reread ps) (n : Nat) {before : List (Nat × Nat)}
    (hbefore : ∀ span ∈ before, span.2 ≤ n) :
    Tells (beginsInLiteral (before ++ lineSpansFrom n ps)) n (ongoing ps) := by
  induction ps generalizing n before with
  | nil => trivial
  | cons x ps ih =>
      obtain ⟨t, c, htext⟩ := hps.1.exists_text_eq_concat
      rw [ongoing_cons htext]
      have hlast : ∀ span ∈ before, span.2 ≤ n + [c].count '\n' := fun span hspan =>
        Nat.le_trans (hbefore span hspan) (Nat.le_add_right _ _)
      cases x with
      | code d =>
          have heq : [] ++ [d] = t ++ [c] := htext
          obtain ⟨rfl, hd⟩ := List.append_inj' heq rfl
          obtain rfl := List.singleton_inj.mp hd
          exact tells_last hbefore (ih hps.2 _ hlast)
      | comment body =>
          have hline : '\n' ∉ (Piece.comment body).text := hps.1.newline_notMem
          rw [lineSpansFrom_cons rfl hline]
          rw [htext, List.mem_append, not_or] at hline
          exact tells_code hline.1 (tells_code hline.2 (ih hps.2 n hbefore))
      | literal body cut =>
          obtain rfl : body = t ++ [c] := htext
          rw [lineSpansFrom_literal hps.1, List.append_cons]
          have hbefore' : ∀ span ∈ before ++ [(n, n + t.count '\n')], span.2 ≤ n + t.count '\n' := by
            intro span hspan
            rcases List.mem_append.mp hspan with hspan | hspan
            · exact Nat.le_trans (hbefore span hspan) (Nat.le_add_right _ _)
            · exact Nat.le_of_eq (congrArg Prod.snd (List.mem_singleton.mp hspan))
          refine tells_literal (fun i hi hends => ?_) (tells_last hbefore' (ih hps.2 _ fun span hspan =>
            Nat.le_trans (hbefore' span hspan) (Nat.le_add_right _ _)))
          rw [beginsInLiteral, List.any_eq_true]
          refine ⟨_, List.mem_append_left _ (List.mem_append_right _ List.mem_cons_self), ?_⟩
          rw [Bool.and_eq_true, decide_eq_true_eq, decide_eq_true_eq]
          exact ⟨hi, hends⟩

lemma Reread.markedLines_textOf {ps : List Piece} (h : Reread ps) :
    markedLines (textOf ps) = ((marks (ongoing ps)).1, false) :: (marks (ongoing ps)).2 := by
  have htells : Tells (beginsInLiteral ([] ++ lineSpansFrom 0 ps)) 0 (ongoing ps) :=
    tells_ongoing h 0 nofun
  have hfirst : beginsInLiteral ([] ++ lineSpansFrom 0 ps) 0 = false := by
    rw [List.nil_append, beginsInLiteral, List.any_eq_false]
    intro span _
    rw [Bool.and_eq_true, decide_eq_true_eq]
    exact fun hin => Nat.not_lt_zero _ hin.1
  have hlines := zipIdx_splitOn htells
  rw [map_fst_ongoing, hfirst] at hlines
  rw [markedLines, literalLines_eq, h.ofText_textOf]
  exact hlines

/-- **The lines of a text are those of its marked characters.** -/
lemma markedLines_eq (t : Text) : markedLines t =
    ((marks (ongoing (Piece.ofText t))).1, false) :: (marks (ongoing (Piece.ofText t))).2 := by
  have h := (reread_ofText t).markedLines_textOf
  rwa [textOf_ofText] at h

/-- No line goes on behind its end. -/
lemma newline_notMem_of_mem_markedLines {t : Text} {line : Text × Bool} (h : line ∈ markedLines t) :
    '\n' ∉ line.1 := by
  obtain ⟨⟨part, i⟩, hmem, rfl⟩ := List.mem_map.mp h
  exact notMem_of_mem_splitOn (List.fst_mem_of_mem_zipIdx hmem)

/-! ## One line -/

/-- A line with the margin in front of it, if it is one of code. -/
def indentLine (margin : Text) (line : Text × Bool) : Text :=
  if line.1.isBlankText || line.2 then line.1 else margin ++ line.1

/-- Whether the line is one of code. -/
def isCodeLine (line : Text × Bool) : Bool := !line.1.isBlankText && !line.2

/-- A line without the first `n` of its characters, if it is one of code. -/
def dedentLine (n : Nat) (line : Text × Bool) : Text :=
  if line.2 then line.1 else if line.1.isBlankText then [] else line.1.drop n

lemma dedent_eq (t : Text) : dedent t = Text.join ['\n'] ((markedLines t).map
    (dedentLine (commonMargin (((markedLines t).filter isCodeLine).map Prod.fst)).length)) := rfl

/-! ## The common margin -/

lemma commonLead_append (m a b : Text) : commonLead (m ++ a) (m ++ b) = m ++ commonLead a b := by
  induction m with
  | nil => rfl
  | cons c m ih =>
      rw [List.cons_append, List.cons_append, commonLead, if_pos rfl, ih]
      rfl

/-- The common margin of lines grows by the blanks in front of them. -/
lemma commonMargin_map {margin : Text} (hmargin : margin.isBlankText = true) {lines : List Text}
    (h : lines ≠ []) : commonMargin (lines.map (margin ++ ·)) = margin ++ commonMargin lines := by
  have htake (line : Text) : (margin ++ line).takeWhile Text.isBlank =
      margin ++ line.takeWhile Text.isBlank :=
    List.takeWhile_append_of_pos fun c hc => List.all_eq_true.mp hmargin c hc
  have hfold (lines : List Text) (lead : Text) :
      (lines.map (margin ++ ·)).foldl
          (fun lead other => commonLead lead (other.takeWhile Text.isBlank)) (margin ++ lead) =
        margin ++ lines.foldl (fun lead other => commonLead lead (other.takeWhile Text.isBlank))
          lead := by
    induction lines generalizing lead with
    | nil => rfl
    | cons line lines ih =>
        rw [List.map_cons, List.foldl_cons, List.foldl_cons, htake, commonLead_append, ih]
  obtain ⟨line, lines, rfl⟩ := List.exists_cons_of_ne_nil h
  rw [List.map_cons, commonMargin, commonMargin, htake, hfold]

end FormulaCube
