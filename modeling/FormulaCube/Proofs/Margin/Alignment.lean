import FormulaCube.Proofs.Margin.Marks
import Mathlib.Data.List.Forall2

/-!
# Moving code leaves literals alone

Lines of code are moved to the right and to the left one by one, and which of them are code is found by
a scan of the whole text. After the change the text is scanned again. Here the second scan is shown to
find the same literals and the same lines of code; nothing is asked of the text.

* `LineRealigned` — a line and the same line with another beginning.
* `Realigned` — pieces, with other characters at the beginnings of lines of code; `Realigned.reread` —
  such pieces are read again, and `Realigned.literals_eq` — they have the same literals.
* `exists_realigned` — new beginnings of lines are new characters between the pieces.
* `markedLines_of_realigned` — the lines of the new text.
* `dedent_indent`, `dedent_dedent` — the margin that is put in front is taken away again, and a second
  time there is none.
* `literals_of_indent_dedent` — both functions together.
-/

namespace FormulaCube

variable {fresh : Bool} {ps qs : List Piece} {t : Text}

/-! ## Lines -/

/-- A line and the same line with another beginning, if it is one of code. A line without characters
stays so. -/
inductive LineRealigned : Text × Bool → Text × Bool → Prop
  /-- The line stays. -/
  | same (line : Text × Bool) : LineRealigned line line
  /-- The first characters of a line of code become others. -/
  | start {a b line : Text} (ha : isLineCode a = true) (hb : isLineCode b = true)
      (hnil : a ++ line = [] → b ++ line = []) : LineRealigned (a ++ line, false) (b ++ line, false)

namespace LineRealigned

/-- Both lines have their ends in common. -/
lemma exists_eq {line line' : Text} {inside : Bool} (h : LineRealigned (line, false) (line', inside)) :
    inside = false ∧ (line = [] → line' = []) ∧ ∃ a b rest, isLineCode a = true ∧
      isLineCode b = true ∧ line = a ++ rest ∧ line' = b ++ rest := by
  cases h with
  | same => exact ⟨rfl, id, [], [], line, rfl, rfl, rfl, rfl⟩
  | start ha hb hnil => exact ⟨rfl, hnil, _, _, _, ha, hb, rfl, rfl⟩

/-- The first characters of a line of code are taken away. -/
lemma drop {a : Text} (ha : isLineCode a = true) (line : Text) :
    LineRealigned (a ++ line, false) (line, false) :=
  .start (b := []) ha rfl fun hnil => (List.append_eq_nil_iff.mp hnil).2

/-- A line that begins inside a literal stays. -/
lemma eq_of_inside {line : Text} {line' : Text × Bool} (h : LineRealigned (line, true) line') :
    line' = (line, true) := by
  cases h with
  | same => rfl

end LineRealigned

/-! ## Pieces -/

/-- The second pieces are the first ones with other characters at the beginnings of lines of code.
`fresh` says whether a line begins with the first of the pieces. Behind the end of the text nothing
begins. -/
inductive Realigned : (fresh : Bool) → List Piece → List Piece → Prop
  /-- Nothing is left. -/
  | nil : Realigned false [] []
  /-- A piece, and the line goes on. -/
  | keep {x : Piece} {ps qs : List Piece} (h : Realigned false ps qs) :
      Realigned false (x :: ps) (x :: qs)
  /-- A piece that ends a line. -/
  | line {x : Piece} {ps qs : List Piece} (hx : x.EndsLine) (hnil : ps = [] → qs = [])
      (h : Realigned true ps qs) : Realigned false (x :: ps) (x :: qs)
  /-- A character at the beginning of the line is taken away. -/
  | drop {c : Char} {ps qs : List Piece} (h : Realigned true ps qs) :
      Realigned true (.code c :: ps) qs
  /-- Characters are put there. -/
  | start {b : Text} {ps qs : List Piece} (hb : isLineCode b = true) (h : Realigned false ps qs) :
      Realigned true ps (b.map .code ++ qs)

lemma Reread.codes_append {b : Text} (hb : isLineCode b = true) (h : Reread ps) :
    Reread (b.map .code ++ ps) := by
  induction b with
  | nil => exact h
  | cons c b ih =>
      have hc := of_isLineCode hb List.mem_cons_self
      rw [isLineCode, List.all_cons, Bool.and_eq_true] at hb
      exact ⟨.code hc.1 hc.2.1, ih hb.2⟩

namespace Realigned

/-- **The new pieces are read again.** Within a line they begin as before. -/
lemma reread_and_head? (h : Realigned fresh ps qs) (hps : Reread ps) :
    Reread qs ∧ (fresh = false → (textOf qs).head? = (textOf ps).head?) := by
  induction h with
  | nil => exact ⟨hps, fun _ => rfl⟩
  | @keep x ps qs h ih =>
      obtain ⟨hqs, hhead⟩ := ih hps.2
      have hhead := hhead rfl
      have hx : x.ReadBefore (textOf qs) := by
        refine hps.1.behind (fun hnil => ?_) fun c hc => hps.1.endsBefore (hhead ▸ hc)
        rwa [hnil, List.head?_nil, List.head?_eq_none_iff] at hhead
      refine ⟨⟨hx, hqs⟩, fun _ => ?_⟩
      rw [hps.1.head?_textOf_cons, hx.head?_textOf_cons]
  | @line x ps qs hx hnil h ih =>
      have hread : x.ReadBefore (textOf qs) := by
        refine hps.1.behind (fun htext => ?_) fun c _ => hps.1.endsBefore_of_endsLine hx c
        rw [hnil (hps.2.textOf_eq_nil_iff.mp htext)]
        rfl
      have hqs := (ih hps.2).1
      refine ⟨⟨hread, hqs⟩, fun _ => ?_⟩
      rw [hps.1.head?_textOf_cons, hread.head?_textOf_cons]
  | drop _ ih => exact ⟨(ih hps.2).1, nofun⟩
  | start hb _ ih => exact ⟨(ih hps).1.codes_append hb, nofun⟩

lemma reread (h : Realigned fresh ps qs) (hps : Reread ps) : Reread qs := (h.reread_and_head? hps).1

/-- **The new pieces have the same literals.** -/
lemma literals_eq (h : Realigned fresh ps qs) :
    qs.filterMap Piece.literal? = ps.filterMap Piece.literal? := by
  induction h with
  | nil => rfl
  | keep _ ih => rw [List.filterMap_cons, List.filterMap_cons, ih]
  | line _ _ _ ih => rw [List.filterMap_cons, List.filterMap_cons, ih]
  | drop _ ih => exact ih
  | @start b ps qs _ _ ih =>
      have hcodes : (b.map Piece.code).filterMap Piece.literal? = [] := by
        rw [List.filterMap_map]
        exact List.filterMap_eq_nil_iff.mpr fun _ _ => rfl
      rw [List.filterMap_append, hcodes, ih]
      rfl

end Realigned

/-! ## From lines to pieces -/

/-- Behind characters whose newlines belong to a literal, only the lines that begin there change. -/
lemma marks_append_of_realigned {lead cs : List (Char × Bool)} {others : List (Text × Bool)}
    (hlead : ∀ inside, ('\n', inside) ∈ lead → inside = true)
    (h : List.Forall₂ LineRealigned (marks (lead ++ cs)).2 others) :
    ∃ others', List.Forall₂ LineRealigned (marks cs).2 others' ∧
      ∀ ds, marks ds = ((marks cs).1, others') →
        marks (lead ++ ds) = ((marks (lead ++ cs)).1, others) := by
  induction lead generalizing others with
  | nil => exact ⟨others, h, fun _ hds => hds⟩
  | cons c lead ih =>
      obtain ⟨c, inside⟩ := c
      have hlead' (inside : Bool) (h : ('\n', inside) ∈ lead) : inside = true :=
        hlead inside (List.mem_cons_of_mem _ h)
      by_cases hc : c = '\n'
      · subst hc
        obtain rfl := hlead inside List.mem_cons_self
        rw [List.cons_append, marks_cons_newline] at h ⊢
        cases h with
        | cons hline h =>
            obtain rfl := hline.eq_of_inside
            obtain ⟨others', hothers', hds⟩ := ih hlead' h
            refine ⟨others', hothers', fun ds h => ?_⟩
            rw [List.cons_append, marks_cons_newline, hds ds h]
      · rw [List.cons_append, marks_cons hc] at h ⊢
        obtain ⟨others', hothers', hds⟩ := ih hlead' h
        refine ⟨others', hothers', fun ds h => ?_⟩
        rw [List.cons_append, marks_cons hc, hds ds h]

/-- A newline before the last character of a piece belongs to a literal. -/
lemma eq_true_of_newline_mem_marks {x : Piece} {k lead : Text} {c : Char} (h : x.ReadBefore k)
    (htext : x.text = lead ++ [c]) {inside : Bool}
    (hmem : ('\n', inside) ∈ lead.map fun d => (d, x.isLiteral)) : inside = true := by
  obtain ⟨d, hd, heq⟩ := List.mem_map.mp hmem
  obtain ⟨rfl, rfl⟩ := Prod.mk.inj heq
  cases x with
  | literal body cut => rfl
  | code d =>
      have heq : [] ++ [_] = lead ++ [c] := htext
      obtain ⟨rfl, -⟩ := List.append_inj' heq rfl
      cases hd
  | comment body =>
      refine absurd ?_ h.newline_notMem
      rw [show body = lead ++ [c] from htext]
      exact List.mem_append_left _ hd

lemma marks_codes_append {b : Text} (hb : isLineCode b = true) (ps : List Piece) :
    marks (ongoing (b.map .code ++ ps)) = (b ++ (marks (ongoing ps)).1, (marks (ongoing ps)).2) := by
  have hcodes : ongoing (b.map .code ++ ps) = b.map (fun c => (c, false)) ++ ongoing ps := by
    rw [ongoing, List.flatMap_append, List.flatMap_map]
    exact congrArg (· ++ ongoing ps) List.map_eq_flatMap.symm
  rw [hcodes, marks_line fun hmem => (of_isLineCode hb hmem).2.2 rfl]

/-- Whatever the lines behind the first one become, there are pieces for them, in which the first line
stays or becomes another one itself. -/
def Realignable (ps : List Piece) : Prop :=
  ∀ others, List.Forall₂ LineRealigned (marks (ongoing ps)).2 others →
    (∃ qs, Realigned false ps qs ∧ marks (ongoing qs) = ((marks (ongoing ps)).1, others)) ∧
    ∀ a b line, isLineCode a = true → isLineCode b = true → (marks (ongoing ps)).1 = a ++ line →
      ∃ qs, Realigned true ps qs ∧ marks (ongoing qs) = (b ++ line, others)

/-- With one more piece in front, whose lines stay. -/
lemma Realignable.keep {x : Piece} (h : Realignable ps) (hx : x.ReadBefore (textOf ps))
    {others : List (Text × Bool)}
    (hothers : List.Forall₂ LineRealigned (marks (ongoing (x :: ps))).2 others) :
    ∃ qs, Realigned false (x :: ps) qs ∧
      marks (ongoing qs) = ((marks (ongoing (x :: ps))).1, others) := by
  obtain ⟨lead, c, htext⟩ := hx.exists_text_eq_concat
  rw [ongoing_cons htext] at hothers ⊢
  obtain ⟨others', hothers', hbehind⟩ :=
    marks_append_of_realigned (fun _ => eq_true_of_newline_mem_marks hx htext) hothers
  by_cases hc : c = '\n'
  · -- the line behind the piece is one of code
    subst hc
    rw [marks_cons_newline] at hothers'
    cases hothers' with
    | @cons _ line _ others' hline hothers' =>
        obtain ⟨line, inside⟩ := line
        obtain ⟨rfl, hnil, a, b, rest, ha, hb, heq, rfl⟩ := hline.exists_eq
        obtain ⟨qs, hend, hqs, hmarks⟩ : ∃ qs, (ps = [] → qs = []) ∧ Realigned true ps qs ∧
            marks (ongoing qs) = (b ++ rest, others') := by
          cases ps with
          | nil =>
              cases hothers'
              rw [hnil rfl]
              exact ⟨[], fun _ => rfl, .start (b := []) rfl .nil, rfl⟩
          | cons y ps =>
              obtain ⟨qs, hqs, hmarks⟩ := (h _ hothers').2 a b rest ha hb heq
              exact ⟨qs, nofun, hqs, hmarks⟩
        have hends : x.EndsLine := by rw [Piece.EndsLine, htext, List.getLast?_concat]
        refine ⟨x :: qs, .line hends hend hqs, ?_⟩
        rw [ongoing_cons htext]
        exact hbehind _ (by rw [marks_cons_newline, marks_cons_newline, hmarks])
  · rw [marks_cons hc] at hothers'
    obtain ⟨qs, hqs, hmarks⟩ := (h _ hothers').1
    refine ⟨x :: qs, .keep hqs, ?_⟩
    rw [ongoing_cons htext]
    exact hbehind _ (by rw [marks_cons hc, marks_cons hc, hmarks])

/-- **New beginnings of lines are new characters between the pieces.** -/
lemma realignable (hps : Reread ps) : Realignable ps := by
  induction ps with
  | nil =>
      intro others hothers
      cases hothers
      refine ⟨⟨[], .nil, rfl⟩, fun a b line ha hb heq => ?_⟩
      obtain ⟨-, rfl⟩ := List.append_eq_nil_iff.mp heq.symm
      exact ⟨_, .start hb .nil, marks_codes_append hb []⟩
  | cons x ps ih =>
      intro others hothers
      obtain ⟨qs, hqs, hmarks⟩ := (ih hps.2).keep hps.1 hothers
      refine ⟨⟨qs, hqs, hmarks⟩, fun a b line ha hb heq => ?_⟩
      cases a with
      | nil =>
          refine ⟨_, .start hb hqs, ?_⟩
          rw [marks_codes_append hb, hmarks, heq]
          rfl
      | cons c a =>
          -- the first character of the line is the first piece
          obtain ⟨inside, cs, hcs, htail⟩ := exists_eq_of_marks heq
          have hc := of_isLineCode ha List.mem_cons_self
          rw [isLineCode, List.all_cons, Bool.and_eq_true] at ha
          obtain rfl : x = .code c := by
            obtain ⟨d, t, htext⟩ := hps.1.exists_text_eq
            have hhead := map_fst_ongoing (x :: ps)
            rw [hcs, textOf_cons, htext] at hhead
            exact hps.1.eq_code ((List.cons.inj hhead).1 ▸ htext) hc.1 hc.2.1
          obtain rfl : cs = ongoing ps := (List.cons.inj hcs).2.symm
          obtain ⟨hline, hothers'⟩ := Prod.mk.inj htail
          rw [← hothers'] at hothers
          obtain ⟨qs, hqs, hmarks⟩ := (ih hps.2 _ hothers).2 a b line ha.2 hb hline
          exact ⟨qs, .drop hqs, hmarks⟩

/-- **The lines and the literals of the new text.** -/
theorem markedLines_of_realigned {lines : List (Text × Bool)}
    (h : List.Forall₂ LineRealigned (markedLines t) lines) :
    markedLines (Text.join ['\n'] (lines.map Prod.fst)) = lines ∧
      literalTexts (Text.join ['\n'] (lines.map Prod.fst)) = literalTexts t := by
  rw [markedLines_eq] at h
  cases h with
  | @cons _ line _ others hline hothers =>
      obtain ⟨line, inside⟩ := line
      obtain ⟨rfl, -, a, b, rest, ha, hb, heq, rfl⟩ := hline.exists_eq
      have hps := reread_ofText t
      obtain ⟨qs, hqs, hmarks⟩ := (realignable hps _ hothers).2 a b rest ha hb heq
      have htext : Text.join ['\n'] (((b ++ rest, false) :: others).map Prod.fst) = textOf qs := by
        rw [← map_fst_ongoing, ← join_marks, hmarks]
        rfl
      have hread := hqs.reread hps
      rw [htext, hread.markedLines_textOf, hmarks, literalTexts_eq, hread.ofText_textOf,
        hqs.literals_eq, literalTexts_eq]
      exact ⟨rfl, rfl⟩

/-- Lines that are changed one by one. -/
lemma markedLines_map {f : Text × Bool → Text}
    (h : ∀ line ∈ markedLines t, LineRealigned line (f line, line.2)) :
    markedLines (Text.join ['\n'] ((markedLines t).map f)) =
        (markedLines t).map (fun line => (f line, line.2)) ∧
      literalTexts (Text.join ['\n'] ((markedLines t).map f)) = literalTexts t := by
  have hlines : List.Forall₂ LineRealigned (markedLines t)
      ((markedLines t).map fun line => (f line, line.2)) :=
    List.forall₂_map_right_iff.mpr (List.forall₂_same.mpr h)
  have htext := markedLines_of_realigned hlines
  rwa [List.map_map] at htext

/-! ## To the right -/

variable {margin : Text}

lemma lineRealigned_indentLine (hmargin : isLineCode margin = true) (line : Text × Bool) :
    LineRealigned line (indentLine margin line, line.2) := by
  obtain ⟨line, inside⟩ := line
  rw [indentLine]
  split
  · exact .same _
  · rename_i hcode
    rw [Bool.or_eq_true, not_or, Bool.not_eq_true, Bool.not_eq_true] at hcode
    obtain ⟨hblank, rfl⟩ := hcode
    refine .start (a := []) rfl hmargin fun hnil => ?_
    obtain rfl : line = [] := hnil
    cases hblank

lemma markedLines_indent (hmargin : isLineCode margin = true) (t : Text) :
    markedLines (indent margin t) =
        (markedLines t).map (fun line => (indentLine margin line, line.2)) ∧
      literalTexts (indent margin t) = literalTexts t :=
  markedLines_map fun line _ => lineRealigned_indentLine hmargin line

/-! ## To the left -/

/-- The margin that the lines of code have in common. -/
def codeMargin (lines : List (Text × Bool)) : Text :=
  commonMargin ((lines.filter isCodeLine).map Prod.fst)

lemma commonLead_isPrefix (a b : Text) : commonLead a b <+: a ∧ commonLead a b <+: b := by
  fun_induction commonLead a b with
  | case1 c a b ih =>
      exact ⟨List.cons_prefix_cons.mpr ⟨rfl, ih.1⟩, List.cons_prefix_cons.mpr ⟨rfl, ih.2⟩⟩
  | case2 => constructor <;> exact List.nil_prefix
  | case3 => constructor <;> exact List.nil_prefix

/-- Every line begins with the common margin. -/
lemma commonMargin_isPrefix {lines : List Text} {line : Text} (h : line ∈ lines) :
    commonMargin lines <+: line.takeWhile Text.isBlank := by
  have hfold (lines : List Text) (lead : Text) :
      let margin := lines.foldl
        (fun margin other => commonLead margin (other.takeWhile Text.isBlank)) lead
      margin <+: lead ∧ ∀ line ∈ lines, margin <+: line.takeWhile Text.isBlank := by
    induction lines generalizing lead with
    | nil => exact ⟨List.prefix_rfl, nofun⟩
    | cons other lines ih =>
        obtain ⟨hlead, hlines⟩ := ih (commonLead lead (other.takeWhile Text.isBlank))
        obtain ⟨hleft, hright⟩ := commonLead_isPrefix lead (other.takeWhile Text.isBlank)
        exact ⟨hlead.trans hleft, List.forall_mem_cons.mpr ⟨hlead.trans hright, hlines⟩⟩
  cases lines with
  | nil => cases h
  | cons first lines =>
      obtain ⟨hfirst, hlines⟩ := hfold lines (first.takeWhile Text.isBlank)
      rcases List.mem_cons.mp h with rfl | h
      · exact hfirst
      · exact hlines line h

lemma isBlankText_commonMargin (lines : List Text) : (commonMargin lines).isBlankText = true := by
  cases lines with
  | nil => rfl
  | cons line lines =>
      refine List.all_eq_true.mpr fun c hc => ?_
      have hlead : commonMargin (line :: lines) <+: line.takeWhile Text.isBlank :=
        commonMargin_isPrefix List.mem_cons_self
      exact List.all_eq_true.mp List.all_takeWhile c (hlead.subset hc)

/-- Every line is the common margin and what is left of it. -/
lemma commonMargin_append_drop {lines : List Text} {line : Text} (h : line ∈ lines) :
    commonMargin lines ++ line.drop (commonMargin lines).length = line := by
  have hlead : line.takeWhile Text.isBlank <+: line := List.takeWhile_prefix Text.isBlank
  exact List.prefix_iff_eq_append.mp ((commonMargin_isPrefix h).trans hlead)

/-- Nothing is left of the common margin. -/
lemma commonMargin_map_drop (lines : List Text) :
    commonMargin (lines.map (·.drop (commonMargin lines).length)) = [] := by
  have hback : (lines.map (·.drop (commonMargin lines).length)).map (commonMargin lines ++ ·) =
      lines := by
    rw [List.map_map]
    refine Eq.trans (List.map_congr_left fun line hline => ?_) (List.map_id lines)
    exact commonMargin_append_drop hline
  by_cases hne : lines = []
  · rw [hne]
    rfl
  · have hleft : lines.map (·.drop (commonMargin lines).length) ≠ [] := by
      rwa [Ne, List.map_eq_nil_iff]
    have hmargin := commonMargin_map (isBlankText_commonMargin lines) hleft
    rw [hback] at hmargin
    exact List.self_eq_append_right.mp hmargin

/-- A line of code begins with the margin. -/
lemma codeMargin_append_drop {lines : List (Text × Bool)} {line : Text × Bool} (h : line ∈ lines)
    (hcode : isCodeLine line = true) :
    codeMargin lines ++ line.1.drop (codeMargin lines).length = line.1 :=
  commonMargin_append_drop (List.mem_map_of_mem (List.mem_filter.mpr ⟨h, hcode⟩))

lemma lineRealigned_dedentLine {lines : List (Text × Bool)} {line : Text × Bool} (h : line ∈ lines)
    (hline : '\n' ∉ line.1) :
    LineRealigned line (dedentLine (codeMargin lines).length line, line.2) := by
  obtain ⟨line, inside⟩ := line
  rw [dedentLine]
  split
  · exact .same _
  · rename_i hinside
    obtain rfl : inside = false := Bool.eq_false_iff.mpr hinside
    split
    · rename_i hblank
      have hdrop := LineRealigned.drop (isLineCode_of_isBlankText hblank hline) []
      rwa [List.append_nil] at hdrop
    · rename_i hblank
      have hmargin := codeMargin_append_drop h (by simp [isCodeLine, hblank])
      have hlead : isLineCode (codeMargin lines) = true :=
        isLineCode_of_isBlankText (isBlankText_commonMargin _) fun hmem =>
          hline (hmargin ▸ List.mem_append_left _ hmem)
      have hdrop := LineRealigned.drop hlead (line.drop (codeMargin lines).length)
      rwa [hmargin] at hdrop

lemma markedLines_dedent (t : Text) :
    markedLines (dedent t) = (markedLines t).map
        (fun line => (dedentLine (codeMargin (markedLines t)).length line, line.2)) ∧
      literalTexts (dedent t) = literalTexts t :=
  markedLines_map fun _ hmem =>
    lineRealigned_dedentLine hmem (newline_notMem_of_mem_markedLines hmem)

/-! ## There and back -/

variable {line : Text × Bool} {lines : List (Text × Bool)}

lemma isCodeLine_eq_true_iff :
    isCodeLine line = true ↔ line.2 = false ∧ line.1.isBlankText = false := by
  rw [isCodeLine, Bool.and_eq_true, Bool.not_eq_true', Bool.not_eq_true', and_comm]

lemma indentLine_of_isCodeLine (h : isCodeLine line = true) (margin : Text) :
    indentLine margin line = margin ++ line.1 := by
  rw [isCodeLine_eq_true_iff] at h
  rw [indentLine, h.1, h.2]
  rfl

lemma indentLine_of_not_isCodeLine (h : isCodeLine line = false) (margin : Text) :
    indentLine margin line = line.1 := by
  have hother : (line.1.isBlankText || line.2) = true := by
    rwa [isCodeLine, ← Bool.not_or, Bool.not_eq_false'] at h
  rw [indentLine, if_pos hother]

lemma dedentLine_of_isCodeLine (h : isCodeLine line = true) (n : Nat) :
    dedentLine n line = line.1.drop n := by
  rw [isCodeLine_eq_true_iff] at h
  rw [dedentLine, h.1, h.2]
  rfl

/-- Of other lines it does not matter how wide the margin is, or whether it was taken away before. -/
lemma dedentLine_of_not_isCodeLine (h : isCodeLine line = false) (m n : Nat) :
    dedentLine m line = dedentLine n line ∧
      dedentLine m (dedentLine n line, line.2) = dedentLine n line ∧
      isCodeLine (dedentLine n line, line.2) = false := by
  obtain ⟨line, inside⟩ := line
  cases inside with
  | true => exact ⟨rfl, rfl, Bool.and_false _⟩
  | false =>
      have hblank : line.isBlankText = true := by
        rwa [isCodeLine, Bool.not_false, Bool.and_true, Bool.not_eq_false'] at h
      have hwiped (k : Nat) : dedentLine k (line, false) = [] := by
        rw [dedentLine, if_neg Bool.false_ne_true, if_pos hblank]
      rw [hwiped, hwiped]
      exact ⟨rfl, rfl, rfl⟩

/-- The lines of code, if other lines are put in their places and code stays code. -/
lemma codeMargin_map {f : Text × Bool → Text}
    (h : ∀ line ∈ lines, isCodeLine (f line, line.2) = isCodeLine line) :
    codeMargin (lines.map fun line => (f line, line.2)) =
      commonMargin ((lines.filter isCodeLine).map f) := by
  have hfilter : lines.filter (isCodeLine ∘ fun line => (f line, line.2)) = lines.filter isCodeLine :=
    List.filter_congr h
  rw [codeMargin, List.filter_map, List.map_map, hfilter]
  rfl

lemma isCodeLine_indentLine (hmargin : margin.isBlankText = true) (line : Text × Bool) :
    isCodeLine (indentLine margin line, line.2) = isCodeLine line := by
  cases h : isCodeLine line with
  | false => rwa [indentLine_of_not_isCodeLine h]
  | true =>
      rw [indentLine_of_isCodeLine h, isCodeLine, isBlankText_append hmargin]
      exact h

/-- The margin of lines grows by what is put in front of them. -/
lemma codeMargin_indentLine (hmargin : margin.isBlankText = true) (h : line ∈ lines)
    (hcode : isCodeLine line = true) :
    codeMargin (lines.map fun line => (indentLine margin line, line.2)) =
      margin ++ codeMargin lines := by
  have hne : (lines.filter isCodeLine).map Prod.fst ≠ [] :=
    List.ne_nil_of_mem (List.mem_map_of_mem (List.mem_filter.mpr ⟨h, hcode⟩))
  rw [codeMargin_map fun line _ => isCodeLine_indentLine hmargin line, codeMargin,
    ← commonMargin_map hmargin hne, List.map_map]
  exact congrArg commonMargin (List.map_congr_left fun line hmem =>
    indentLine_of_isCodeLine (List.mem_filter.mp hmem).2 margin)

/-- **The margin that was put in front of all lines is taken away with theirs.** -/
theorem dedent_indent (hblank : margin.isBlankText = true) (hline : '\n' ∉ margin) (t : Text) :
    dedent (indent margin t) = dedent t := by
  rw [dedent_eq, dedent_eq, (markedLines_indent (isLineCode_of_isBlankText hblank hline) t).1,
    List.map_map]
  refine congrArg (Text.join ['\n']) (List.map_congr_left fun line hmem => ?_)
  show dedentLine (codeMargin ((markedLines t).map fun line => (indentLine margin line, line.2))).length
    (indentLine margin line, line.2) = _
  cases hcode : isCodeLine line with
  | false =>
      rw [indentLine_of_not_isCodeLine hcode]
      exact (dedentLine_of_not_isCodeLine hcode _ _).1
  | true =>
      rw [codeMargin_indentLine hblank hmem hcode, dedentLine_of_isCodeLine hcode,
        dedentLine_of_isCodeLine ((isCodeLine_indentLine hblank line).trans hcode),
        indentLine_of_isCodeLine hcode, List.length_append, ← List.drop_drop, List.drop_left]
      rfl

lemma isCodeLine_dedentLine (h : line ∈ lines) :
    isCodeLine (dedentLine (codeMargin lines).length line, line.2) = isCodeLine line := by
  cases hcode : isCodeLine line with
  | false => exact (dedentLine_of_not_isCodeLine hcode 0 _).2.2
  | true =>
      have hdrop := isBlankText_append
        (isBlankText_commonMargin ((lines.filter isCodeLine).map Prod.fst))
        (line.1.drop (codeMargin lines).length)
      rw [dedentLine_of_isCodeLine hcode, isCodeLine, ← hdrop, ← hcode, isCodeLine]
      exact congrArg (fun line => !Text.isBlankText line && _) (codeMargin_append_drop h hcode)

/-- **A text without a common margin stays.** -/
theorem dedent_dedent (t : Text) : dedent (dedent t) = dedent t := by
  have hmargin : codeMargin ((markedLines t).map fun line =>
      (dedentLine (codeMargin (markedLines t)).length line, line.2)) = [] := by
    rw [codeMargin_map fun line => isCodeLine_dedentLine, ← commonMargin_map_drop, List.map_map]
    exact congrArg commonMargin (List.map_congr_left fun line hmem =>
      dedentLine_of_isCodeLine (List.mem_filter.mp hmem).2 _)
  rw [dedent_eq (dedent t), (markedLines_dedent t).1, List.map_map]
  refine congrArg (Text.join ['\n']) (List.map_congr_left fun line hmem => ?_)
  show dedentLine (codeMargin ((markedLines t).map fun line =>
    (dedentLine (codeMargin (markedLines t)).length line, line.2))).length
      (dedentLine (codeMargin (markedLines t)).length line, line.2) = _
  rw [hmargin]
  cases hcode : isCodeLine line with
  | false => exact (dedentLine_of_not_isCodeLine hcode 0 _).2.1
  | true =>
      rw [dedentLine_of_isCodeLine ((isCodeLine_dedentLine hmem).trans hcode)]
      rfl

/-- **Moving code leaves literals alone.** With a margin of spaces and tabs in front of its lines, and
without the margin that its lines have in common, a text has the same literals. The first is undone by
the second, and the second need not be done again. -/
theorem literals_of_indent_dedent (t margin : Text) (hmargin : ∀ c ∈ margin, c = ' ' ∨ c = '\t') :
    literalTexts (indent margin t) = literalTexts t ∧ literalTexts (dedent t) = literalTexts t ∧
      dedent (indent margin t) = dedent t ∧ dedent (dedent t) = dedent t := by
  have hblank : margin.isBlankText = true := by
    refine List.all_eq_true.mpr fun c hc => ?_
    rcases hmargin c hc with rfl | rfl <;> rfl
  have hline : '\n' ∉ margin := fun hmem => by rcases hmargin _ hmem with heq | heq <;> cases heq
  exact ⟨(markedLines_indent (isLineCode_of_isBlankText hblank hline) t).2, (markedLines_dedent t).2,
    dedent_indent hblank hline t, dedent_dedent t⟩

/-- A literal over three lines, a blank line, a comment with a mark, and a literal that its line
ends. -/
def loosely : Text := "  x = '''a\n b\n'''\n \n    # it's\n  y = 'b \n  \tz".toList

theorem literals_of_indent_dedent_loosely :
    literalTexts (indent "\t ".toList loosely) = ["'''a\n b\n'''".toList, "'b \n".toList] ∧
      literalTexts (dedent loosely) = ["'''a\n b\n'''".toList, "'b \n".toList] ∧
      dedent (indent "\t ".toList loosely) = "x = '''a\n b\n'''\n\n  # it's\ny = 'b \n\tz".toList ∧
      dedent (dedent loosely) = "x = '''a\n b\n'''\n\n  # it's\ny = 'b \n\tz".toList := by
  obtain ⟨hindent, hdedent, hback, htwice⟩ :=
    literals_of_indent_dedent loosely "\t ".toList (by simp)
  have hliterals : literalTexts loosely = ["'''a\n b\n'''".toList, "'b \n".toList] := by
    decide +kernel
  have hleft : dedent loosely = "x = '''a\n b\n'''\n\n  # it's\ny = 'b \n\tz".toList := by
    decide +kernel
  exact ⟨hindent.trans hliterals, hdedent.trans hliterals, hback.trans hleft, htwice.trans hleft⟩

end FormulaCube
