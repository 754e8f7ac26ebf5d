import FormulaCube.Proofs.Pieces.Reading

/-!
# Positions inside literals and between lines

Whether a position lies inside a literal is read off the pieces around it, and not off those before or
behind them. A line that begins outside literals begins between two pieces, so that the text before it
and the text behind it are read apart, and the lines behind it may be replaced.

* `inside` — whether a position lies inside a literal of the pieces; `insideSpan_stringSpans`.
* `AtLineStart` — where a line begins; `ofText_append_of_atLineStart` — the text is cut there.
* `ofText_append_behind` — behind the end of a line the text may be replaced.
-/

namespace FormulaCube

variable {x : Piece} {ps qs : List Piece} {a b k : Text}

/-! ## Inside a literal -/

/-- Whether the position among pieces lies inside a literal: behind its first character and before its
end. -/
def inside : List Piece → Nat → Bool
  | [], _ => false
  | x :: ps, position =>
    if position < x.length then x.isLiteral && decide (0 < position)
    else inside ps (position - x.length)

lemma inside_append_of_lt {position : Nat} (h : position < (textOf ps).length) (qs : List Piece) :
    inside (ps ++ qs) position = inside ps position := by
  induction ps generalizing position with
  | nil => cases h
  | cons x ps ih =>
      rw [textOf_cons, List.length_append] at h
      rw [List.cons_append, inside, inside]
      split
      · rfl
      · exact ih (by rw [Piece.length] at *; omega)

lemma inside_append_add (ps qs : List Piece) (position : Nat) :
    inside (ps ++ qs) ((textOf ps).length + position) = inside qs position := by
  induction ps with
  | nil => exact congrArg (inside qs) (Nat.zero_add position)
  | cons x ps ih =>
      rw [List.cons_append, inside, length_textOf_cons_add,
        if_neg (Nat.not_lt.mpr (Nat.le_add_right _ _)), Nat.add_sub_cancel_left, ih]

lemma le_of_mem_spansFrom {start : Nat} {span : Nat × Nat} (h : span ∈ spansFrom start ps) :
    start ≤ span.1 := by
  induction ps generalizing start with
  | nil => cases h
  | cons x ps ih =>
      cases x with
      | code c => exact Nat.le_of_add_right_le (ih h)
      | comment body => exact Nat.le_of_add_right_le (ih h)
      | literal body cut =>
          rcases List.mem_cons.mp h with rfl | h
          · exact Nat.le_refl start
          · exact Nat.le_of_add_right_le (ih h)

/-- None of the literals begins before the first piece. -/
lemma takeWhile_spansFrom {start position : Nat} (h : position ≤ start) (ps : List Piece) :
    (spansFrom start ps).takeWhile (fun span => decide (span.1 < position)) = [] := by
  cases hspans : spansFrom start ps with
  | nil => rfl
  | cons span spans =>
      have hle : start ≤ span.1 :=
        le_of_mem_spansFrom (hspans ▸ List.mem_cons_self : span ∈ spansFrom start ps)
      exact List.takeWhile_cons_of_neg (by rw [decide_eq_true_eq]; omega)

lemma insideSpan_of_le {start position : Nat} (h : position ≤ start) (ps : List Piece) :
    insideSpan (spansFrom start ps) position = false := by
  rw [insideSpan, takeWhile_spansFrom h]
  rfl

lemma Piece.exists_eq_literal (hx : x.isLiteral = true) : ∃ body cut, x = .literal body cut := by
  cases x with
  | literal body cut => exact ⟨body, cut, rfl⟩
  | _ => cases hx

/-- What is no literal only moves the others. -/
lemma spansFrom_cons (hx : x.isLiteral = false) (start : Nat) (ps : List Piece) :
    spansFrom start (x :: ps) = spansFrom (start + x.length) ps := by
  cases x with
  | literal body cut => cases hx
  | _ => rfl

lemma insideSpan_cons_of_le {span : Nat × Nat} {position : Nat} (h : position ≤ span.1)
    (spans : List (Nat × Nat)) : insideSpan (span :: spans) position = false := by
  rw [insideSpan, List.takeWhile_cons_of_neg]
  · rfl
  · exact fun hlt => absurd (of_decide_eq_true hlt) (Nat.not_lt.mpr h)

/-- If none of the other literals begins before it, the position is inside the first or outside. -/
lemma insideSpan_cons_of_lt {span : Nat × Nat} {start position : Nat} (h : span.1 < position)
    (hstart : position ≤ start) (ps : List Piece) :
    insideSpan (span :: spansFrom start ps) position = decide (position < span.2) := by
  rw [insideSpan, List.takeWhile_cons_of_pos (by exact decide_eq_true h), takeWhile_spansFrom hstart]
  rfl

/-- Behind the first literal only the others matter. -/
lemma insideSpan_cons {span : Nat × Nat} {spans : List (Nat × Nat)} {position : Nat}
    (hstart : span.1 < position) (hstop : span.2 ≤ position) :
    insideSpan (span :: spans) position = insideSpan spans position := by
  rw [insideSpan, insideSpan, List.takeWhile_cons_of_pos (by exact decide_eq_true hstart)]
  cases spans.takeWhile fun span => decide (span.1 < position) with
  | nil => exact decide_eq_false (Nat.not_lt.mpr hstop)
  | cons => rfl

/-- Within the first piece a position is inside a literal if that piece is one. -/
lemma insideSpan_within_first {start position : Nat} (h : position < x.length) (ps : List Piece) :
    insideSpan (spansFrom start (x :: ps)) (start + position) =
      (x.isLiteral && decide (0 < position)) := by
  cases hliteral : x.isLiteral with
  | false =>
      rw [spansFrom_cons hliteral]
      exact insideSpan_of_le (Nat.add_le_add_left (Nat.le_of_lt h) start) ps
  | true =>
      obtain ⟨body, cut, rfl⟩ := Piece.exists_eq_literal hliteral
      have h : position < body.length := h
      rcases Nat.eq_zero_or_pos position with rfl | hpos
      · exact insideSpan_cons_of_le (Nat.le_refl start) _
      · rw [spansFrom, insideSpan_cons_of_lt (by omega) (by omega), decide_eq_true hpos]
        exact decide_eq_true (by omega)

/-- Behind the first piece the first piece does not matter. -/
lemma insideSpan_behind_first (h : x.ReadBefore (textOf ps)) {start position : Nat}
    (hposition : position < (textOf ps).length) :
    insideSpan (spansFrom start (x :: ps)) (start + x.length + position) =
      insideSpan (spansFrom (start + x.length) ps) (start + x.length + position) := by
  cases hliteral : x.isLiteral with
  | false => rw [spansFrom_cons hliteral]
  | true =>
      obtain ⟨body, cut, rfl⟩ := Piece.exists_eq_literal hliteral
      -- something follows the literal, so it is not cut off
      obtain rfl : cut = false := by
        refine Bool.eq_false_iff.mpr fun hcut => ?_
        subst hcut
        rw [h.eq_nil_of_cut] at hposition
        cases hposition
      obtain ⟨c, t, htext⟩ := h.exists_text_eq
      have hbody : 0 < body.length := by
        rw [show body = c :: t from htext]
        exact Nat.succ_pos _
      exact insideSpan_cons (show start < start + body.length + position by omega)
        (Nat.le_add_right _ _)

/-- The literals lie one behind the other, so that the last one that begins before the position is the only
one that can go on behind it. -/
lemma insideSpan_spansFrom_iff (h : Reread ps) {start position : Nat} :
    insideSpan (spansFrom start ps) position = true ↔
      ∃ span ∈ spansFrom start ps, span.1 < position ∧ position < span.2 := by
  induction ps generalizing start with
  | nil => simp [spansFrom, insideSpan]
  | cons x ps ih =>
      have ih : insideSpan (spansFrom (start + x.length) ps) position = true ↔ _ := ih h.2
      cases hliteral : x.isLiteral with
      | false => rwa [spansFrom_cons hliteral]
      | true =>
          obtain ⟨body, cut, rfl⟩ := Piece.exists_eq_literal hliteral
          have hnone (hle : position ≤ start + body.length) :
              ¬ ∃ span ∈ spansFrom (start + body.length) ps, span.1 < position ∧ position < span.2 := by
            rintro ⟨span, hmem, hlt, -⟩
            have := le_of_mem_spansFrom hmem
            omega
          have hlength : (Piece.literal body cut).length = body.length := rfl
          simp only [spansFrom, List.mem_cons, exists_eq_or_imp]
          rcases Nat.lt_or_ge start position with hstart | hstart
          · rcases Nat.lt_or_ge (start + body.length) position with hlt | hle
            · cases cut with
              | true =>
                  obtain rfl : ps = [] := h.2.textOf_eq_nil_iff.mp h.1.eq_nil_of_cut
                  simp [spansFrom, insideSpan, hstart]
              | false =>
                  rw [insideSpan_cons hstart (by simp; omega), ← hlength, ih, or_iff_right]
                  simp
                  omega
            · rw [insideSpan_cons_of_lt hstart hle, decide_eq_true_eq, or_iff_left (hnone hle)]
              exact (and_iff_right hstart).symm
          · rw [insideSpan_cons_of_le hstart, or_iff_left (hnone (by omega))]
            simp
            omega

lemma insideSpan_spansFrom (h : Reread ps) {start position : Nat}
    (hposition : position < (textOf ps).length) :
    insideSpan (spansFrom start ps) (start + position) = inside ps position := by
  induction ps generalizing start position with
  | nil => cases hposition
  | cons x ps ih =>
      rw [inside]
      split
      · rename_i hx
        exact insideSpan_within_first hx ps
      · rename_i hx
        obtain ⟨rest, rfl⟩ := Nat.exists_eq_add_of_le (Nat.not_lt.mp hx)
        rw [textOf_cons, List.length_append] at hposition
        have hrest : rest < (textOf ps).length := Nat.lt_of_add_lt_add_left hposition
        rw [Nat.add_sub_cancel_left, ← Nat.add_assoc, insideSpan_behind_first h.1 hrest, ih h.2 hrest]

/-- **Whether a position lies inside a literal is read off the pieces.** -/
lemma insideSpan_stringSpans {t : Text} {position : Nat} (h : position < t.length) :
    insideSpan (stringSpans t) position = inside (Piece.ofText t) position := by
  have hposition : position < (textOf (Piece.ofText t)).length := by rwa [textOf_ofText]
  have hinside : insideSpan (stringSpans t) (0 + position) = inside (Piece.ofText t) position :=
    insideSpan_spansFrom (reread_ofText t) hposition
  rwa [Nat.zero_add] at hinside

lemma inside_ofText_of_lt (h : Piece.ofText (a ++ b) = Piece.ofText a ++ Piece.ofText b) {position : Nat}
    (hposition : position < a.length) :
    inside (Piece.ofText (a ++ b)) position = inside (Piece.ofText a) position := by
  rw [h]
  exact inside_append_of_lt (by rwa [textOf_ofText]) _

lemma inside_ofText_add (h : Piece.ofText (a ++ b) = Piece.ofText a ++ Piece.ofText b)
    (position : Nat) :
    inside (Piece.ofText (a ++ b)) (a.length + position) = inside (Piece.ofText b) position := by
  have hadd := inside_append_add (Piece.ofText a) (Piece.ofText b) position
  rwa [textOf_ofText, ← h] at hadd

/-! ## Lines -/

/-- A line begins behind the text: it is empty or ends with a newline. -/
def AtLineStart (a : Text) : Prop := ∀ c ∈ a.getLast?, c = '\n'

lemma atLineStart_nil : AtLineStart [] := fun c hc => by cases hc

lemma AtLineStart.of_append {t : Text} (h : AtLineStart (t ++ a)) : AtLineStart a := fun c hc =>
  h c (List.getLast?_append.trans (by rw [hc]; rfl))

lemma AtLineStart.newline_mem (h : AtLineStart a) (ha : a ≠ []) : '\n' ∈ a := by
  rw [← h _ (List.getLast?_eq_some_getLast ha)]
  exact List.getLast_mem ha

/-- A line that begins outside literals begins between two pieces. -/
lemma Reread.exists_append (h : Reread ps) (hps : textOf ps = a ++ b) (ha : AtLineStart a)
    (hinside : inside ps a.length = false) : ∃ us ws, ps = us ++ ws ∧ textOf us = a := by
  induction ps generalizing a with
  | nil => exact ⟨[], [], rfl, (List.append_eq_nil_iff.mp hps.symm).1.symm⟩
  | cons x ps ih =>
      rw [textOf_cons] at hps
      rcases List.append_eq_append_iff.mp hps with ⟨a', rfl, hps'⟩ | ⟨rest, hx, -⟩
      · rw [List.length_append, ← List.append_nil x.text] at hinside
        obtain ⟨us, ws, rfl, hus⟩ := ih h.2 hps' ha.of_append
          ((inside_append_add [x] ps a'.length).symm.trans hinside)
        exact ⟨x :: us, ws, rfl, by rw [textOf_cons, hus]⟩
      · by_cases hnil : a = []
        · exact ⟨[], x :: ps, rfl, hnil.symm⟩
        by_cases hrest : rest = []
        · exact ⟨[x], ps, rfl, by rw [textOf_cons, hx, hrest]; simp⟩
        -- the line cannot begin within the piece
        exfalso
        have hlength : a.length < x.length := by
          rw [Piece.length, hx, List.length_append]
          exact Nat.lt_add_of_pos_right (List.length_pos_iff.mpr hrest)
        rw [inside, if_pos hlength, decide_eq_true (List.length_pos_iff.mpr hnil), Bool.and_true]
          at hinside
        cases x with
        | literal body cut => cases hinside
        | code c =>
            have hone : a.length < 1 := hlength
            exact hnil (List.length_eq_zero_iff.mp (Nat.lt_one_iff.mp hone))
        | comment body =>
            have hbody : body = a ++ rest := hx
            refine h.1.newline_notMem ?_
            rw [hbody]
            exact List.mem_append_left rest (ha.newline_mem hnil)

/-- **A line that begins outside literals is read apart from the text before it.** -/
lemma ofText_append_of_atLineStart (ha : AtLineStart a)
    (hinside : inside (Piece.ofText (a ++ b)) a.length = false) :
    Piece.ofText (a ++ b) = Piece.ofText a ++ Piece.ofText b := by
  have hreread := reread_ofText (a ++ b)
  obtain ⟨us, ws, heq, hus⟩ := hreread.exists_append (textOf_ofText _) ha hinside
  have hws : textOf ws = b := by
    have h := textOf_ofText (a ++ b)
    rw [heq, textOf_append, hus] at h
    exact List.append_cancel_left h
  rw [heq] at hreread ⊢
  rw [← hus, ← hws, hreread.of_append.1.ofText_textOf, hreread.of_append.2.ofText_textOf]

/-- The pieces behind one that ends its line may be replaced. -/
lemma Reread.append_of_endsLine {qs' : List Piece} (h : Reread (ps ++ qs)) (hqs : qs ≠ [])
    (hlast : ∀ x ∈ ps.getLast?, x.EndsLine) (h' : Reread qs') : Reread (ps ++ qs') := by
  induction ps with
  | nil => exact h'
  | cons x ps ih =>
      have hps : Reread (ps ++ qs) := h.2
      have hne : textOf (ps ++ qs) ≠ [] := fun hnil =>
        hqs (List.append_eq_nil_iff.mp (hps.textOf_eq_nil_iff.mp hnil)).2
      cases ps with
      | nil =>
          exact ⟨h.1.behind (absurd · hne) fun c _ => h.1.endsBefore_of_endsLine (hlast x rfl) c, h'⟩
      | cons y ps =>
          have hy := ih hps fun z hz => hlast z (by rwa [List.getLast?_cons_cons])
          refine ⟨h.1.behind (absurd · hne) fun c hc => h.1.endsBefore ?_, hy⟩
          have hc : c ∈ (textOf (y :: (ps ++ qs'))).head? := hc
          rw [hy.1.head?_textOf_cons] at hc
          show c ∈ (textOf (y :: (ps ++ qs))).head?
          rwa [hps.1.head?_textOf_cons]

/-- The last piece of a text behind which a line begins ends that line. -/
lemma AtLineStart.endsLine (ha : AtLineStart a) : ∀ x ∈ (Piece.ofText a).getLast?, x.EndsLine := by
  intro x hx
  have hmem := List.mem_of_getLast? hx
  obtain ⟨k, hread⟩ := (reread_ofText a).exists_readBefore hmem
  obtain ⟨t, c, htext⟩ := hread.exists_text_eq_concat
  obtain ⟨ps, hps⟩ := List.getLast?_eq_some_iff.mp hx
  have hlast : a = textOf ps ++ t ++ [c] := by
    rw [← textOf_ofText a, hps, textOf_append, textOf_cons, htext, List.append_assoc]
    simp
  rw [Piece.EndsLine, htext, List.getLast?_concat, ha c (by rw [hlast]; exact List.getLast?_concat)]

/-- **Behind the end of a line the text may be replaced.** -/
lemma ofText_append_behind (h : Piece.ofText (a ++ k) = Piece.ofText a ++ Piece.ofText k)
    (ha : AtLineStart a) (hk : k ≠ []) (k' : Text) :
    Piece.ofText (a ++ k') = Piece.ofText a ++ Piece.ofText k' := by
  have hreread := reread_ofText (a ++ k)
  rw [h] at hreread
  have hne : Piece.ofText k ≠ [] := fun hnil => hk (by rw [← textOf_ofText k, hnil]; rfl)
  have hnew := (hreread.append_of_endsLine hne ha.endsLine (reread_ofText k')).ofText_textOf
  rwa [textOf_append, textOf_ofText, textOf_ofText] at hnew

end FormulaCube
