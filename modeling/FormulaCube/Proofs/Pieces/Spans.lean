import FormulaCube.Proofs.Pieces.Inside
import FormulaCube.Source.Indentation

/-!
# Spans of literals

The literals of a text are given by where they begin and end. Here it is said of the characters of the text
what these spans are, without its pieces, and that what is looked up among them is right.

**Pieces.** `pieceAt?` — the piece to which a position belongs; `pieceAt?_eq_some_iff`.

**Places.** `InComment` — the characters that belong to a comment; `inComment_iff` — they are those of the
comments that are read. `WellPlaced` — the spans begin with marks, lie one behind the other and outside of
comments, and no mark lies outside of both.

**Searching.** `bisect` — the search by halving; `insideByHalving_iff` — spans that lie one behind the other
can be searched so.

**Lines.** `LineBegins` — where a line begins; `LineBegins.le_iff` — newlines are counted by where lines
begin.

`stringSpans_placed_and_searched` puts this together for every text.
-/

namespace FormulaCube

variable {x : Piece} {ps us ws : List Piece} {t : Text} {i j n position start : Nat}
  {span : Nat × Nat} {spans : List (Nat × Nat)}

/-! ## Pieces of a text -/

/-- The piece to which the position among pieces belongs. -/
def pieceAt? : List Piece → Nat → Option Piece
  | [], _ => none
  | x :: ps, i => if i < x.length then some x else pieceAt? ps (i - x.length)

lemma pieceAt?_append_add (ps qs : List Piece) (i : Nat) :
    pieceAt? (ps ++ qs) ((textOf ps).length + i) = pieceAt? qs i := by
  induction ps with
  | nil => exact congrArg (pieceAt? qs) (Nat.zero_add i)
  | cons x ps ih =>
      rw [List.cons_append, pieceAt?, length_textOf_cons_add,
        if_neg (Nat.not_lt.mpr (Nat.le_add_right _ _)), Nat.add_sub_cancel_left, ih]

/-- The pieces before that one, those behind it, and how far behind its beginning the position lies. -/
lemma pieceAt?_eq_some_iff : pieceAt? ps i = some x ↔
    ∃ us ws j, ps = us ++ x :: ws ∧ i = (textOf us).length + j ∧ j < x.length := by
  constructor
  · intro h
    induction ps generalizing i with
    | nil => cases h
    | cons y ps ih =>
        rw [pieceAt?] at h
        split at h
        · rename_i hi
          obtain rfl := Option.some_inj.mp h
          exact ⟨[], ps, i, rfl, (Nat.zero_add i).symm, hi⟩
        · rename_i hi
          obtain ⟨us, ws, j, rfl, hj, hlt⟩ := ih h
          refine ⟨y :: us, ws, j, rfl, ?_, hlt⟩
          rw [length_textOf_cons_add, ← hj]
          exact (Nat.add_sub_cancel' (Nat.not_lt.mp hi)).symm
  · rintro ⟨us, ws, j, rfl, rfl, hj⟩
    rw [pieceAt?_append_add, pieceAt?, if_pos hj]

lemma exists_pieceAt? (h : i < (textOf ps).length) : ∃ x, pieceAt? ps i = some x := by
  induction ps generalizing i with
  | nil => cases h
  | cons x ps ih =>
      rw [textOf_cons, List.length_append] at h
      rw [pieceAt?]
      split
      · exact ⟨x, rfl⟩
      · exact ih (by rw [Piece.length] at *; omega)

lemma exists_pieceAt?_ofText (h : i < t.length) : ∃ x, pieceAt? (Piece.ofText t) i = some x :=
  exists_pieceAt? (by rwa [textOf_ofText])

/-- A piece of a text, with what stands before it and behind it. -/
lemma eq_of_ofText (h : Piece.ofText t = us ++ x :: ws) : t = textOf us ++ (x.text ++ textOf ws) := by
  rw [← textOf_cons, ← textOf_append, ← h, textOf_ofText]

lemma readBefore_of_ofText (h : Piece.ofText t = us ++ x :: ws) : x.ReadBefore (textOf ws) := by
  have hread := reread_ofText t
  rw [h] at hread
  exact hread.of_append.2.1

lemma length_of_ofText (h : Piece.ofText t = us ++ x :: ws) :
    t.length = (textOf us).length + (x.length + (textOf ws).length) := by
  rw [eq_of_ofText h, List.length_append, List.length_append]
  rfl

lemma getElem?_of_ofText (h : Piece.ofText t = us ++ x :: ws) (hj : j < x.length) :
    t[(textOf us).length + j]? = x.text[j]? := by
  rw [← List.getElem?_drop, eq_of_ofText h, List.drop_left, List.getElem?_append_left hj]

/-- A piece stands where the text before it ends, since none is empty. -/
lemma pieceAt?_of_ofText (h : Piece.ofText t = us ++ x :: ws) :
    (textOf us).length < t.length ∧ pieceAt? (Piece.ofText t) (textOf us).length = some x := by
  obtain ⟨c, rest, htext⟩ := (readBefore_of_ofText h).exists_text_eq
  have hpos : 0 < x.length := by
    rw [Piece.length, htext]
    exact Nat.succ_pos _
  have hlength := length_of_ofText h
  exact ⟨by omega, pieceAt?_eq_some_iff.mpr ⟨us, ws, 0, h, rfl, hpos⟩⟩

/-! ## Literals and comments at positions -/

lemma spansFrom_append (start : Nat) (ps qs : List Piece) : spansFrom start (ps ++ qs) =
    spansFrom start ps ++ spansFrom (start + (textOf ps).length) qs := by
  induction ps generalizing start with
  | nil => rfl
  | cons x ps ih =>
      rw [add_length_textOf_cons]
      cases x with
      | code c => exact ih (start + 1)
      | comment body => exact ih (start + body.length)
      | literal body cut => exact congrArg (_ :: ·) (ih (start + body.length))

/-- **There is a span for each literal**, and there are no others. -/
lemma mem_spansFrom_iff : span ∈ spansFrom start ps ↔ ∃ us body cut ws,
    ps = us ++ .literal body cut :: ws ∧ span = (start + (textOf us).length,
      start + (textOf us).length + body.length + if cut then 1 else 0) := by
  constructor
  · intro h
    induction ps generalizing start with
    | nil => cases h
    | cons x ps ih =>
        have hbehind (h : span ∈ spansFrom (start + x.length) ps) : ∃ us body cut ws,
            x :: ps = us ++ .literal body cut :: ws ∧ span = (start + (textOf us).length,
              start + (textOf us).length + body.length + if cut then 1 else 0) := by
          obtain ⟨us, body, cut, ws, rfl, rfl⟩ := ih h
          exact ⟨x :: us, body, cut, ws, rfl, by rw [add_length_textOf_cons]⟩
        cases x with
        | code c => exact hbehind h
        | comment body => exact hbehind h
        | literal body cut =>
            rcases List.mem_cons.mp h with rfl | h
            · exact ⟨[], body, cut, ps, rfl, rfl⟩
            · exact hbehind h
  · rintro ⟨us, body, cut, ws, rfl, rfl⟩
    rw [spansFrom_append]
    exact List.mem_append_right _ List.mem_cons_self

/-- The character at the position belongs to one of the literals. -/
def InSpan (spans : List (Nat × Nat)) (i : Nat) : Prop := ∃ span ∈ spans, span.1 ≤ i ∧ i < span.2

/-- The character at the position belongs to a comment: in its line, at the position or before it, stands a
`#` that belongs to no literal. -/
def InComment (t : Text) (spans : List (Nat × Nat)) (i : Nat) : Prop :=
  ∃ j ≤ i, t[j]? = some '#' ∧ ¬ InSpan spans j ∧ ∀ k, j ≤ k → k ≤ i → t[k]? ≠ some '\n'

/-- The characters of the spans are those of the literals that are read. -/
lemma inSpan_iff (hi : i < t.length) : InSpan (stringSpans t) i ↔
    ∃ x, pieceAt? (Piece.ofText t) i = some x ∧ x.isLiteral = true := by
  constructor
  · rintro ⟨span, hspan, hle, hlt⟩
    obtain ⟨us, body, cut, ws, hps, rfl⟩ := mem_spansFrom_iff.mp hspan
    simp only [Nat.zero_add] at hle hlt
    obtain ⟨j, rfl⟩ := Nat.exists_eq_add_of_le hle
    refine ⟨_, pieceAt?_eq_some_iff.mpr ⟨us, ws, j, hps, rfl, ?_⟩, rfl⟩
    cases cut with
    | false => exact Nat.lt_of_add_lt_add_left hlt
    | true =>
        -- behind a literal that is cut off the text ends
        have hnil := (readBefore_of_ofText hps).eq_nil_of_cut
        rw [length_of_ofText hps, hnil] at hi
        exact Nat.lt_of_add_lt_add_left hi
  · rintro ⟨x, hx, hliteral⟩
    obtain ⟨body, cut, rfl⟩ := Piece.exists_eq_literal hliteral
    obtain ⟨us, ws, j, hps, rfl, hj⟩ := pieceAt?_eq_some_iff.mp hx
    have hj : j < body.length := hj
    refine ⟨_, mem_spansFrom_iff.mpr ⟨us, body, cut, ws, hps, rfl⟩, ?_, ?_⟩
    · simp only [Nat.zero_add]
      exact Nat.le_add_right _ _
    · simp only [Nat.zero_add]
      omega

lemma inComment_of_isComment (h : pieceAt? (Piece.ofText t) i = some x) (hx : x.isComment = true) :
    InComment t (stringSpans t) i := by
  obtain ⟨us, ws, m, hps, rfl, hm⟩ := pieceAt?_eq_some_iff.mp h
  have hread := readBefore_of_ofText hps
  cases x with
  | code c => cases hx
  | literal body cut => cases hx
  | comment body =>
      have hfirst := getElem?_of_ofText hps (Nat.zero_lt_of_lt hm)
      refine ⟨(textOf us).length, Nat.le_add_right _ _, ?_, fun hspan => ?_, fun k hk hkm hline => ?_⟩
      · refine hfirst.trans ?_
        cases hread with
        | comment => rfl
      · obtain ⟨hlt, hhere⟩ := pieceAt?_of_ofText hps
        obtain ⟨y, hy, hliteral⟩ := (inSpan_iff hlt).mp hspan
        obtain rfl := Option.some_inj.mp (hhere.symm.trans hy)
        cases hliteral
      · obtain ⟨j, rfl⟩ := Nat.exists_eq_add_of_le hk
        rw [getElem?_of_ofText hps (Nat.lt_of_le_of_lt (Nat.le_of_add_le_add_left hkm) hm)] at hline
        exact hread.newline_notMem (List.mem_of_getElem? hline)

/-- Behind a comment its line ends, unless the text does. -/
lemma newline_behind_comment {body : Text} (h : Piece.ofText t = us ++ .comment body :: ws)
    (hlt : (textOf us).length + body.length < t.length) :
    t[(textOf us).length + body.length]? = some '\n' := by
  have hlength : t.length = (textOf us).length + (body.length + (textOf ws).length) :=
    length_of_ofText h
  cases hws : textOf ws with
  | nil =>
      rw [hws, List.length_nil] at hlength
      omega
  | cons c rest =>
      obtain rfl : c = '\n' := (readBefore_of_ofText h).endsBefore (by rw [hws]; rfl)
      rw [eq_of_ofText h, hws, ← List.append_assoc, ← List.length_append]
      exact (List.getElem?_append_right (Nat.le_refl _)).trans (by rw [Nat.sub_self]; rfl)

/-- A `#` in a comment does not reach behind it, since its line ends there. -/
lemma isComment_of_inComment (hi : i < t.length) (h : InComment t (stringSpans t) i) :
    ∃ x, pieceAt? (Piece.ofText t) i = some x ∧ x.isComment = true := by
  obtain ⟨j, hj, hhash, hout, hline⟩ := h
  have hjt : j < t.length := Nat.lt_of_le_of_lt hj hi
  obtain ⟨x, hx⟩ := exists_pieceAt?_ofText hjt
  obtain ⟨us, ws, k, hps, rfl, hk⟩ := pieceAt?_eq_some_iff.mp hx
  have hread := readBefore_of_ofText hps
  have hat := (getElem?_of_ofText hps hk).symm.trans hhash
  cases x with
  | literal body cut => exact absurd ((inSpan_iff hjt).mpr ⟨_, hx, rfl⟩) hout
  | code c =>
      obtain rfl : k = 0 := Nat.lt_one_iff.mp hk
      obtain rfl : c = '#' := Option.some_inj.mp hat
      cases hread with
      | code hne => exact absurd rfl hne
  | comment body =>
      obtain ⟨m, rfl⟩ := Nat.exists_eq_add_of_le (Nat.le_trans (Nat.le_add_right _ _) hj)
      rcases Nat.lt_or_ge m body.length with hm | hm
      · exact ⟨_, pieceAt?_eq_some_iff.mpr ⟨us, ws, m, hps, rfl, hm⟩, rfl⟩
      · have hends := newline_behind_comment hps (Nat.lt_of_le_of_lt (Nat.add_le_add_left hm _) hi)
        exact absurd hends (hline _ (Nat.add_le_add_left (Nat.le_of_lt hk) _) (Nat.add_le_add_left hm _))

/-- **The characters in comments are those of the comments that are read.** -/
lemma inComment_iff (hi : i < t.length) : InComment t (stringSpans t) i ↔
    ∃ x, pieceAt? (Piece.ofText t) i = some x ∧ x.isComment = true :=
  ⟨isComment_of_inComment hi, fun ⟨_, hx, hcomment⟩ => inComment_of_isComment hx hcomment⟩

/-! ## Where the spans lie -/

/-- How the literals of a text lie in it. -/
structure WellPlaced (t : Text) (spans : List (Nat × Nat)) : Prop where
  /-- Each begins with a mark. -/
  mark : ∀ span ∈ spans, ∃ mark, t[span.1]? = some mark ∧ Text.isQuote mark = true
  /-- None is empty. -/
  lt : ∀ span ∈ spans, span.1 < span.2
  /-- None reaches further than one past the end of the text. -/
  le : ∀ span ∈ spans, span.2 ≤ t.length + 1
  /-- Only the last one reaches past the end, and only if the text ends with a backslash. -/
  past : ∀ span ∈ spans, span.2 = t.length + 1 →
    spans.getLast? = some span ∧ t.getLast? = some Text.backslash
  /-- Each ends before the next one begins. -/
  ordered : spans.Pairwise fun span next => span.2 ≤ next.1
  /-- None begins in a comment. -/
  not_inComment : ∀ span ∈ spans, ¬ InComment t spans span.1
  /-- Each mark that belongs to no literal stands in a comment. -/
  marks : ∀ i mark, t[i]? = some mark → Text.isQuote mark = true →
    InSpan spans i ∨ InComment t spans i

/-- Behind each literal the next one begins. -/
lemma pairwise_spansFrom (h : Reread ps) (start : Nat) :
    (spansFrom start ps).Pairwise fun span next => span.2 ≤ next.1 := by
  induction ps generalizing start with
  | nil => exact .nil
  | cons x ps ih =>
      have ih := ih h.2 (start + x.length)
      cases x with
      | code c => exact ih
      | comment body => exact ih
      | literal body cut =>
          refine List.pairwise_cons.mpr ⟨fun next hnext => ?_, ih⟩
          cases cut with
          | false => exact le_of_mem_spansFrom hnext
          | true =>
              rw [h.2.textOf_eq_nil_iff.mp h.1.eq_nil_of_cut] at hnext
              cases hnext

/-- The literal of a span. -/
lemma exists_literal_of_mem (h : span ∈ stringSpans t) : ∃ us mark body cut ws,
    Piece.ofText t = us ++ .literal (mark :: body) cut :: ws ∧ Text.isQuote mark = true ∧
      span = ((textOf us).length,
        (textOf us).length + (mark :: body).length + if cut then 1 else 0) := by
  obtain ⟨us, body, cut, ws, hps, rfl⟩ := mem_spansFrom_iff.mp h
  rw [Nat.zero_add]
  cases readBefore_of_ofText hps with
  | literal hquote => exact ⟨us, _, _, cut, ws, hps, hquote, rfl⟩

/-- A literal that reaches past the end of the text is cut off, and nothing follows it. -/
lemma of_span_past (h : span ∈ stringSpans t) (hpast : span.2 = t.length + 1) :
    (stringSpans t).getLast? = some span ∧ t.getLast? = some Text.backslash := by
  obtain ⟨us, mark, body, cut, ws, hps, -, rfl⟩ := exists_literal_of_mem h
  have hlength : t.length = (textOf us).length + ((mark :: body).length + (textOf ws).length) :=
    length_of_ofText hps
  obtain rfl : cut = true := by
    cases cut with
    | true => rfl
    | false =>
        rw [if_neg Bool.false_ne_true] at hpast
        dsimp only at hpast
        omega
  obtain ⟨lead, hlead⟩ := (readBefore_of_ofText hps).exists_eq_of_cut
  have hnil : textOf ws = [] := (readBefore_of_ofText hps).eq_nil_of_cut
  obtain rfl : ws = [] := by
    have hread := reread_ofText t
    rw [hps] at hread
    exact hread.of_append.2.2.textOf_eq_nil_iff.mp hnil
  refine ⟨?_, ?_⟩
  · rw [stringSpans, hps, spansFrom_append, Nat.zero_add]
    exact List.getLast?_concat
  · rw [eq_of_ofText hps, hnil, List.append_nil, Piece.text, hlead, ← List.append_assoc,
      List.getLast?_concat]

/-- A literal is none of the comments. -/
lemma not_inComment_of_mem (h : span ∈ stringSpans t) : ¬ InComment t (stringSpans t) span.1 := by
  intro hcomment
  obtain ⟨us, mark, body, cut, ws, hps, -, rfl⟩ := exists_literal_of_mem h
  obtain ⟨hlt, hhere⟩ := pieceAt?_of_ofText hps
  obtain ⟨x, hx, hx'⟩ := (inComment_iff hlt).mp hcomment
  obtain rfl := Option.some_inj.mp (hhere.symm.trans hx)
  cases hx'

/-- A mark begins a literal, or it is read with a literal or a comment. -/
lemma inSpan_or_inComment {mark : Char} (h : t[i]? = some mark) (hmark : Text.isQuote mark = true) :
    InSpan (stringSpans t) i ∨ InComment t (stringSpans t) i := by
  have hi : i < t.length := (List.getElem?_eq_some_iff.mp h).1
  obtain ⟨x, hx⟩ := exists_pieceAt?_ofText hi
  cases x with
  | literal body cut => exact .inl ((inSpan_iff hi).mpr ⟨_, hx, rfl⟩)
  | comment body => exact .inr (inComment_of_isComment hx rfl)
  | code c =>
      obtain ⟨us, ws, j, hps, rfl, hj⟩ := pieceAt?_eq_some_iff.mp hx
      obtain rfl : j = 0 := Nat.lt_one_iff.mp hj
      obtain rfl : c = mark := Option.some_inj.mp ((getElem?_of_ofText hps hj).symm.trans h)
      cases readBefore_of_ofText hps with
      | code _ hcode => cases hmark.symm.trans hcode

/-- **How the literals of a text lie in it**, whatever the text. -/
lemma wellPlaced_stringSpans (t : Text) : WellPlaced t (stringSpans t) where
  mark span h := by
    obtain ⟨us, mark, body, cut, ws, hps, hquote, rfl⟩ := exists_literal_of_mem h
    exact ⟨mark, getElem?_of_ofText hps (Nat.succ_pos _), hquote⟩
  lt span h := by
    obtain ⟨us, mark, body, cut, ws, -, -, rfl⟩ := exists_literal_of_mem h
    simp only [List.length_cons]
    omega
  le span h := by
    obtain ⟨us, mark, body, cut, ws, hps, -, rfl⟩ := exists_literal_of_mem h
    have hlength : t.length = (textOf us).length + ((mark :: body).length + (textOf ws).length) :=
      length_of_ofText hps
    dsimp only
    split <;> omega
  past _ := of_span_past
  ordered := pairwise_spansFrom (reread_ofText t) 0
  not_inComment _ := not_inComment_of_mem
  marks _ _ := inSpan_or_inComment

/-! ## Searching by halving -/

/-- The first number from `low` to `high` without the property, if the numbers with it stand before those
without it. -/
def bisect (p : Nat → Bool) (low high : Nat) : Nat :=
  if low < high then
    if p ((low + high) / 2) then bisect p ((low + high) / 2 + 1) high
    else bisect p low ((low + high) / 2)
  else low
termination_by high - low
decreasing_by
  · omega
  · omega

/-- Whether the position lies behind the beginning of a span and before its end, of which the last one that
begins before it is looked at, found by halving. -/
def insideByHalving (spans : List (Nat × Nat)) (position : Nat) : Bool :=
  match bisect (fun i => spans[i]?.any (·.1 < position)) 0 spans.length with
  | 0 => false
  | i + 1 => spans[i]?.any fun span => span.1 < position && position < span.2

/-- **Halving finds where the property ends.** -/
lemma bisect_eq {p : Nat → Bool} {low high n : Nat} (hlow : low ≤ n) (hhigh : n ≤ high)
    (hp : ∀ i, low ≤ i → i < high → (p i = true ↔ i < n)) : bisect p low high = n := by
  fun_induction bisect p low high with
  | case1 low high hlt hmiddle ih =>
      have hn := (hp _ (by omega) (by omega)).mp hmiddle
      exact ih (by omega) hhigh fun i hi => hp i (by omega)
  | case2 low high hlt hmiddle ih =>
      have hn := mt (hp _ (by omega) (by omega)).mpr hmiddle
      exact ih hlow (by omega) fun i hi hi' => hp i hi (by omega)
  | case3 low high hlt => omega

/-- How many spans begin before a position; they are the first ones. -/
lemma exists_begun (hordered : spans.Pairwise fun span next => span.2 ≤ next.1)
    (hlt : ∀ span ∈ spans, span.1 < span.2) (position : Nat) :
    ∃ n ≤ spans.length, ∀ i (hi : i < spans.length), spans[i].1 < position ↔ i < n := by
  induction spans with
  | nil => exact ⟨0, Nat.le_refl 0, fun i hi => absurd hi (Nat.not_lt_zero i)⟩
  | cons span spans ih =>
      rw [List.pairwise_cons] at hordered
      obtain ⟨n, hn, hbegun⟩ := ih hordered.2 fun next h => hlt next (List.mem_cons_of_mem _ h)
      by_cases hspan : span.1 < position
      · refine ⟨n + 1, Nat.succ_le_succ hn, fun i hi => ?_⟩
        cases i with
        | zero => exact iff_of_true hspan (Nat.succ_pos n)
        | succ i => exact (hbegun i (Nat.lt_of_succ_lt_succ hi)).trans Nat.succ_lt_succ_iff.symm
      · refine ⟨0, Nat.zero_le _, fun i hi => iff_of_false (fun hlater => hspan ?_) (Nat.not_lt_zero i)⟩
        cases i with
        | zero => exact hlater
        | succ i =>
            have hends := hordered.1 _ (List.getElem_mem (Nat.lt_of_succ_lt_succ hi))
            exact Nat.lt_trans (hlt span List.mem_cons_self) (Nat.lt_of_le_of_lt hends hlater)

/-- **Spans that lie one behind the other can be searched by halving**: only the last one that begins before
the position can go on behind it. -/
lemma insideByHalving_iff (hordered : spans.Pairwise fun span next => span.2 ≤ next.1)
    (hlt : ∀ span ∈ spans, span.1 < span.2) : insideByHalving spans position = true ↔
      ∃ span ∈ spans, span.1 < position ∧ position < span.2 := by
  obtain ⟨n, hn, hbegun⟩ := exists_begun hordered hlt position
  have hbisect : bisect (fun i => spans[i]?.any (·.1 < position)) 0 spans.length = n := by
    refine bisect_eq (Nat.zero_le n) hn fun i _ hi => ?_
    rw [List.getElem?_eq_getElem hi, Option.any_some, decide_eq_true_eq, hbegun i hi]
  rw [insideByHalving, hbisect]
  cases n with
  | zero =>
      refine iff_of_false Bool.false_ne_true ?_
      rintro ⟨span, hspan, hbefore, -⟩
      obtain ⟨i, hi, rfl⟩ := List.getElem_of_mem hspan
      exact Nat.not_lt_zero i ((hbegun i hi).mp hbefore)
  | succ n =>
      dsimp only
      rw [List.getElem?_eq_getElem hn, Option.any_some, Bool.and_eq_true, decide_eq_true_eq,
        decide_eq_true_eq]
      constructor
      · exact fun h => ⟨spans[n], List.getElem_mem hn, h⟩
      · rintro ⟨span, hspan, hbefore, hbehind⟩
        obtain ⟨i, hi, rfl⟩ := List.getElem_of_mem hspan
        rcases Nat.lt_or_ge i n with hin | hin
        · have hends := List.pairwise_iff_getElem.mp hordered i n hi hn hin
          have hlast := (hbegun n hn).mpr (Nat.lt_succ_self n)
          omega
        · obtain rfl : i = n := Nat.le_antisymm (Nat.le_of_lt_succ ((hbegun i hi).mp hbefore)) hin
          exact ⟨hbefore, hbehind⟩

/-! ## Lines -/

/-- Line number `i` of the text begins at the position: so many newlines stand before it, and just before it
there is one or nothing. -/
structure LineBegins (t : Text) (i position : Nat) : Prop where
  /-- The position lies in the text or at its end. -/
  le : position ≤ t.length
  /-- The line is empty before the position. -/
  atLineStart : AtLineStart (t.take position)
  /-- So many lines end before it. -/
  count : (t.take position).count '\n' = i

lemma count_take_mono {m n : Nat} (h : m ≤ n) (t : Text) :
    (t.take m).count '\n' ≤ (t.take n).count '\n' :=
  (List.take_sublist_take_left h).count_le _

/-- **Newlines are counted by where lines begin.** -/
lemma LineBegins.le_iff (h : LineBegins t i position) :
    position ≤ n ↔ i ≤ (t.take n).count '\n' := by
  constructor
  · intro hle
    rw [← h.count]
    exact count_take_mono hle t
  · intro hcount
    refine Nat.not_lt.mp fun hlt => Nat.not_lt.mpr hcount ?_
    obtain ⟨m, rfl⟩ := Nat.exists_eq_add_of_lt hlt
    have hm : n + m < t.length := h.le
    have htake := List.take_succ_eq_append_getElem hm
    have hline : t[n + m] = '\n' := h.atLineStart _ (by rw [htake, List.getLast?_concat]; rfl)
    rw [← h.count, htake, hline, List.count_append, List.count_singleton_self]
    exact Nat.lt_succ_of_le (count_take_mono (Nat.le_add_right n m) t)

/-- Each line begins somewhere. -/
lemma exists_lineBegins (h : i ≤ (t.take n).count '\n') : ∃ position, LineBegins t i position := by
  induction n with
  | zero => exact ⟨0, Nat.zero_le _, atLineStart_nil, (Nat.le_zero.mp h).symm⟩
  | succ n ih =>
      by_cases hi : i ≤ (t.take n).count '\n'
      · exact ih hi
      · rcases Nat.lt_or_ge n t.length with hn | hn
        · have htake := List.take_succ_eq_append_getElem hn
          by_cases hline : t[n] = '\n'
          · refine ⟨n + 1, hn, fun c hc => ?_, ?_⟩
            · rw [htake, List.getLast?_concat] at hc
              exact (Option.some_inj.mp hc).symm.trans hline
            · rw [htake, hline, List.count_append, List.count_singleton_self] at h ⊢
              omega
          · rw [htake, List.count_append, List.count_singleton, beq_eq_false_iff_ne.mpr hline] at h
            exact absurd h hi
        · rw [List.take_of_length_le (Nat.le_succ_of_le hn), ← List.take_of_length_le hn] at h
          exact absurd h hi

/-- **The lines that begin inside a literal**: newlines up to a position before its end are counted, so a
line that begins at its end is none of them. -/
lemma beginsInLiteral_iff (t : Text) (i : Nat) : beginsInLiteral (literalLines t) i = true ↔
    0 < i ∧ ∃ position, LineBegins t i position ∧
      ∃ span ∈ stringSpans t, span.1 < position ∧ position < span.2 := by
  have hlt := (wellPlaced_stringSpans t).lt
  rw [beginsInLiteral, List.any_eq_true, literalLines]
  constructor
  · rintro ⟨lines, hlines, hinside⟩
    obtain ⟨span, hspan, rfl⟩ := List.mem_map.mp hlines
    rw [Bool.and_eq_true, decide_eq_true_eq, decide_eq_true_eq] at hinside
    obtain ⟨hbegin, hend⟩ := hinside
    obtain ⟨position, hposition⟩ := exists_lineBegins hend
    have hbehind : span.1 < position := Nat.not_le.mp fun hle =>
      Nat.not_le.mpr hbegin (hposition.le_iff.mp hle)
    have hbefore : position ≤ span.2 - 1 := hposition.le_iff.mpr hend
    have hspan' := hlt span hspan
    exact ⟨Nat.zero_lt_of_lt hbegin, position, hposition, span, hspan, hbehind, by omega⟩
  · rintro ⟨-, position, hposition, span, hspan, hbehind, hbefore⟩
    refine ⟨_, List.mem_map.mpr ⟨span, hspan, rfl⟩, ?_⟩
    rw [Bool.and_eq_true, decide_eq_true_eq, decide_eq_true_eq]
    refine ⟨Nat.not_le.mp fun hle => ?_, hposition.le_iff.mp (Nat.le_sub_one_of_lt hbefore)⟩
    exact Nat.not_le.mpr hbehind (hposition.le_iff.mpr hle)

/-! ## Whole texts -/

/-- **The spans of literals are well placed, and they are searched rightly.** For every text: each span begins
with a mark, they lie one behind the other and outside of comments, and the last one may reach one past the
end. A position is found to be inside exactly if it lies behind the beginning and before the end of some
span, and halving finds the same. A line counts as beginning inside a literal exactly if it is not the
first one and the position where it begins is inside; the position at which a span ends is not. -/
theorem stringSpans_placed_and_searched (t : Text) :
    WellPlaced t (stringSpans t) ∧
    (∀ position, (insideSpan (stringSpans t) position = true ↔
        ∃ span ∈ stringSpans t, span.1 < position ∧ position < span.2) ∧
      insideByHalving (stringSpans t) position = insideSpan (stringSpans t) position) ∧
    ∀ i, beginsInLiteral (literalLines t) i = true ↔ 0 < i ∧ ∃ position, LineBegins t i position ∧
      ∃ span ∈ stringSpans t, span.1 < position ∧ position < span.2 := by
  have hplaced := wellPlaced_stringSpans t
  have hinside (position : Nat) : insideSpan (stringSpans t) position = true ↔
      ∃ span ∈ stringSpans t, span.1 < position ∧ position < span.2 :=
    insideSpan_spansFrom_iff (reread_ofText t)
  refine ⟨hplaced, fun position => ⟨hinside position, ?_⟩, beginsInLiteral_iff t⟩
  rw [Bool.eq_iff_iff, hinside]
  exact insideByHalving_iff hplaced.ordered hplaced.lt

/-- A literal in three marks over two lines, a mark in a comment, and a literal that is cut off. -/
example : stringSpans "'''\n'''#'\n'\\".toList = [(0, 7), (10, 13)] := by
  cbv

end FormulaCube
