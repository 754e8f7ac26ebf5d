import FormulaCube.Proofs.Shortcut.Scanning
import Mathlib.Logic.Basic

/-!
# Pieces and what follows them

What is read as a piece depends on what stands behind it: a comment goes on to the end of its line, two
marks are a literal unless there is a third one, and a literal that is not closed goes on to the end of
the text. Here it is said when a piece stays the same although the text behind it changes. Nothing is
asked of the text: its last literal may be open, or cut off after a backslash.

* `Piece.ReadBefore` — a piece that is read as it is before a text; `Piece.ReadBefore.behind` — the
  text behind it may be replaced.
* `Reread` — pieces that are read again from their text; `reread_ofText` — all pieces of a text are.
* `Reread.of_append`, `Reread.behind_code`, `Reread.filter_isComment` — cutting, going on otherwise behind
  a character of code, and leaving the comments out.
* `literalTexts` — the literals of a text; `literalTexts_eq` — they can be read off the pieces.
-/

namespace FormulaCube

/-- The text of a sequence of pieces. -/
abbrev textOf (ps : List Piece) : Text := ps.flatMap Piece.text

lemma textOf_cons (x : Piece) (ps : List Piece) : textOf (x :: ps) = x.text ++ textOf ps :=
  List.flatMap_cons

lemma textOf_append (ps qs : List Piece) : textOf (ps ++ qs) = textOf ps ++ textOf qs :=
  List.flatMap_append

lemma textOf_ofText (t : Text) : textOf (Piece.ofText t) = t := Piece.flatMap_text_ofText t

/-- The pieces behind a piece begin where it ends. -/
lemma add_length_textOf_cons (start : Nat) (x : Piece) (ps : List Piece) :
    start + (textOf (x :: ps)).length = start + x.length + (textOf ps).length := by
  rw [textOf_cons, List.length_append, Nat.add_assoc]
  rfl

/-- A position behind pieces, counted from the end of the first one. -/
lemma length_textOf_cons_add (x : Piece) (ps : List Piece) (i : Nat) :
    (textOf (x :: ps)).length + i = x.length + ((textOf ps).length + i) := by
  rw [textOf_cons, List.length_append, Nat.add_assoc]
  rfl

namespace Piece

/-- The piece ends where this character follows. -/
def EndsBefore (c : Char) : Piece → Prop
  | .code _ => True
  | .literal body _ => body ≠ [c, c]
  | .comment _ => c = '\n'

/-- The piece ends a line, and the next one is a line of code. -/
def EndsLine (x : Piece) : Prop := x.text.getLast? = some '\n'

/-- Whether the piece is a literal. -/
def isLiteral : Piece → Bool
  | .literal _ _ => true
  | _ => false

/-- Whether the piece is a comment. -/
def isComment : Piece → Bool
  | .comment _ => true
  | _ => false

/-! ## Literals before other texts -/

variable {mark : Char} {rest k : Text}

/-- A literal in one mark that ends before the end of the text ends there before every text. -/
lemma closeLine_behind (h : (closeLine mark rest).2.1 ≠ []) (k : Text) :
    closeLine mark ((closeLine mark rest).1 ++ k) = ((closeLine mark rest).1, k, false) := by
  fun_induction closeLine mark rest with
  | case1 => exact absurd rfl h
  | case2 => exact absurd rfl h
  | case3 d more body after cut heq ih =>
      rw [heq] at ih
      rw [List.cons_append, List.cons_append, closeLine, if_pos rfl, ih h]
  | case4 c more hback hstop =>
      show closeLine mark (c :: k) = _
      rw [closeLine.eq_def]
      simp only [hback, hstop, if_false, if_true]
  | case5 c more hback hstop body after cut heq ih =>
      rw [heq] at ih
      rw [List.cons_append, closeLine.eq_def]
      simp only [hback, hstop, if_false, ih h, Bool.false_eq_true]

/-- The marks that close a literal are there if something follows them. -/
lemma three_le_of_closeBlock (h : (closeBlock mark rest).2 ≠ []) :
    3 ≤ (closeBlock mark rest).1.length := by
  fun_induction closeBlock mark rest with
  | case1 => exact absurd rfl h
  | case2 => exact Nat.le_refl 3
  | case3 c more hmarks body after heq ih =>
      rw [heq] at ih
      exact Nat.le_succ_of_le (ih h)

/-- A literal in three marks that ends before the end of the text ends there before every text. -/
lemma closeBlock_behind (h : (closeBlock mark rest).2 ≠ []) (k : Text) :
    closeBlock mark ((closeBlock mark rest).1 ++ k) = ((closeBlock mark rest).1, k) := by
  fun_induction closeBlock mark rest with
  | case1 => exact absurd rfl h
  | case2 c more hmarks =>
      show closeBlock mark ([mark, mark, mark] ++ k) = _
      have hclose : [mark, mark, mark].isPrefixOf ([mark, mark, mark] ++ k) = true :=
        List.isPrefixOf_iff_prefix.mpr (List.prefix_append _ _)
      rw [List.cons_append] at hclose ⊢
      rw [closeBlock, if_pos hclose]
      rfl
  | case3 c more hmarks body after heq ih =>
      have hlength : 3 ≤ (closeBlock mark more).1.length :=
        three_le_of_closeBlock (by rw [heq]; exact h)
      have happend := closeBlock_append mark more
      rw [heq] at ih hlength happend
      have hlong : ([mark, mark, mark] : Text).length ≤ (c :: body).length := Nat.le_succ_of_le hlength
      -- the three characters at the front are the same before both texts
      rw [← happend, ← List.cons_append, isPrefixOf_append_of_length hlong,
        ← isPrefixOf_append_of_length hlong k] at hmarks
      rw [List.cons_append] at hmarks ⊢
      rw [closeBlock, if_neg hmarks, ih h]

lemma closeLiteral_block (mark : Char) (more : Text) :
    closeLiteral mark (mark :: mark :: more) =
      (mark :: mark :: (closeBlock mark more).1, (closeBlock mark more).2, false) := by
  have hopen : [mark, mark].isPrefixOf (mark :: mark :: more) = true :=
    List.isPrefixOf_iff_prefix.mpr (List.prefix_append [mark, mark] more)
  rw [closeLiteral, if_pos hopen]
  rfl

lemma closeLiteral_line (h : ¬ [mark, mark].isPrefixOf rest = true) :
    closeLiteral mark rest = closeLine mark rest := by
  rw [closeLiteral, if_neg h]

/-- Only nothing is read as nothing. -/
lemma closeLine_ne_nil (h : (closeLine mark rest).2.1 ≠ []) : (closeLine mark rest).1 ≠ [] := by
  fun_cases closeLine mark rest with
  | case1 => exact absurd rfl h
  | _ => simp_all

/-- **A literal that ends before the end of the text ends there before every text**, unless it is a
pair of marks and a third one follows. -/
lemma closeLiteral_behind (h : (closeLiteral mark rest).2.1 ≠ [])
    (hk : ∀ c ∈ k.head?, mark :: (closeLiteral mark rest).1 ≠ [c, c]) :
    closeLiteral mark ((closeLiteral mark rest).1 ++ k) =
      ((closeLiteral mark rest).1, k, false) := by
  by_cases hblock : [mark, mark].isPrefixOf rest = true
  · obtain ⟨more, rfl⟩ := List.isPrefixOf_iff_prefix.mp hblock
    rw [List.cons_append, List.cons_append, List.nil_append, closeLiteral_block] at h ⊢
    rw [List.cons_append, List.cons_append, closeLiteral_block, closeBlock_behind h]
  · have happend := closeLine_append mark rest
    rw [closeLiteral_line hblock] at h hk ⊢
    have hstop : ¬ [mark, mark].isPrefixOf ((closeLine mark rest).1 ++ k) = true := by
      match hbody : (closeLine mark rest).1 with
      | [] => exact absurd hbody (closeLine_ne_nil h)
      | [c] =>
          rw [hbody] at hk
          intro hprefix
          cases k with
          | nil => simp at hprefix
          | cons d k =>
              obtain ⟨rfl, rfl⟩ : mark = c ∧ mark = d := by
                simpa [List.isPrefixOf_cons_cons] using hprefix
              exact hk mark rfl rfl
      | c :: d :: body =>
          have hlong : ([mark, mark] : Text).length ≤ (c :: d :: body).length := Nat.le_add_left 2 _
          rw [hbody] at happend
          rw [← happend, isPrefixOf_append_of_length hlong] at hblock
          rwa [isPrefixOf_append_of_length hlong]
    rw [closeLiteral_line hstop, closeLine_behind h]

/-- A pair of marks is not followed by a third one. -/
lemma ne_of_head?_closeLiteral {c : Char} (hc : c ∈ (closeLiteral mark rest).2.1.head?) :
    mark :: (closeLiteral mark rest).1 ≠ [c, c] := by
  intro heq
  obtain ⟨rfl, hbody⟩ := List.cons.inj heq
  obtain ⟨after, hafter⟩ := List.head?_eq_some_iff.mp hc
  have hrest := closeLiteral_append mark rest
  rw [hbody, hafter] at hrest
  have hopen : [mark, mark].isPrefixOf rest = true :=
    List.isPrefixOf_iff_prefix.mpr ⟨after, hrest⟩
  rw [closeLiteral, if_pos hopen] at hbody
  cases (List.cons.inj hbody).2

/-- A literal is cut off only at the end of the text. -/
lemma closeLiteral_of_cut (h : (closeLiteral mark rest).2.2 = true) :
    (closeLiteral mark rest).2.1 = [] := by
  refine Decidable.byContradiction fun hafter => ?_
  have hbehind := closeLiteral_behind hafter fun c hc => ne_of_head?_closeLiteral hc
  rw [closeLiteral_append] at hbehind
  rw [hbehind] at h
  cases h

lemma closeLine_of_cut (h : (closeLine mark rest).2.2 = true) :
    ∃ body, (closeLine mark rest).1 = body ++ [Text.backslash] := by
  fun_induction closeLine mark rest with
  | case1 => cases h
  | case2 => exact ⟨[], rfl⟩
  | case3 d more body after cut heq ih =>
      rw [heq] at ih
      obtain ⟨t, rfl⟩ := ih h
      exact ⟨Text.backslash :: d :: t, rfl⟩
  | case4 => cases h
  | case5 c more hback hstop body after cut heq ih =>
      rw [heq] at ih
      obtain ⟨t, rfl⟩ := ih h
      exact ⟨c :: t, rfl⟩

lemma exists_eq_of_closeLiteral_cut (h : (closeLiteral mark rest).2.2 = true) :
    ∃ body, (closeLiteral mark rest).1 = body ++ [Text.backslash] := by
  by_cases hblock : [mark, mark].isPrefixOf rest = true
  · rw [closeLiteral, if_pos hblock] at h
    cases h
  · rw [closeLiteral_line hblock] at h ⊢
    exact closeLine_of_cut h

/-! ## Pieces before other texts -/

/-- The piece is what is read first from its own text with this text behind it. -/
inductive ReadBefore : Piece → Text → Prop
  /-- A character with which neither a literal nor a comment begins. -/
  | code {c : Char} {k : Text} (hhash : c ≠ '#') (hquote : Text.isQuote c = false) :
      ReadBefore (.code c) k
  /-- A comment, behind which its line or the text ends. -/
  | comment {body k : Text} (hbody : ∀ c ∈ body, inComment c = true) (hk : ∀ c ∈ k.head?, c = '\n') :
      ReadBefore (.comment ('#' :: body)) k
  /-- A literal that ends before the text. -/
  | literal {mark : Char} {body k : Text} {cut : Bool} (hquote : Text.isQuote mark = true)
      (hclose : closeLiteral mark (body ++ k) = (body, k, cut)) :
      ReadBefore (.literal (mark :: body) cut) k

namespace ReadBefore

variable {x : Piece} {k k' : Text}

lemma ofText_append (h : x.ReadBefore k) : ofText (x.text ++ k) = x :: ofText k := by
  cases h with
  | code hhash hquote => exact ofText_code hhash hquote k
  | @comment body k hbody hk =>
      have hstop : k.takeWhile inComment = [] ∧ k.dropWhile inComment = k := by
        cases k with
        | nil => exact ⟨rfl, rfl⟩
        | cons c k =>
            obtain rfl : c = '\n' := hk c rfl
            exact ⟨rfl, rfl⟩
      rw [text, List.cons_append, ofText, if_pos rfl, List.takeWhile_append_of_pos hbody,
        List.dropWhile_append_of_pos hbody, hstop.1, hstop.2, List.append_nil]
  | @literal mark body k cut hquote hclose =>
      have hhash : mark ≠ '#' := by
        rintro rfl
        cases hquote
      rw [text, List.cons_append, ofText, if_neg hhash, if_pos hquote, hclose]

/-- Nothing follows a literal that is cut off. -/
lemma eq_nil_of_cut {body : Text} (h : (Piece.literal body true).ReadBefore k) : k = [] := by
  cases h with
  | @literal mark body k cut hquote hclose =>
      have hcut := @closeLiteral_of_cut mark (body ++ k)
      rw [hclose] at hcut
      exact hcut rfl

/-- The piece ends before the text. -/
lemma endsBefore (h : x.ReadBefore k) {c : Char} (hc : c ∈ k.head?) : x.EndsBefore c := by
  cases h with
  | code => trivial
  | comment hbody hk => exact hk c hc
  | @literal mark body k cut hquote hclose =>
      have hends := @ne_of_head?_closeLiteral mark (body ++ k) c
      rw [hclose] at hends
      exact hends hc

/-- **The text behind a piece may be replaced** by one before which the piece ends. Nothing may be put
behind a piece with which the text ends. -/
lemma behind (h : x.ReadBefore k) (hnil : k = [] → k' = [])
    (hends : ∀ c ∈ k'.head?, x.EndsBefore c) : x.ReadBefore k' := by
  cases h with
  | code hhash hquote => exact .code hhash hquote
  | comment hbody hk => exact .comment hbody hends
  | @literal mark body k cut hquote hclose =>
      by_cases hk : k = []
      · rw [hnil hk, ← hk]
        exact .literal hquote hclose
      · have hbehind := @closeLiteral_behind mark (body ++ k) k'
        rw [hclose] at hbehind
        have hcut := @closeLiteral_of_cut mark (body ++ k)
        rw [hclose] at hcut
        obtain rfl : cut = false := Bool.eq_false_iff.mpr fun h => hk (hcut h)
        exact .literal hquote (hbehind hk hends)

/-- What stands behind a piece may be cut off anywhere. -/
lemma of_append (h : x.ReadBefore (k ++ k')) : x.ReadBefore k := by
  refine h.behind (fun hnil => (List.append_eq_nil_iff.mp hnil).1) fun c hc => h.endsBefore ?_
  obtain ⟨after, rfl⟩ := List.head?_eq_some_iff.mp hc
  rfl

lemma exists_text_eq (h : x.ReadBefore k) : ∃ c t, x.text = c :: t := by
  cases h with
  | code => exact ⟨_, _, rfl⟩
  | comment => exact ⟨_, _, rfl⟩
  | literal => exact ⟨_, _, rfl⟩

/-- A text begins with its first piece. -/
lemma head?_textOf_cons (h : x.ReadBefore k) (ps : List Piece) :
    (textOf (x :: ps)).head? = x.text.head? := by
  obtain ⟨c, t, htext⟩ := h.exists_text_eq
  rw [textOf_cons, htext]
  rfl

lemma exists_text_eq_concat (h : x.ReadBefore k) : ∃ t c, x.text = t ++ [c] := by
  obtain ⟨c, t, htext⟩ := h.exists_text_eq
  exact ⟨_, _, (List.dropLast_concat_getLast (by rw [htext]; exact List.cons_ne_nil c t)).symm⟩

/-- A piece that begins with a character of code is that character. -/
lemma eq_code {c : Char} {t : Text} (h : x.ReadBefore k) (htext : x.text = c :: t) (hhash : c ≠ '#')
    (hquote : Text.isQuote c = false) : x = .code c := by
  cases h with
  | code => rw [(List.cons.inj htext).1]
  | comment => exact absurd (List.cons.inj htext).1.symm hhash
  | literal hmark =>
      rw [(List.cons.inj htext).1, hquote] at hmark
      cases hmark

/-- A literal is cut off behind a backslash. -/
lemma exists_eq_of_cut {body : Text} (h : (Piece.literal body true).ReadBefore k) :
    ∃ t, body = t ++ [Text.backslash] := by
  cases h with
  | @literal mark body k cut hquote hclose =>
      have hcut := @exists_eq_of_closeLiteral_cut mark (body ++ k)
      rw [hclose] at hcut
      obtain ⟨t, rfl⟩ := hcut rfl
      exact ⟨mark :: t, rfl⟩

/-- A comment stands within a line. -/
lemma newline_notMem {body : Text} (h : (Piece.comment body).ReadBefore k) : '\n' ∉ body := by
  cases h with
  | comment hbody hk =>
      intro hmem
      rcases List.mem_cons.mp hmem with heq | hmem
      · cases heq
      · cases hbody _ hmem

/-- A piece other than a comment ends before every character that is no mark. -/
lemma endsBefore_of_not_isQuote (h : x.ReadBefore k) (hx : x.isComment = false) {c : Char}
    (hc : Text.isQuote c = false) : x.EndsBefore c := by
  cases h with
  | code => trivial
  | comment => cases hx
  | literal hquote hclose =>
      intro heq
      rw [(List.cons.inj heq).1, hc] at hquote
      cases hquote

/-- Behind a piece that ends a line every character may follow. -/
lemma endsBefore_of_endsLine (h : x.ReadBefore k) (hx : x.EndsLine) (c : Char) :
    x.EndsBefore c := by
  cases x with
  | code d => trivial
  | comment body => exact absurd (List.mem_of_getLast? hx) h.newline_notMem
  | literal body cut =>
      rintro rfl
      obtain rfl : c = '\n' := Option.some_inj.mp hx
      cases h with
      | literal hquote => cases hquote

end ReadBefore

end Piece

/-! ## Pieces that are read again -/

/-- The pieces are read again from their text. -/
def Reread : List Piece → Prop
  | [] => True
  | x :: ps => x.ReadBefore (textOf ps) ∧ Reread ps

/-- **All pieces of a text are read again.** -/
lemma reread_ofText (t : Text) : Reread (Piece.ofText t) := by
  fun_induction Piece.ofText t with
  | case1 => trivial
  | case2 rest ih =>
      refine ⟨.comment (fun c hc => List.all_eq_true.mp List.all_takeWhile c hc) fun c hc => ?_, ih⟩
      rw [textOf_ofText] at hc
      rcases dropWhile_inComment rest with hnil | ⟨u, hu⟩
      · rw [hnil] at hc
        cases hc
      · rw [hu] at hc
        exact (Option.some_inj.mp hc).symm
  | case3 c rest hhash hquote ih =>
      refine ⟨.literal hquote ?_, ih⟩
      rw [textOf_ofText, Piece.closeLiteral_append]
  | case4 c rest hhash hquote ih => exact ⟨.code hhash (Bool.eq_false_iff.mpr hquote), ih⟩

namespace Reread

variable {x : Piece} {ps qs : List Piece}

lemma ofText_textOf (h : Reread ps) : Piece.ofText (textOf ps) = ps := by
  induction ps with
  | nil => rw [textOf, List.flatMap_nil, Piece.ofText]
  | cons x ps ih => rw [textOf_cons, h.1.ofText_append, ih h.2]

lemma textOf_eq_nil_iff (h : Reread ps) : textOf ps = [] ↔ ps = [] := by
  cases ps with
  | nil => exact ⟨fun _ => rfl, fun _ => rfl⟩
  | cons x ps =>
      obtain ⟨c, t, htext⟩ := h.1.exists_text_eq
      rw [textOf_cons, htext]
      exact ⟨nofun, nofun⟩

lemma exists_readBefore (h : Reread ps) (hx : x ∈ ps) : ∃ k, x.ReadBefore k := by
  induction ps with
  | nil => cases hx
  | cons y ps ih =>
      rcases List.mem_cons.mp hx with rfl | hx
      · exact ⟨_, h.1⟩
      · exact ih h.2 hx

/-- Pieces are cut between two of them. -/
lemma of_append (h : Reread (ps ++ qs)) : Reread ps ∧ Reread qs := by
  induction ps with
  | nil => exact ⟨trivial, h⟩
  | cons x ps ih =>
      have hx : x.ReadBefore (textOf (ps ++ qs)) := h.1
      rw [textOf_append] at hx
      exact ⟨⟨hx.of_append, (ih h.2).1⟩, (ih h.2).2⟩

/-- **Behind a character of code the text may be replaced.** -/
lemma behind_code {c : Char} (h : Reread (ps ++ .code c :: qs)) (k : Text) :
    Reread (ps ++ .code c :: Piece.ofText k) := by
  -- a piece before the character ends there before and after
  have hhead (ps rs : List Piece) : textOf (ps ++ .code c :: rs) = textOf ps ++ c :: textOf rs := by
    rw [textOf, List.flatMap_append, List.flatMap_cons]
    rfl
  induction ps with
  | nil =>
      obtain ⟨hcode, -⟩ := h
      cases hcode with
      | code hhash hquote => exact ⟨.code hhash hquote, reread_ofText k⟩
  | cons x ps ih =>
      have hx : x.ReadBefore (textOf (ps ++ .code c :: qs)) := h.1
      have hx' : x.ReadBefore (textOf (ps ++ .code c :: Piece.ofText k)) := by
        refine hx.behind (fun hnil => ?_) fun d hd => hx.endsBefore ?_
        · rw [hhead] at hnil
          exact absurd hnil (List.append_ne_nil_of_right_ne_nil _ (List.cons_ne_nil _ _))
        · rw [hhead, List.head?_append, List.head?_cons] at hd ⊢
          exact hd
      exact ⟨hx', ih h.2⟩

/-- **Without the comments the other pieces are read again.** -/
lemma filter_isComment (h : Reread ps) : Reread (ps.filter (!·.isComment)) := by
  -- where a comment stood its line ends
  have hhead (ps : List Piece) (h : Reread ps) :
      ∀ c ∈ (textOf (ps.filter (!·.isComment))).head?, c = '\n' ∨ c ∈ (textOf ps).head? := by
    intro c hc
    induction ps with
    | nil => cases hc
    | cons x ps ih =>
        obtain ⟨d, t, htext⟩ := h.1.exists_text_eq
        cases hx : x.isComment with
        | false =>
            rw [List.filter_cons_of_pos (by rw [hx]; rfl), textOf_cons, htext] at hc
            rw [textOf_cons, htext]
            exact Or.inr hc
        | true =>
            rw [List.filter_cons_of_neg (by rw [hx]; decide)] at hc
            rcases ih h.2 hc with rfl | hmem
            · exact Or.inl rfl
            · have hends := h.1.endsBefore hmem
              cases x with
              | comment body => exact Or.inl hends
              | _ => cases hx
  induction ps with
  | nil => trivial
  | cons x ps ih =>
      have ih := ih h.2
      cases hx : x.isComment with
      | true => rwa [List.filter_cons_of_neg (by rw [hx]; decide)]
      | false =>
          rw [List.filter_cons_of_pos (by rw [hx]; rfl)]
          refine ⟨h.1.behind (fun hnil => ?_) fun c hc => ?_, ih⟩
          · rw [h.2.textOf_eq_nil_iff.mp hnil]
            rfl
          · rcases hhead ps h.2 c hc with rfl | hmem
            · exact h.1.endsBefore_of_not_isQuote hx rfl
            · exact h.1.endsBefore hmem

end Reread

/-! ## Characters within a line of code -/

/-- The characters stand within a line of code. -/
def isLineCode (t : Text) : Bool := t.all fun c => c != '#' && !Text.isQuote c && c != '\n'

lemma of_isLineCode {t : Text} {c : Char} (h : isLineCode t = true) (hc : c ∈ t) :
    c ≠ '#' ∧ Text.isQuote c = false ∧ c ≠ '\n' := by
  have hall := List.all_eq_true.mp h c hc
  rw [Bool.and_eq_true, Bool.and_eq_true, bne_iff_ne, Bool.not_eq_true', bne_iff_ne, and_assoc] at hall
  exact hall

lemma ofText_lineCode {a : Text} (ha : isLineCode a = true) (t : Text) :
    Piece.ofText (a ++ t) = a.map .code ++ Piece.ofText t := by
  induction a with
  | nil => rfl
  | cons c a ih =>
      have hc := of_isLineCode ha List.mem_cons_self
      rw [isLineCode, List.all_cons, Bool.and_eq_true] at ha
      rw [List.cons_append, ofText_code hc.1 hc.2.1, ih ha.2]
      rfl

/-- Blanks within a line. -/
lemma isLineCode_of_isBlankText {a : Text} (h : a.isBlankText = true) (hline : '\n' ∉ a) :
    isLineCode a = true := by
  refine List.all_eq_true.mpr fun c hc => ?_
  have hblank := List.all_eq_true.mp h c hc
  have hquote : Text.isQuote c = false := by
    refine Bool.eq_false_iff.mpr fun hquote => ?_
    rw [not_isBlank_of_isQuote hquote] at hblank
    cases hblank
  rw [hquote, Bool.not_false, Bool.and_true, Bool.and_eq_true, bne_iff_ne, bne_iff_ne]
  refine ⟨?_, fun heq => hline (heq ▸ hc)⟩
  rintro rfl
  cases hblank

lemma isBlankText_append {a : Text} (h : a.isBlankText = true) (t : Text) :
    (a ++ t).isBlankText = t.isBlankText := by
  rw [Text.isBlankText, List.all_append]
  exact (congrArg (· && _) h).trans (Bool.true_and _)

/-! ## Literals -/

/-- The texts of the string literals, in order. -/
def literalTexts (t : Text) : List Text :=
  (stringSpans t).map fun span => (t.drop span.1).take (span.2 - span.1)

/-- The text of a literal. -/
def Piece.literal? : Piece → Option Text
  | .literal body _ => some body
  | _ => none

lemma slices_spansFrom {ps : List Piece} (h : Reread ps) (lead : Text) :
    (spansFrom lead.length ps).map
        (fun span => ((lead ++ textOf ps).drop span.1).take (span.2 - span.1)) =
      ps.filterMap Piece.literal? := by
  induction ps generalizing lead with
  | nil => rfl
  | cons x ps ih =>
      have ih := ih h.2 (lead ++ x.text)
      rw [List.length_append] at ih
      rw [textOf_cons, ← List.append_assoc]
      cases x with
      | code c => exact ih
      | comment body => exact ih
      | literal body cut =>
          refine congrArg₂ List.cons ?_ ih
          show ((lead ++ body ++ textOf ps).drop lead.length).take
            (lead.length + body.length + (if cut then 1 else 0) - lead.length) = body
          rw [List.append_assoc, List.drop_left, Nat.add_assoc, Nat.add_sub_cancel_left]
          cases cut with
          | false => exact List.take_left
          | true =>
              rw [h.1.eq_nil_of_cut, List.append_nil]
              exact List.take_of_length_le (Nat.le_succ _)

/-- **The literals of a text can be read off its pieces.** -/
lemma literalTexts_eq (t : Text) : literalTexts t = (Piece.ofText t).filterMap Piece.literal? := by
  have h := slices_spansFrom (reread_ofText t) []
  rwa [List.nil_append, textOf_ofText] at h

end FormulaCube
