import FormulaCube.Proofs.Shortcut.Characters

/-!
# Scanning the text of a fragment

The scanners of cell source read the text of a well-formed fragment as its tree says, whatever text
follows it.

* `Piece.flatMap_text_ofText`, `closingParen?_eq_some` — what holds of any text.
* `closingFrom_cons`, `closingFrom_add` — what one piece does to the search for a closing bracket, and
  from where the search counts.
* `Fragment.pieces`, `Fragment.ofText_render` — the pieces of the text.
* `Fragment.closingFrom_pieces` — the search for a closing bracket passes over a fragment.
* `Fragment.splitPieces_pieces` — so does the search for a separator that the fragment lacks.
* `join_splitPieces` — the parts of a text, put together again.
-/

namespace FormulaCube

/-! ## Nothing is lost in reading -/

namespace Piece

lemma closeLine_append (mark : Char) (t : Text) :
    (closeLine mark t).1 ++ (closeLine mark t).2.1 = t := by
  fun_induction closeLine mark t with
  | case1 => rfl
  | case2 => rfl
  | case3 d more body after cut heq ih =>
      rw [heq] at ih
      exact congrArg (Text.backslash :: d :: ·) ih
  | case4 => rfl
  | case5 c rest hback hmark body after cut heq ih =>
      rw [heq] at ih
      exact congrArg (c :: ·) ih

lemma closeBlock_append (mark : Char) (t : Text) :
    (closeBlock mark t).1 ++ (closeBlock mark t).2 = t := by
  fun_induction closeBlock mark t with
  | case1 => rfl
  | case2 c rest h =>
      obtain ⟨k, hk⟩ := List.isPrefixOf_iff_prefix.mp h
      rw [← hk]
      obtain ⟨-, rfl⟩ := List.cons.inj hk
      rfl
  | case3 c rest h body after heq ih =>
      rw [heq] at ih
      exact congrArg (c :: ·) ih

lemma closeLiteral_append (mark : Char) (t : Text) :
    (closeLiteral mark t).1 ++ (closeLiteral mark t).2.1 = t := by
  rw [closeLiteral]
  split
  · rename_i h
    obtain ⟨k, rfl⟩ := List.isPrefixOf_iff_prefix.mp h
    exact congrArg (mark :: mark :: ·) (closeBlock_append mark k)
  · exact closeLine_append mark t

/-- **The pieces of a text are the text.** -/
lemma flatMap_text_ofText (t : Text) : (ofText t).flatMap text = t := by
  fun_induction ofText t with
  | case1 => rfl
  | case2 rest ih =>
      rw [List.flatMap_cons, ih]
      exact congrArg ('#' :: ·) List.takeWhile_append_dropWhile
  | case3 c rest hhash hquote ih =>
      rw [List.flatMap_cons, ih]
      exact congrArg (c :: ·) (closeLiteral_append c rest)
  | case4 c rest hhash hquote ih => exact congrArg (c :: ·) ih

end Piece

lemma withoutComments_nil : withoutComments [] = [] := by
  rw [withoutComments, Piece.ofText]
  rfl

/-- After a comment comes the end of its line, or of the text. -/
lemma dropWhile_inComment (rest : Text) : rest.dropWhile Piece.inComment = [] ∨
    ∃ t, rest.dropWhile Piece.inComment = '\n' :: t := by
  have hhead := List.head?_dropWhile_not Piece.inComment rest
  cases hdrop : rest.dropWhile Piece.inComment with
  | nil => exact Or.inl rfl
  | cons c t =>
      rw [hdrop] at hhead
      have hc : c = '\n' := bne_eq_false_iff_eq.mp hhead
      exact Or.inr ⟨t, by rw [hc]⟩

/-- The search ends at the bracket that closes the one opened first, whatever stands behind it. -/
lemma closingFrom_eq_some {expected : Text} {start n : Nat} {ps : List Piece} {top : Char}
    (h : closingFrom expected start ps = some n) (htop : expected.getLast? = some top) :
    ∃ ps₁ ps₂ : List Piece, ps = ps₁ ++ Piece.code top :: ps₂ ∧
      n = start + (ps₁.flatMap Piece.text).length ∧
      ∀ qs, closingFrom expected start (ps₁ ++ Piece.code top :: qs) = some n := by
  have hcons (piece : Piece) {expected expected' : Text} {ps : List Piece} {start : Nat}
      (hpass : ∀ qs, closingFrom expected start (piece :: qs) =
        closingFrom expected' (start + piece.length) qs)
      (h : ∃ ps₁ ps₂ : List Piece, ps = ps₁ ++ Piece.code top :: ps₂ ∧
        n = start + piece.length + (ps₁.flatMap Piece.text).length ∧
        ∀ qs, closingFrom expected' (start + piece.length) (ps₁ ++ Piece.code top :: qs) = some n) :
      ∃ ps₁ ps₂ : List Piece, piece :: ps = ps₁ ++ Piece.code top :: ps₂ ∧
        n = start + (ps₁.flatMap Piece.text).length ∧
        ∀ qs, closingFrom expected start (ps₁ ++ Piece.code top :: qs) = some n := by
    obtain ⟨ps₁, ps₂, rfl, hn, hall⟩ := h
    refine ⟨piece :: ps₁, ps₂, rfl, ?_, fun qs => (hpass _).trans (hall qs)⟩
    rw [List.flatMap_cons, List.length_append, hn, Nat.add_assoc]
    rfl
  fun_induction closingFrom expected start ps with
  | case1 => cases h
  | case2 expected start c ps close hclose ih =>
      refine hcons (.code c) (fun qs => ?_) (ih h ?_)
      · simp only [closingFrom, hclose]
        rfl
      · rw [List.getLast?_cons, htop]
        rfl
  | case3 => cases h
  | case4 start ps close hopen hclose =>
      obtain rfl := Option.some_inj.mp h
      obtain rfl : close = top := Option.some_inj.mp htop
      refine ⟨[], ps, rfl, rfl, fun qs => ?_⟩
      rw [List.nil_append, closingFrom.eq_def]
      simp only [hopen, hclose, if_true]
  | case5 => cases h
  | case6 start ps close below hbelow hopen hclose ih =>
      refine hcons (.code close) (fun qs => ?_) (ih h ?_)
      · rw [closingFrom.eq_def]
        simp only [hopen, hclose, if_true]
        rfl
      · rw [List.getLast?_cons] at htop
        cases hlast : below.getLast? with
        | none => exact absurd (List.getLast?_eq_none_iff.mp hlast) hbelow
        | some last =>
            rw [hlast] at htop
            exact htop
  | case7 => cases h
  | case8 expected start c ps hopen hclose ih =>
      refine hcons (.code c) (fun qs => ?_) (ih h htop)
      rw [closingFrom.eq_def]
      simp only [hopen, hclose]
      rfl
  | case9 expected start piece ps hcode ih =>
      refine hcons piece (fun qs => ?_) (ih h htop)
      cases piece with
      | code c => exact absurd rfl (hcode c)
      | literal body cut => rfl
      | comment body => rfl

/-- **Where a parenthesis is closed, a closing parenthesis stands.** -/
lemma closingParen?_eq_some {t : Text} {n : Nat} (h : closingParen? t = some n) :
    t = t.take n ++ ')' :: t.drop (n + 1) := by
  have hlast : ([')'] : Text).getLast? = some ')' := rfl
  obtain ⟨ps₁, ps₂, hps, hn, -⟩ := closingFrom_eq_some h hlast
  have ht := Piece.flatMap_text_ofText t
  rw [hps, List.flatMap_append, List.flatMap_cons] at ht
  rw [Nat.zero_add] at hn
  rw [← ht, hn, List.take_left, List.drop_append, Nat.add_sub_cancel_left,
    List.drop_eq_nil_of_le (Nat.le_succ _)]
  rfl

/-! ## Characters of code -/

lemma ofText_code {c : Char} (hhash : c ≠ '#') (hquote : Text.isQuote c = false) (t : Text) :
    Piece.ofText (c :: t) = .code c :: Piece.ofText t := by
  rw [Piece.ofText, if_neg hhash, if_neg (by rw [hquote]; exact Bool.false_ne_true)]

lemma ofText_plain {c : Char} (h : isPlain c = true) (t : Text) :
    Piece.ofText (c :: t) = .code c :: Piece.ofText t := by
  refine ofText_code ?_ (not_isQuote_of_isPlain h) t
  rintro rfl
  cases h

lemma ofText_plains {a : Text} (h : ∀ c ∈ a, isPlain c = true) (t : Text) :
    Piece.ofText (a ++ t) = a.map .code ++ Piece.ofText t := by
  induction a with
  | nil => rfl
  | cons c a ih =>
      rw [List.cons_append, ofText_plain (h c List.mem_cons_self),
        ih fun d hd => h d (List.mem_cons_of_mem _ hd)]
      rfl

lemma ofText_opener (b : Bracket) (t : Text) :
    Piece.ofText (b.opener :: t) = .code b.opener :: Piece.ofText t := by
  cases b <;> exact ofText_code (by decide) rfl t

lemma ofText_closer (b : Bracket) (t : Text) :
    Piece.ofText (b.closer :: t) = .code b.closer :: Piece.ofText t := by
  cases b <;> exact ofText_code (by decide) rfl t

lemma ofText_sigil (rule : Rule) (t : Text) :
    Piece.ofText (rule.sigil :: t) = .code rule.sigil :: Piece.ofText t := by
  cases rule <;> exact ofText_code (by decide) rfl t

/-! ## Literals -/

lemma startsQuote_append {a k : Text} (ha : startsQuote a = false) (hk : startsQuote k = false) :
    startsQuote (a ++ k) = false := by
  cases a with
  | nil => exact hk
  | cons c a => exact ha

/-- A closed literal in one mark ends at its closing mark, whatever follows it. -/
lemma closeLine_of_closesLine {mark : Char} {t : Text} (h : closesLine mark t = true) (k : Text) :
    Piece.closeLine mark (t ++ k) = (t, k, false) := by
  fun_induction closesLine mark t with
  | case1 => cases h
  | case2 => cases h
  | case3 d more ih =>
      rw [List.cons_append, List.cons_append, Piece.closeLine, if_pos rfl, ih h]
  | case4 rest hback =>
      obtain rfl := List.isEmpty_iff.mp h
      rw [List.cons_append, Piece.closeLine.eq_def]
      simp only [hback, if_false, decide_true, Bool.true_or, if_true, List.nil_append]
  | case5 => cases h
  | case6 c rest hback hmark hline ih =>
      rw [List.cons_append, Piece.closeLine.eq_def]
      simp only [hback, hmark, hline, if_false, decide_false, Bool.or_self, Bool.false_eq_true,
        ih h]

/-- Three marks that close a literal are there. -/
lemma length_of_closesBlock {mark : Char} {t : Text} (h : closesBlock mark t = true) :
    3 ≤ t.length := by
  induction t with
  | nil => cases h
  | cons c rest ih =>
      rw [closesBlock] at h
      split at h
      · obtain rfl := of_decide_eq_true h
        exact Nat.le_refl 3
      · exact Nat.le_succ_of_le (ih h)

lemma isPrefixOf_append_of_length {a t : Text} (h : a.length ≤ t.length) (k : Text) :
    a.isPrefixOf (t ++ k) = a.isPrefixOf t := by
  induction a generalizing t with
  | nil => simp only [List.isPrefixOf_nil_left]
  | cons c a ih =>
      cases t with
      | nil => cases h
      | cons d t =>
          rw [List.cons_append, List.isPrefixOf_cons_cons, List.isPrefixOf_cons_cons,
            ih (Nat.le_of_succ_le_succ h)]

/-- A closed literal in three marks ends at its closing marks, whatever follows it. -/
lemma closeBlock_of_closesBlock {mark : Char} {t : Text} (h : closesBlock mark t = true)
    (k : Text) :
    Piece.closeBlock mark (t ++ k) = (t, k) := by
  induction t with
  | nil => cases h
  | cons c rest ih =>
      have hlength := length_of_closesBlock h
      have hprefix := isPrefixOf_append_of_length (a := [mark, mark, mark]) hlength k
      rw [List.cons_append] at hprefix
      rw [List.cons_append, Piece.closeBlock, hprefix]
      rw [closesBlock] at h
      split at h
      · rename_i hclose
        obtain rfl := of_decide_eq_true h
        rw [if_pos hclose]
        obtain ⟨rfl, -⟩ : mark = c ∧ True := by
          simpa [List.isPrefixOf_cons_cons] using hclose
        rfl
      · rename_i hopen
        rw [if_neg hopen, ih h]

/-- A closed literal ends at its mark, unless it is a pair of marks and a third one follows. -/
lemma closeLiteral_of_isClosedLiteral {mark : Char} {rest k : Text}
    (hl : isClosedLiteral (mark :: rest) = true) (hk : ∀ c ∈ k.head?, mark :: rest ≠ [c, c]) :
    Piece.closeLiteral mark (rest ++ k) = (rest, k, false) := by
  rw [isClosedLiteral, Bool.and_eq_true] at hl
  obtain ⟨-, hclosed⟩ := hl
  rw [Piece.closeLiteral]
  split at hclosed
  · rename_i hblock
    obtain ⟨more, rfl⟩ := List.isPrefixOf_iff_prefix.mp hblock
    have hclosed' : closesBlock mark more = true := hclosed
    have hopen : [mark, mark].isPrefixOf ([mark, mark] ++ more ++ k) = true := by
      rw [List.append_assoc]
      exact List.isPrefixOf_iff_prefix.mpr (List.prefix_append _ _)
    rw [if_pos hopen]
    show ((mark :: mark :: (Piece.closeBlock mark (more ++ k)).1,
      (Piece.closeBlock mark (more ++ k)).2, false) : Text × Text × Bool) = _
    rw [closeBlock_of_closesBlock hclosed']
    rfl
  · rename_i hline
    have hstop : ¬ [mark, mark].isPrefixOf (rest ++ k) = true := by
      cases rest with
      | nil => cases hclosed
      | cons d rest =>
          cases rest with
          | cons e rest =>
              rwa [isPrefixOf_append_of_length (Nat.le_add_left 2 _)]
          | nil =>
              cases k with
              | nil => exact hline
              | cons e k =>
                  intro hprefix
                  obtain ⟨rfl, rfl⟩ : mark = d ∧ mark = e := by
                    simpa [List.isPrefixOf_cons_cons] using hprefix
                  exact hk mark rfl rfl
    rw [if_neg hstop, closeLine_of_closesLine hclosed]

/-- **A closed literal is read as one piece**, unless it is a pair of marks and a third one follows. -/
lemma ofText_literal_of_ne {l k : Text} (hl : isClosedLiteral l = true)
    (hk : ∀ c ∈ k.head?, l ≠ [c, c]) :
    Piece.ofText (l ++ k) = .literal l false :: Piece.ofText k := by
  cases l with
  | nil => cases hl
  | cons mark rest =>
      have hclose := closeLiteral_of_isClosedLiteral hl hk
      rw [isClosedLiteral, Bool.and_eq_true] at hl
      have hhash : mark ≠ '#' := by
        rintro rfl
        cases hl.1
      rw [List.cons_append, Piece.ofText, if_neg hhash, if_pos hl.1, hclose]

/-- A closed literal is read as one piece if no mark follows it. -/
lemma ofText_literal {l k : Text} (hl : isClosedLiteral l = true) (hk : startsQuote k = false) :
    Piece.ofText (l ++ k) = .literal l false :: Piece.ofText k := by
  refine ofText_literal_of_ne hl fun c hc heq => ?_
  obtain ⟨k, rfl⟩ := List.head?_eq_some_iff.mp hc
  rw [heq, isClosedLiteral, Bool.and_eq_true] at hl
  rw [startsQuote, hl.1] at hk
  cases hk

/-- Characters that neither end a literal nor escape anything do not matter. -/
lemma closesLine_append {mark : Char} {a : Text}
    (ha : ∀ c ∈ a, c ≠ mark ∧ c ≠ Text.backslash ∧ c ≠ '\n') (k : Text) :
    closesLine mark (a ++ k) = closesLine mark k := by
  induction a with
  | nil => rfl
  | cons c a ih =>
      obtain ⟨hmark, hback, hline⟩ := ha c List.mem_cons_self
      rw [List.cons_append, closesLine.eq_def]
      simp only [hmark, hback, hline, if_false]
      exact ih fun d hd => ha d (List.mem_cons_of_mem _ hd)

lemma closesLine_mark {mark : Char} (hmark : Text.isQuote mark = true) :
    closesLine mark [mark] = true := by
  have hback : mark ≠ Text.backslash := by
    rintro rfl
    cases hmark
  rw [closesLine.eq_def]
  simp only [hback, if_false, if_true]
  rfl

/-- A literal in one mark that does not begin like one in three. -/
lemma isClosedLiteral_of_closesLine {mark : Char} {body : Text} (hmark : Text.isQuote mark = true)
    (hhead : ∀ c ∈ body.head?, c ≠ mark) (hcloses : closesLine mark (body ++ [mark]) = true) :
    isClosedLiteral (mark :: (body ++ [mark])) = true := by
  have hline : ¬ [mark, mark].isPrefixOf (body ++ [mark]) = true := by
    cases body with
    | nil =>
        intro h
        simp at h
    | cons c body =>
        intro h
        rw [List.cons_append, List.isPrefixOf_cons_cons, Bool.and_eq_true, beq_iff_eq] at h
        exact hhead c rfl h.1.symm
  rw [isClosedLiteral, hmark, if_neg hline, hcloses]
  rfl

/-! ## Leads of entries -/

namespace Axis

/-- The pieces of an axis. -/
def pieces : Axis → List Piece
  | .name t => t.map .code
  | .quoted mark body => [.literal (mark :: (body ++ [mark])) false]

/-- A text between two marks that it does not contain is a closed literal. -/
lemma isClosedLiteral_quoted {mark : Char} {body : Text} (hmark : Text.isQuote mark = true)
    (hbody : ∀ c ∈ body, c ≠ mark ∧ c ≠ Text.backslash ∧ c ≠ '\n') :
    isClosedLiteral (mark :: (body ++ [mark])) = true := by
  refine isClosedLiteral_of_closesLine hmark
    (fun c hc => (hbody c (List.mem_of_mem_head? hc)).1) ?_
  rw [closesLine_append hbody, closesLine_mark hmark]

lemma isNamePart_of_isSimpleName {t : Text} (h : CoordinateEntry.isSimpleName t = true) :
    ∀ c ∈ t, Rule.isNamePart c = true := by
  cases t with
  | nil => cases h
  | cons c rest =>
      rw [CoordinateEntry.isSimpleName, Bool.and_eq_true] at h
      obtain ⟨hc, hrest⟩ := h
      intro d hd
      rcases List.mem_cons.mp hd with rfl | hd
      · exact isNamePart_of_isAsciiWord (isAsciiWord_of_isAsciiNameStart hc)
      · exact isNamePart_of_isAsciiWord (List.all_eq_true.mp hrest d hd)

lemma isPlain_of_isSimpleName {t : Text} (h : CoordinateEntry.isSimpleName t = true) :
    ∀ c ∈ t, isPlain c = true :=
  fun c hc => isPlain_of_isNamePart (isNamePart_of_isSimpleName h c hc)

lemma ofText_text {axis : Axis} (h : axis.WellFormed) {k : Text} (hk : startsQuote k = false) :
    Piece.ofText (axis.text ++ k) = axis.pieces ++ Piece.ofText k := by
  cases axis with
  | name t => exact ofText_plains (isPlain_of_isSimpleName h) k
  | quoted mark body =>
      obtain ⟨hmark, hbody⟩ := h
      refine ofText_literal (isClosedLiteral_quoted hmark fun c hc => ?_) hk
      obtain ⟨hne, hback, hline, -⟩ := hbody c hc
      exact ⟨hne, hback, hline⟩

end Axis

namespace EntryLead

/-- The pieces of what stands before a value. -/
def pieces : EntryLead → List Piece
  | .keyed before axis after =>
    before.map .code ++ (axis.pieces ++ (after.map .code ++ [.code ':']))
  | .spread before => before.map .code ++ [.code '*', .code '*']

lemma isPlain_of_isBlankText {t : Text} (h : t.isBlankText = true) : ∀ c ∈ t, isPlain c = true :=
  fun c hc => isPlain_of_isBlank (List.all_eq_true.mp h c hc)

lemma startsQuote_plains {a : Text} (h : ∀ c ∈ a, isPlain c = true) {k : Text}
    (hk : startsQuote k = false) : startsQuote (a ++ k) = false := by
  refine startsQuote_append ?_ hk
  cases a with
  | nil => rfl
  | cons c a => exact not_isQuote_of_isPlain (h c List.mem_cons_self)

lemma ofText_text {lead : EntryLead} (h : lead.WellFormed) (k : Text) :
    Piece.ofText (lead.text ++ k) = lead.pieces ++ Piece.ofText k := by
  cases lead with
  | keyed before axis after =>
      obtain ⟨hbefore, haxis, hafter⟩ := h
      have hcolon : Piece.ofText (':' :: k) = .code ':' :: Piece.ofText k := ofText_plain rfl k
      have hquote : startsQuote (after ++ ':' :: k) = false :=
        startsQuote_plains (isPlain_of_isBlankText hafter) rfl
      simp only [text, pieces, List.append_assoc, List.singleton_append]
      rw [ofText_plains (isPlain_of_isBlankText hbefore), axis.ofText_text haxis hquote,
        ofText_plains (isPlain_of_isBlankText hafter), hcolon]
  | spread before =>
      have hstars : Piece.ofText ('*' :: '*' :: k) = .code '*' :: .code '*' :: Piece.ofText k := by
        rw [ofText_plain rfl, ofText_plain rfl]
      simp only [text, pieces, List.append_assoc, List.cons_append, List.nil_append]
      rw [ofText_plains (isPlain_of_isBlankText h), hstars]

end EntryLead

/-! ## Names of cubes -/

lemma isNamePart_of_isCubeName {t : Text} (h : isCubeName t = true) :
    ∀ c ∈ t, Rule.isNamePart c = true := by
  cases t with
  | nil => cases h
  | cons c rest =>
      rw [isCubeName, Bool.and_eq_true] at h
      obtain ⟨hc, hrest⟩ := h
      intro d hd
      rcases List.mem_cons.mp hd with rfl | hd
      · exact isNamePart_of_isAsciiWord (isAsciiWord_of_isAsciiNameStart hc)
      · exact List.all_eq_true.mp hrest d hd

lemma Rule.Admits.isNamePart {rule : Rule} {name : Option Text} (h : rule.Admits name) :
    ∀ c ∈ name.getD [], Rule.isNamePart c = true := by
  cases name with
  | none =>
      intro c hc
      cases hc
  | some name => exact isNamePart_of_isCubeName h.2

lemma Rule.Admits.isPlain {rule : Rule} {name : Option Text} (h : rule.Admits name) :
    ∀ c ∈ name.getD [], isPlain c = true :=
  fun c hc => isPlain_of_isNamePart (h.isNamePart c hc)

/-! ## Closing brackets -/

lemma closer?_of_isPlain {c : Char} (h : isPlain c = true) : closer? c = none := by
  rw [isPlain_iff] at h
  rw [← Option.not_isSome_iff_eq_none, closer?_isSome_iff]
  omega

lemma not_isCloser_of_isPlain {c : Char} (h : isPlain c = true) : isCloser c = false := by
  rw [isPlain_iff] at h
  rw [← Bool.not_eq_true, isCloser_iff]
  omega

/-- **What one piece does to the search for a closing bracket**: it ends the search, without a bracket
or with it, or the search goes on. -/
lemma closingFrom_cons (expected : Text) (x : Piece) :
    (∀ start ps, closingFrom expected start (x :: ps) = none) ∨
    ((∃ c, isCloser c = true ∧ x = .code c) ∧
      ∀ start ps, closingFrom expected start (x :: ps) = some start) ∨
    ∃ expected', ∀ start ps,
      closingFrom expected start (x :: ps) = closingFrom expected' (start + x.length) ps := by
  cases x with
  | literal body cut => exact .inr (.inr ⟨expected, fun _ _ => rfl⟩)
  | comment body => exact .inr (.inr ⟨expected, fun _ _ => rfl⟩)
  | code c =>
      cases hopen : closer? c with
      | some close =>
          refine .inr (.inr ⟨close :: expected, fun start ps => ?_⟩)
          simp only [closingFrom, hopen]
          rfl
      | none =>
          cases hclose : isCloser c with
          | false =>
              refine .inr (.inr ⟨expected, fun start ps => ?_⟩)
              simp only [closingFrom, hopen, hclose, Bool.false_eq_true, if_false]
              rfl
          | true =>
              cases expected with
              | nil =>
                  refine .inl fun start ps => ?_
                  simp only [closingFrom, hopen, hclose, if_true]
              | cons top below =>
                  by_cases htop : c = top
                  · subst htop
                    cases below with
                    | nil =>
                        refine .inr (.inl ⟨⟨c, hclose, rfl⟩, fun start ps => ?_⟩)
                        simp only [closingFrom, hopen, hclose, if_true]
                    | cons other below =>
                        refine .inr (.inr ⟨other :: below, fun start ps => ?_⟩)
                        simp only [closingFrom, hopen, hclose, if_true]
                        rfl
                  · refine .inl fun start ps => ?_
                    cases below <;> simp only [closingFrom, hopen, hclose, htop, if_true, if_false]

/-- The search counts from the position at which the pieces begin. -/
lemma closingFrom_add (expected : Text) (start d : Nat) (ps : List Piece) :
    closingFrom expected (start + d) ps = (closingFrom expected start ps).map (· + d) := by
  induction ps generalizing expected start with
  | nil => rfl
  | cons x ps ih =>
      rcases closingFrom_cons expected x with hnone | ⟨-, hsome⟩ | ⟨expected', hpass⟩
      · rw [hnone, hnone]
        rfl
      · rw [hsome, hsome]
        rfl
      · have hstart : start + d + x.length = start + x.length + d := by omega
        rw [hpass, hpass, hstart, ih]

lemma closingFrom_plain {c : Char} (hc : closer? c = none) (hc' : isCloser c = false)
    (expected : Text) (start : Nat) (ps : List Piece) :
    closingFrom expected start (.code c :: ps) = closingFrom expected (start + 1) ps := by
  rw [closingFrom.eq_def]
  simp only [hc, hc', Bool.false_eq_true, if_false]

lemma closingFrom_literal (body : Text) (expected : Text) (start : Nat) (ps : List Piece) :
    closingFrom expected start (.literal body false :: ps) =
      closingFrom expected (start + body.length) ps := by
  rw [closingFrom.eq_def]
  rfl

lemma closingFrom_codes {t : Text} (ht : ∀ c ∈ t, isPlain c = true) (expected : Text) (start : Nat)
    (ps : List Piece) :
    closingFrom expected start (t.map .code ++ ps) =
      closingFrom expected (start + t.length) ps := by
  induction t generalizing start with
  | nil => rfl
  | cons c t ih =>
      have hc := ht c List.mem_cons_self
      rw [List.map_cons, List.cons_append,
        closingFrom_plain (closer?_of_isPlain hc) (not_isCloser_of_isPlain hc),
        ih fun d hd => ht d (List.mem_cons_of_mem _ hd), List.length_cons]
      congr 1
      omega

lemma closingFrom_opener (b : Bracket) (expected : Text) (start : Nat) (ps : List Piece) :
    closingFrom expected start (.code b.opener :: ps) =
      closingFrom (b.closer :: expected) (start + 1) ps := by
  cases b <;> rfl

lemma closingFrom_closer (b : Bracket) {expected : Text} (h : expected ≠ []) (start : Nat)
    (ps : List Piece) :
    closingFrom (b.closer :: expected) start (.code b.closer :: ps) =
      closingFrom expected (start + 1) ps := by
  cases expected with
  | nil => exact absurd rfl h
  | cons top below => cases b <;> rfl

lemma closingFrom_lead {lead : EntryLead} (h : lead.WellFormed) (expected : Text) (start : Nat)
    (ps : List Piece) :
    closingFrom expected start (lead.pieces ++ ps) =
      closingFrom expected (start + lead.text.length) ps := by
  cases lead with
  | keyed before axis after =>
      obtain ⟨hbefore, haxis, hafter⟩ := h
      have hcolon (start : Nat) : closingFrom expected start (.code ':' :: ps) =
          closingFrom expected (start + 1) ps := closingFrom_plain rfl rfl expected start ps
      have haxis' (start : Nat) (ps : List Piece) : closingFrom expected start (axis.pieces ++ ps) =
          closingFrom expected (start + axis.text.length) ps := by
        cases axis with
        | name t => exact closingFrom_codes (Axis.isPlain_of_isSimpleName haxis) expected start ps
        | quoted mark body => exact closingFrom_literal _ expected start ps
      simp only [EntryLead.pieces, EntryLead.text, List.append_assoc, List.singleton_append,
        List.length_append, List.length_singleton]
      rw [closingFrom_codes (EntryLead.isPlain_of_isBlankText hbefore), haxis',
        closingFrom_codes (EntryLead.isPlain_of_isBlankText hafter), hcolon]
      congr 1
      omega
  | spread before =>
      have hstar (start : Nat) (ps : List Piece) : closingFrom expected start (.code '*' :: ps) =
          closingFrom expected (start + 1) ps := closingFrom_plain rfl rfl expected start ps
      simp only [EntryLead.pieces, EntryLead.text, List.append_assoc, List.cons_append,
        List.nil_append, List.length_append, List.length_cons, List.length_nil]
      rw [closingFrom_codes (EntryLead.isPlain_of_isBlankText h), hstar, hstar]
      congr 1

/-! ## Reading a fragment -/

namespace Fragment

/-- The pieces of a fragment. -/
@[simp] def pieces : {s : Spot} → Fragment s → List Piece
  | _, .empty => []
  | _, .plain c rest => .code c :: rest.pieces
  | _, .literal body rest => .literal body false :: rest.pieces
  | _, .group bracket inner rest =>
    .code bracket.opener :: (inner.pieces ++ .code bracket.closer :: rest.pieces)
  | _, .shortcut rule name coordinate rest =>
    .code rule.sigil :: ((name.getD []).map .code ++
      .code '(' :: (coordinate.pieces ++ .code ')' :: rest.pieces))
  | _, .blank t => t.map .code
  | _, .bare f => f.pieces
  | _, .keyed entries => entries.pieces
  | _, .last lead value => lead.pieces ++ value.pieces
  | _, .more lead value rest => lead.pieces ++ (value.pieces ++ .code ',' :: rest.pieces)

/-- **A fragment is read as its tree says**, if no mark of a literal follows it. -/
lemma ofText_render {s : Spot} (f : Fragment s) {prev : Option Char} (h : f.WellFormed prev)
    {k : Text} (hk : startsQuote k = false) :
    Piece.ofText (f.render ++ k) = f.pieces ++ Piece.ofText k := by
  induction f generalizing prev k with
  | empty => rfl
  | plain c rest ih =>
      obtain ⟨hc, hrest⟩ := h
      simp only [render, pieces, List.cons_append]
      rw [ofText_plain hc, ih hrest hk]
  | literal body rest ih =>
      obtain ⟨hbody, -, hnext, hrest⟩ := h
      simp only [render, pieces, List.append_assoc, List.cons_append]
      rw [ofText_literal hbody (startsQuote_append hnext hk), ih hrest hk]
  | group bracket inner rest ihinner ihrest =>
      obtain ⟨hinner, hrest⟩ := h
      have hcloser : startsQuote (bracket.closer :: (rest.render ++ k)) = false := by
        cases bracket <;> rfl
      simp only [render, pieces, List.append_assoc, List.cons_append]
      rw [ofText_opener, ihinner hinner hcloser, ofText_closer, ihrest hrest hk]
  | shortcut rule name coordinate rest ihcoordinate ihrest =>
      obtain ⟨-, hname, hcoordinate, hrest⟩ := h
      have hcloser : startsQuote (')' :: (rest.render ++ k)) = false := rfl
      have hopen (t : Text) : Piece.ofText ('(' :: t) = .code '(' :: Piece.ofText t :=
        ofText_opener .round t
      have hclose (t : Text) : Piece.ofText (')' :: t) = .code ')' :: Piece.ofText t :=
        ofText_closer .round t
      simp only [render, pieces, List.append_assoc, List.cons_append]
      rw [ofText_sigil, ofText_plains hname.isPlain, hopen, ihcoordinate hcoordinate hcloser,
        hclose, ihrest hrest hk]
  | blank t =>
      exact ofText_plains (EntryLead.isPlain_of_isBlankText h) k
  | bare f ih => exact ih h.1 hk
  | keyed entries ih => exact ih h hk
  | last lead value ih =>
      obtain ⟨hlead, hvalue, -⟩ := h
      simp only [render, pieces, List.append_assoc]
      rw [lead.ofText_text hlead, ih hvalue hk]
  | more lead value rest ihvalue ihrest =>
      obtain ⟨hlead, hvalue, -, -, hrest⟩ := h
      have hcomma : Piece.ofText (',' :: (rest.render ++ k)) =
          .code ',' :: Piece.ofText (rest.render ++ k) := ofText_plain rfl _
      simp only [render, pieces, List.append_assoc, List.cons_append]
      rw [lead.ofText_text hlead, ihvalue hvalue rfl, hcomma, ihrest hrest hk]

section Texts

variable {g : Piece → Text} (hcode : ∀ c, g (.code c) = [c])
  (hliteral : ∀ body, g (.literal body false) = body)

include hcode

lemma flatMap_codes (t : Text) : (t.map Piece.code).flatMap g = t := by
  induction t with
  | nil => rfl
  | cons c t ih =>
      rw [List.map_cons, List.flatMap_cons, hcode, ih]
      rfl

include hliteral

lemma flatMap_lead (lead : EntryLead) : lead.pieces.flatMap g = lead.text := by
  rcases lead with ⟨before, (t | ⟨mark, body⟩), after⟩ | before <;>
    simp [EntryLead.pieces, EntryLead.text, Axis.pieces, Axis.text, flatMap_codes hcode, hcode,
      hliteral]

/-- The pieces of a fragment are its text; there are no comments among them. -/
lemma flatMap_pieces {s : Spot} (f : Fragment s) : f.pieces.flatMap g = f.render := by
  induction f with
  | empty => rfl
  | plain c rest ih => simp [pieces, render, hcode, ih]
  | literal body rest ih => simp [pieces, render, hliteral, ih]
  | group bracket inner rest ihinner ihrest => simp [pieces, render, hcode, ihinner, ihrest]
  | shortcut rule name coordinate rest ihcoordinate ihrest =>
      simp [pieces, render, hcode, flatMap_codes hcode, ihcoordinate, ihrest]
  | blank t => exact flatMap_codes hcode t
  | bare f ih => exact ih
  | keyed entries ih => exact ih
  | last lead value ih => simp [pieces, render, flatMap_lead hcode hliteral, ih]
  | more lead value rest ihvalue ihrest =>
      simp [pieces, render, hcode, flatMap_lead hcode hliteral, ihvalue, ihrest]

end Texts

/-- **A fragment has no comments.** -/
lemma withoutComments_render {s : Spot} (f : Fragment s) {prev : Option Char}
    (h : f.WellFormed prev) : withoutComments f.render = f.render := by
  have hpieces := f.ofText_render h (k := []) rfl
  rw [List.append_nil] at hpieces
  rw [withoutComments, hpieces, List.flatMap_append, flatMap_pieces (fun _ => rfl) fun _ => rfl,
    Piece.ofText]
  exact List.append_nil _

/-! ## Passing over a fragment -/

/-- **The search for closing brackets passes over a fragment**: it closes what it opens. -/
lemma closingFrom_pieces {s : Spot} (f : Fragment s) {prev : Option Char} (h : f.WellFormed prev)
    {expected : Text} (hexpected : expected ≠ []) (start : Nat) (ps : List Piece) :
    closingFrom expected start (f.pieces ++ ps) =
      closingFrom expected (start + f.render.length) ps := by
  induction f generalizing prev expected start ps with
  | empty => rfl
  | plain c rest ih =>
      obtain ⟨hc, hrest⟩ := h
      simp only [pieces, render, List.cons_append, List.length_cons]
      rw [closingFrom_plain (closer?_of_isPlain hc) (not_isCloser_of_isPlain hc),
        ih hrest hexpected]
      congr 1
      omega
  | literal body rest ih =>
      obtain ⟨-, -, -, hrest⟩ := h
      simp only [pieces, render, List.cons_append, List.length_append]
      rw [closingFrom_literal, ih hrest hexpected]
      congr 1
      omega
  | group bracket inner rest ihinner ihrest =>
      obtain ⟨hinner, hrest⟩ := h
      simp only [pieces, render, List.cons_append, List.append_assoc, List.length_cons,
        List.length_append]
      rw [closingFrom_opener, ihinner hinner (List.cons_ne_nil _ _),
        closingFrom_closer bracket hexpected, ihrest hrest hexpected]
      congr 1
      omega
  | shortcut rule name coordinate rest ihcoordinate ihrest =>
      obtain ⟨-, hname, hcoordinate, hrest⟩ := h
      have hsigil : closer? rule.sigil = none ∧ isCloser rule.sigil = false := by
        cases rule <;> exact ⟨rfl, rfl⟩
      have hopen (start : Nat) (ps : List Piece) : closingFrom expected start (.code '(' :: ps) =
          closingFrom (')' :: expected) (start + 1) ps :=
        closingFrom_opener .round expected start ps
      have hclose (start : Nat) (ps : List Piece) :
          closingFrom (')' :: expected) start (.code ')' :: ps) =
            closingFrom expected (start + 1) ps := closingFrom_closer .round hexpected start ps
      simp only [pieces, render, List.cons_append, List.append_assoc, List.length_cons,
        List.length_append]
      rw [closingFrom_plain hsigil.1 hsigil.2, closingFrom_codes hname.isPlain, hopen,
        ihcoordinate hcoordinate (List.cons_ne_nil _ _), hclose, ihrest hrest hexpected]
      congr 1
      omega
  | blank t => exact closingFrom_codes (EntryLead.isPlain_of_isBlankText h) expected start ps
  | bare f ih => exact ih h.1 hexpected start ps
  | keyed entries ih => exact ih h hexpected start ps
  | last lead value ih =>
      obtain ⟨hlead, hvalue, -⟩ := h
      simp only [pieces, render, List.append_assoc, List.length_append]
      rw [closingFrom_lead hlead, ih hvalue hexpected]
      congr 1
      omega
  | more lead value rest ihvalue ihrest =>
      obtain ⟨hlead, hvalue, -, -, hrest⟩ := h
      have hcomma (start : Nat) (ps : List Piece) : closingFrom expected start (.code ',' :: ps) =
          closingFrom expected (start + 1) ps := closingFrom_plain rfl rfl expected start ps
      simp only [pieces, render, List.append_assoc, List.cons_append, List.length_cons,
        List.length_append]
      rw [closingFrom_lead hlead, ihvalue hvalue hexpected, hcomma, ihrest hrest hexpected]
      congr 1
      omega

/-- The parenthesis of a shortcut is closed where its coordinate ends. -/
lemma closingParen?_render {s : Spot} (f : Fragment s) {prev : Option Char} (h : f.WellFormed prev)
    (k : Text) : closingParen? (f.render ++ ')' :: k) = some f.render.length := by
  have hclose : Piece.ofText (')' :: k) = .code ')' :: Piece.ofText k := ofText_closer .round k
  rw [closingParen?, f.ofText_render h rfl, hclose, closingFrom_pieces f h (List.cons_ne_nil _ _),
    closingFrom.eq_def, Nat.zero_add]
  rfl

end Fragment

end FormulaCube
