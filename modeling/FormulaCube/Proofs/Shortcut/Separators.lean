import FormulaCube.Proofs.Cutting
import FormulaCube.Proofs.Shortcut.Scanning

/-!
# Separators in the text of a fragment

A text is cut at the separators that stand outside its brackets and literals.

* `join_splitPieces` — the parts, put together again, are the text.
* `Fragment.splitPieces_pieces` — a fragment that lacks the separator, or stands in brackets, is not
  cut.
* `Fragment.splitPieces_entries` — entries are cut at the commas between them.
* `EntryLead.splitPieces_keyed` — an entry is cut at the colon of its axis.
-/

namespace FormulaCube

/-! ## Parts -/

attribute [local simp] splitPieces

@[simp] lemma prepend_nil {parts : List Text} (h : parts ≠ []) : prepend [] parts = parts := by
  cases parts with
  | nil => exact absurd rfl h
  | cons part parts => rfl

lemma prepend_append (a b : Text) (parts : List Text) :
    prepend (a ++ b) parts = prepend a (prepend b parts) := by
  cases parts with
  | nil => rfl
  | cons part parts => simp only [prepend, List.append_assoc]

lemma prepend_ne_nil (a : Text) (parts : List Text) : prepend a parts ≠ [] := by
  cases parts <;> exact List.cons_ne_nil _ _

lemma splitPieces_ne_nil (sep : Char) (depth : Int) (ps : List Piece) :
    splitPieces sep depth ps ≠ [] := by
  fun_induction splitPieces sep depth ps <;>
    first
      | exact List.cons_ne_nil _ _
      | exact prepend_ne_nil _ _

lemma join_prepend (sep a : Text) {parts : List Text} (h : parts ≠ []) :
    Text.join sep (prepend a parts) = a ++ Text.join sep parts := by
  match parts, h with
  | [part], _ => rfl
  | part :: other :: parts, _ =>
      simp only [prepend, Text.join, List.append_assoc]

/-- **Nothing is lost at the separators.** -/
lemma join_splitPieces (sep : Char) (depth : Int) (ps : List Piece) :
    Text.join [sep] (splitPieces sep depth ps) = ps.flatMap Piece.text := by
  fun_induction splitPieces sep depth ps with
  | case1 => rfl
  | case2 depth c ps hopen ih =>
      rw [join_prepend _ _ (splitPieces_ne_nil _ _ _), ih]
      rfl
  | case3 depth c ps hopen hclose ih =>
      rw [join_prepend _ _ (splitPieces_ne_nil _ _ _), ih]
      rfl
  | case4 depth c ps hopen hclose hsep ih =>
      rw [Bool.and_eq_true, decide_eq_true_eq] at hsep
      rw [join_nil_cons _ (splitPieces_ne_nil _ _ _), ih, hsep.1]
      rfl
  | case5 depth c ps hopen hclose hsep ih =>
      rw [join_prepend _ _ (splitPieces_ne_nil _ _ _), ih]
      rfl
  | case6 depth piece ps hpiece ih =>
      rw [join_prepend _ _ (splitPieces_ne_nil _ _ _), ih, List.flatMap_cons]

/-- How many levels deeper one stands behind a piece. -/
def Piece.depth : Piece → Int
  | .code c => if (closer? c).isSome then 1 else if isCloser c then -1 else 0
  | _ => 0

/-- The piece is the separator, which is no bracket, and it stands outside of brackets. -/
def Piece.Separates (sep : Char) (depth : Int) (x : Piece) : Prop :=
  x = .code sep ∧ x.depth = 0 ∧ depth = 0

/-- **What one piece does to the search for separators**: it is one, or it belongs to the part. -/
lemma splitPieces_cons (sep : Char) (depth : Int) (x : Piece) :
    (x.Separates sep depth ∧
      ∀ ps, splitPieces sep depth (x :: ps) = [] :: splitPieces sep depth ps) ∨
    (¬ x.Separates sep depth ∧ ∀ ps, splitPieces sep depth (x :: ps) =
      prepend x.text (splitPieces sep (depth + x.depth) ps)) := by
  cases x with
  | literal body cut =>
      refine .inr ⟨(fun h => by cases h.1), fun ps => ?_⟩
      exact congrArg (fun depth => prepend body (splitPieces sep depth ps)) (Int.add_zero depth).symm
  | comment body =>
      refine .inr ⟨(fun h => by cases h.1), fun ps => ?_⟩
      exact congrArg (fun depth => prepend body (splitPieces sep depth ps)) (Int.add_zero depth).symm
  | code c =>
      cases hopen : (closer? c).isSome with
      | true =>
          have hdepth : (Piece.code c).depth = 1 := if_pos hopen
          refine .inr ⟨fun h => absurd (hdepth.symm.trans h.2.1) (by decide), fun ps => ?_⟩
          rw [hdepth]
          simp only [splitPieces, hopen, if_true]
          rfl
      | false =>
          cases hclose : isCloser c with
          | true =>
              have hdepth : (Piece.code c).depth = -1 := by
                rw [Piece.depth, hopen, hclose]
                rfl
              refine .inr ⟨fun h => absurd (hdepth.symm.trans h.2.1) (by decide), fun ps => ?_⟩
              rw [hdepth]
              simp only [splitPieces, hopen, hclose, Bool.false_eq_true, if_true, if_false]
              rfl
          | false =>
              have hdepth : (Piece.code c).depth = 0 := by
                rw [Piece.depth, hopen, hclose]
                rfl
              cases hcut : decide (c = sep) && decide (depth = 0) with
              | true =>
                  refine .inl ⟨?_, fun ps => ?_⟩
                  · rw [Bool.and_eq_true, decide_eq_true_eq, decide_eq_true_eq] at hcut
                    exact ⟨congrArg Piece.code hcut.1, hdepth, hcut.2⟩
                  · simp only [splitPieces, hopen, hclose, hcut, Bool.false_eq_true, if_true,
                      if_false]
              | false =>
                  refine .inr ⟨fun h => ?_, fun ps => ?_⟩
                  · rw [Piece.code.inj h.1, h.2.2, decide_eq_true rfl, decide_eq_true rfl] at hcut
                    cases hcut
                  · rw [hdepth, Int.add_zero]
                    simp only [splitPieces, hopen, hclose, hcut, Bool.false_eq_true, if_false]
                    rfl

/-! ## Pieces that are not cut -/

section Pieces

variable {sep : Char} {depth : Int}

lemma splitPieces_plain {c : Char} (hc : closer? c = none) (hc' : isCloser c = false)
    (hsep : 0 < depth ∨ c ≠ sep) (ps : List Piece) :
    splitPieces sep depth (.code c :: ps) = prepend [c] (splitPieces sep depth ps) := by
  have hpass : ¬ (decide (c = sep) && decide (depth = 0)) = true := by
    rw [Bool.and_eq_true, decide_eq_true_eq, decide_eq_true_eq]
    rintro ⟨rfl, rfl⟩
    rcases hsep with h | h
    · exact absurd h (by decide)
    · exact h rfl
  rw [splitPieces.eq_def]
  simp only [hc, hc', hpass, Option.isSome_none, Bool.false_eq_true, if_false]

lemma splitPieces_literal (body : Text) (ps : List Piece) :
    splitPieces sep depth (.literal body false :: ps) =
      prepend body (splitPieces sep depth ps) := by
  rw [splitPieces.eq_def]
  rfl

lemma splitPieces_opener (b : Bracket) (ps : List Piece) :
    splitPieces sep depth (.code b.opener :: ps) =
      prepend [b.opener] (splitPieces sep (depth + 1) ps) := by
  cases b <;> rfl

lemma splitPieces_closer (b : Bracket) (ps : List Piece) :
    splitPieces sep (depth + 1) (.code b.closer :: ps) =
      prepend [b.closer] (splitPieces sep depth ps) := by
  have hdepth : depth + 1 - 1 = depth := by omega
  cases b <;>
    · show prepend _ (splitPieces sep (depth + 1 - 1) ps) = _
      rw [hdepth]

lemma splitPieces_codes {t : Text} (ht : ∀ c ∈ t, isPlain c = true)
    (hsep : 0 < depth ∨ sep ∉ t) (ps : List Piece) :
    splitPieces sep depth (t.map .code ++ ps) = prepend t (splitPieces sep depth ps) := by
  induction t with
  | nil => exact (prepend_nil (splitPieces_ne_nil _ _ _)).symm
  | cons c t ih =>
      have hc := ht c List.mem_cons_self
      have hhere : 0 < depth ∨ c ≠ sep :=
        hsep.imp_right fun h heq => h (heq ▸ List.mem_cons_self)
      have hthere : 0 < depth ∨ sep ∉ t :=
        hsep.imp_right fun h hmem => h (List.mem_cons_of_mem _ hmem)
      rw [List.map_cons, List.cons_append,
        splitPieces_plain (closer?_of_isPlain hc) (not_isCloser_of_isPlain hc) hhere,
        ih (fun d hd => ht d (List.mem_cons_of_mem _ hd)) hthere, ← prepend_append]
      rfl

end Pieces

/-! ## Leads of entries -/

lemma comma_not_mem_of_isBlankText {t : Text} (h : t.isBlankText = true) : ',' ∉ t := by
  intro hmem
  cases List.all_eq_true.mp h ',' hmem

lemma colon_not_mem_of_isBlankText {t : Text} (h : t.isBlankText = true) : ':' ∉ t := by
  intro hmem
  cases List.all_eq_true.mp h ':' hmem

lemma not_mem_of_isSimpleName {c : Char} (hc : Text.isAsciiWord c = false) {t : Text}
    (h : CoordinateEntry.isSimpleName t = true) : c ∉ t := by
  intro hmem
  cases t with
  | nil => cases h
  | cons d rest =>
      rw [CoordinateEntry.isSimpleName, Bool.and_eq_true] at h
      rcases List.mem_cons.mp hmem with rfl | hmem
      · rw [isAsciiWord_of_isAsciiNameStart h.1] at hc
        cases hc
      · rw [List.all_eq_true.mp h.2 c hmem] at hc
        cases hc

namespace Axis

/-- An axis is not cut. -/
lemma splitPieces_pieces {axis : Axis} (h : axis.WellFormed) {sep : Char} {depth : Int}
    (hsep : 0 < depth ∨ Text.isAsciiWord sep = false) (ps : List Piece) :
    splitPieces sep depth (axis.pieces ++ ps) = prepend axis.text (splitPieces sep depth ps) := by
  cases axis with
  | name t =>
      exact splitPieces_codes (isPlain_of_isSimpleName h)
        (hsep.imp_right fun hword => not_mem_of_isSimpleName hword h) ps
  | quoted mark body => exact splitPieces_literal _ ps

end Axis

namespace EntryLead

/-- In brackets nothing is cut, and a comma does not cut what stands before a value. -/
lemma splitPieces_pieces {lead : EntryLead} (h : lead.WellFormed) {sep : Char} {depth : Int}
    (hsep : 0 < depth ∨ sep = ',') (ps : List Piece) :
    splitPieces sep depth (lead.pieces ++ ps) = prepend lead.text (splitPieces sep depth ps) := by
  have hblank {t : Text} (ht : t.isBlankText = true) : 0 < depth ∨ sep ∉ t :=
    hsep.imp_right fun hcomma => by
      rw [hcomma]
      exact comma_not_mem_of_isBlankText ht
  cases lead with
  | keyed before axis after =>
      obtain ⟨hbefore, haxis, hafter⟩ := h
      have hcolon : splitPieces sep depth (.code ':' :: ps) =
          prepend [':'] (splitPieces sep depth ps) :=
        splitPieces_plain rfl rfl (hsep.imp_right fun hcomma => by rw [hcomma]; decide) ps
      have hword : 0 < depth ∨ Text.isAsciiWord sep = false :=
        hsep.imp_right fun hcomma => by rw [hcomma]; rfl
      simp only [pieces, text, List.append_assoc, List.singleton_append]
      rw [splitPieces_codes (isPlain_of_isBlankText hbefore) (hblank hbefore),
        axis.splitPieces_pieces haxis hword,
        splitPieces_codes (isPlain_of_isBlankText hafter) (hblank hafter), hcolon]
      simp only [prepend_append]
  | spread before =>
      have hstar (ps : List Piece) : splitPieces sep depth (.code '*' :: ps) =
          prepend ['*'] (splitPieces sep depth ps) :=
        splitPieces_plain rfl rfl (hsep.imp_right fun hcomma => by rw [hcomma]; decide) ps
      simp only [pieces, text, List.append_assoc, List.cons_append, List.nil_append]
      rw [splitPieces_codes (isPlain_of_isBlankText h) (hblank h), hstar, hstar,
        ← prepend_append ['*'], prepend_append before]
      rfl

/-- **An entry is cut at the colon of its axis**, and what follows is the value. -/
lemma splitPieces_keyed {before after : Text} {axis : Axis}
    (h : (keyed before axis after).WellFormed) (ps : List Piece) :
    splitPieces ':' 0 ((keyed before axis after).pieces ++ ps) =
      (before ++ (axis.text ++ after)) :: splitPieces ':' 0 ps := by
  obtain ⟨hbefore, haxis, hafter⟩ := h
  have hcolon : splitPieces ':' 0 (.code ':' :: ps) = [] :: splitPieces ':' 0 ps := rfl
  simp only [pieces, List.append_assoc, List.singleton_append]
  rw [splitPieces_codes (isPlain_of_isBlankText hbefore)
      (Or.inr (colon_not_mem_of_isBlankText hbefore)),
    axis.splitPieces_pieces haxis (Or.inr rfl),
    splitPieces_codes (isPlain_of_isBlankText hafter)
      (Or.inr (colon_not_mem_of_isBlankText hafter)), hcolon]
  simp only [prepend, List.append_nil]

end EntryLead

/-! ## Fragments -/

lemma Rule.Admits.not_mem {rule : Rule} {name : Option Text} (h : rule.Admits name) {c : Char}
    (hc : Rule.isNamePart c = false) : c ∉ name.getD [] := by
  intro hmem
  rw [h.isNamePart c hmem] at hc
  cases hc

namespace Fragment

/-- **A fragment is cut at no separator but its own**, and at none when it stands in brackets. -/
lemma splitPieces_pieces {s : Spot} (f : Fragment s) {prev : Option Char} (h : f.WellFormed prev)
    {sep : Char} (hsigil : isSigil sep = false) (hname : Rule.isNamePart sep = false) {depth : Int}
    (hdepth : 0 ≤ depth) (hsep : 0 < depth ∨ f.lacks sep = true) (ps : List Piece) :
    splitPieces sep depth (f.pieces ++ ps) = prepend f.render (splitPieces sep depth ps) := by
  induction f generalizing prev depth ps with
  | empty => exact (prepend_nil (splitPieces_ne_nil _ _ _)).symm
  | plain c rest ih =>
      obtain ⟨hc, hrest⟩ := h
      simp only [lacks, Bool.and_eq_true, bne_iff_ne] at hsep
      simp only [pieces, render, List.cons_append]
      rw [splitPieces_plain (closer?_of_isPlain hc) (not_isCloser_of_isPlain hc)
          (hsep.imp_right And.left), ih hrest hdepth (hsep.imp_right And.right), ← prepend_append]
      rfl
  | literal body rest ih =>
      obtain ⟨-, -, -, hrest⟩ := h
      simp only [pieces, render, List.cons_append]
      rw [splitPieces_literal, ih hrest hdepth hsep, prepend_append]
  | group bracket inner rest ihinner ihrest =>
      obtain ⟨hinner, hrest⟩ := h
      have hinside : 0 < depth + 1 := by omega
      simp only [pieces, render, List.cons_append, List.append_assoc]
      rw [splitPieces_opener, ihinner hinner (Int.le_of_lt hinside) (Or.inl hinside),
        splitPieces_closer, ihrest hrest hdepth hsep]
      simp only [← prepend_append, List.cons_append, List.nil_append]
  | shortcut rule name coordinate rest ihcoordinate ihrest =>
      obtain ⟨-, hadmits, hcoordinate, hrest⟩ := h
      have hinside : 0 < depth + 1 := by omega
      have hhead (ps : List Piece) : splitPieces sep depth (.code rule.sigil :: ps) =
          prepend [rule.sigil] (splitPieces sep depth ps) := by
        have hne : rule.sigil ≠ sep := by
          rintro rfl
          cases rule <;> cases hsigil
        cases rule <;> exact splitPieces_plain rfl rfl (Or.inr hne) ps
      have hopen (ps : List Piece) : splitPieces sep depth (.code '(' :: ps) =
          prepend ['('] (splitPieces sep (depth + 1) ps) := splitPieces_opener .round ps
      have hclose (ps : List Piece) : splitPieces sep (depth + 1) (.code ')' :: ps) =
          prepend [')'] (splitPieces sep depth ps) := splitPieces_closer .round ps
      simp only [pieces, render, List.cons_append, List.append_assoc]
      rw [hhead, splitPieces_codes hadmits.isPlain (Or.inr (hadmits.not_mem hname)), hopen,
        ihcoordinate hcoordinate (Int.le_of_lt hinside) (Or.inl hinside), hclose,
        ihrest hrest hdepth hsep]
      simp only [← prepend_append, List.cons_append, List.nil_append]
  | blank t =>
      refine splitPieces_codes (EntryLead.isPlain_of_isBlankText h) ?_ ps
      simpa [lacks] using hsep
  | bare f ih => exact ih h.1 hdepth hsep ps
  | keyed entries ih => exact ih h hdepth hsep ps
  | last lead value ih =>
      obtain ⟨hlead, hvalue, -⟩ := h
      have hinside : 0 < depth := hsep.resolve_right Bool.false_ne_true
      simp only [pieces, render, List.append_assoc]
      rw [lead.splitPieces_pieces hlead (Or.inl hinside), ih hvalue hdepth (Or.inl hinside),
        prepend_append]
  | more lead value rest ihvalue ihrest =>
      obtain ⟨hlead, hvalue, -, -, hrest⟩ := h
      have hinside : 0 < depth := hsep.resolve_right Bool.false_ne_true
      have hcomma (ps : List Piece) : splitPieces sep depth (.code ',' :: ps) =
          prepend [','] (splitPieces sep depth ps) := splitPieces_plain rfl rfl (Or.inl hinside) ps
      simp only [pieces, render, List.append_assoc, List.cons_append]
      rw [lead.splitPieces_pieces hlead (Or.inl hinside), ihvalue hvalue hdepth (Or.inl hinside),
        hcomma, ihrest hrest hdepth (Or.inl hinside)]
      simp only [← prepend_append, List.cons_append, List.nil_append]

/-- The texts of the entries. -/
@[simp] def items : {s : Spot} → Fragment s → List Text
  | _, .last lead value => [lead.text ++ value.render]
  | _, .more lead value rest => (lead.text ++ value.render) :: rest.items
  | _, f => [f.render]

/-- **Entries are cut at the commas between them.** -/
lemma splitPieces_entries : ∀ (f : Fragment .entries) {prev : Option Char}, f.WellFormed prev →
    splitPieces ',' 0 f.pieces = f.items
  | .last lead value, _, h => by
      obtain ⟨hlead, hvalue, -, hlacks⟩ := h
      have hvalue' := value.splitPieces_pieces hvalue rfl rfl (Int.le_refl 0) (Or.inr hlacks) []
      rw [List.append_nil] at hvalue'
      simp only [pieces, items]
      rw [lead.splitPieces_pieces hlead (Or.inr rfl), hvalue']
      simp only [splitPieces, prepend, List.append_nil]
  | .more lead value rest, _, h => by
      obtain ⟨hlead, hvalue, -, hlacks, hrest⟩ := h
      have hcomma : splitPieces ',' 0 (.code ',' :: rest.pieces) =
          [] :: splitPieces ',' 0 rest.pieces := rfl
      simp only [pieces, items]
      rw [lead.splitPieces_pieces hlead (Or.inr rfl),
        value.splitPieces_pieces hvalue rfl rfl (Int.le_refl 0) (Or.inr hlacks), hcomma,
        splitPieces_entries rest hrest]
      simp only [prepend, List.append_nil]

end Fragment

end FormulaCube
