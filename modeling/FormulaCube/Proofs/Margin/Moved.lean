import FormulaCube.Proofs.Margin.Scanners
import FormulaCube.Proofs.Outcome
import FormulaCube.Proofs.Pieces.Comments

/-!
# Texts in front of whose lines a margin is put

* `Moved` — a text and the same text with the margin.
* `Moved.codes`, `Moved.of_codes_left`, `Moved.of_codes_right` — characters within a line.
* `Moved.trim`, `Moved.splitTopLevel`, `Moved.join`, `Moved.withoutComments` — what is done with the
  texts of coordinates.
* `EntryMoved` — an entry and the same entry, moved; `Moved.axis?_eq`, `Moved.entry` — reading one.
* `Moved.coordinateLiteral` — what a coordinate stands for is moved as well.
-/

namespace FormulaCube

/-- The second text is the first one with the margin in front of its lines. -/
def Moved (p : Piece → Prop) (width : Nat) (ends fresh : Bool) (t u : Text) : Prop :=
  ∃ ps qs, t = textOf ps ∧ u = textOf qs ∧ Tidy p ps ∧ Shifted width ends fresh ps qs

/-- No head of the forms begins in a literal or a comment. -/
def Piece.IsInert (rules : List Rule) : Piece → Prop
  | .code _ => True
  | .literal body _ => ∀ rule ∈ rules, rule.findHead none body = none
  | .comment body => ∀ rule ∈ rules, rule.findHead none body = none

/-- The piece is inert and no comment. -/
def Piece.IsBare (rules : List Rule) (x : Piece) : Prop := x.IsInert rules ∧ x.isComment = false

lemma isLineCode_of_isNamePart {t : Text} (h : ∀ c ∈ t, Rule.isNamePart c = true) :
    isLineCode t = true := by
  refine List.all_eq_true.mpr fun c hc => ?_
  have hpart := h c hc
  rw [not_isQuote_of_isPlain (isPlain_of_isNamePart hpart), Bool.not_false, Bool.and_true,
    Bool.and_eq_true, bne_iff_ne, bne_iff_ne]
  constructor <;>
    · rintro rfl
      cases hpart

namespace Moved

variable {rules : List Rule} {p q : Piece → Prop} {width : Nat} {ends fresh : Bool}
  {a k t u t' u' : Text}

lemma codes (hp : ∀ c, p (.code c)) (ha : isLineCode a = true) (h : Moved p width ends false t u) :
    Moved p width ends false (a ++ t) (a ++ u) := by
  obtain ⟨ps, qs, rfl, rfl, htidy, hshift⟩ := h
  refine ⟨a.map .code ++ ps, a.map .code ++ qs, (textOf_codes a ps).symm, (textOf_codes a qs).symm,
    htidy.codes_append hp fun c hc => ⟨(of_isLineCode ha hc).1, (of_isLineCode ha hc).2.1⟩,
    hshift.codes fun hmem => (of_isLineCode ha hmem).2.2 rfl⟩

/-- Characters within a line are there on the other side. -/
lemma of_codes_left (ha : isLineCode a = true) (h : Moved p width ends false (a ++ t) u) :
    ∃ k, u = a ++ k ∧ Moved p width ends false t k := by
  obtain ⟨ps, qs, ht, rfl, htidy, hshift⟩ := h
  have hps : ps = a.map .code ++ Piece.ofText t := by
    rw [← ofText_lineCode ha, ht, htidy.ofText_textOf]
  rw [hps] at htidy hshift
  obtain ⟨qs', rfl, hrest⟩ := hshift.of_codes_left fun hmem => (of_isLineCode ha hmem).2.2 rfl
  exact ⟨textOf qs', textOf_codes a qs', _, qs', (Piece.flatMap_text_ofText t).symm, rfl,
    htidy.of_append.2, hrest⟩

lemma of_codes_right (hp : ∀ c, p (.code c)) (ha : isLineCode a = true)
    (h : Moved p width ends false t (a ++ u)) :
    ∃ k, t = a ++ k ∧ Moved p width ends false k u := by
  obtain ⟨ps, qs, rfl, hu, htidy, hshift⟩ := h
  have hqs : qs = a.map .code ++ Piece.ofText u := by
    rw [← ofText_lineCode ha, hu, (hshift.tidy hp htidy).ofText_textOf]
  rw [hqs] at hshift
  obtain ⟨ps', rfl, hrest⟩ := hshift.of_codes_right fun hmem => (of_isLineCode ha hmem).2.2 rfl
  exact ⟨textOf ps', textOf_codes a ps', ps', _, rfl, (Piece.flatMap_text_ofText u).symm,
    htidy.of_append.2, hrest⟩

/-- A text without comments is put before another one that begins with no mark. -/
lemma append (hp : ∀ x : Piece, x.IsBare rules → p x)
    (h : Moved (Piece.IsBare rules) width false fresh t u) (h' : Moved p width ends false t' u')
    (hmark : ∀ c ∈ t'.head?, Text.isQuote c = false) :
    Moved p width ends fresh (t ++ t') (u ++ u') := by
  obtain ⟨ps, qs, rfl, rfl, htidy, hshift⟩ := h
  obtain ⟨ps', qs', rfl, rfl, htidy', hshift'⟩ := h'
  exact ⟨ps ++ ps', qs ++ qs', List.flatMap_append.symm, List.flatMap_append.symm,
    (htidy.imp hp).append_of_not_isQuote htidy' (fun x hx => (htidy.mem hx).2.2) hmark,
    hshift.append hshift'⟩

lemma isBlankText (h : Moved p width ends fresh t u) : u.isBlankText = t.isBlankText := by
  obtain ⟨ps, qs, rfl, rfl, -, hshift⟩ := h
  exact hshift.isBlankText

lemma trim (h : Moved (Piece.IsBare rules) width ends fresh t u) :
    Moved (Piece.IsBare rules) width false false t.trim u.trim := by
  obtain ⟨ps, qs, rfl, rfl, htidy, hshift⟩ := h
  have hqs := hshift.tidy (fun _ => ⟨trivial, rfl⟩) htidy
  exact ⟨trimPieces ps, trimPieces qs, trim_textOf (fun _ hx => hx.2) htidy,
    trim_textOf (fun _ hx => hx.2) hqs, htidy.of_infix (trimPieces_isInfix ps), hshift.trimPieces⟩

/-- The parts between separators. -/
lemma splitTopLevel (sep : Char) (hsep : Text.isBlank sep = false) (hp : ∀ c, p (.code c))
    (h : Moved p width false false t u) :
    List.Forall₂ (Moved p width false false) (splitTopLevel sep t) (splitTopLevel sep u) := by
  obtain ⟨ps, qs, rfl, rfl, htidy, hshift⟩ := h
  have hqs := hshift.tidy hp htidy
  obtain ⟨part, part', parts, parts', hsplit, hsplit', hpart, hparts, hfirst, hrest⟩ :=
    hshift.splitsAlike hsep 0
  rw [FormulaCube.splitTopLevel, FormulaCube.splitTopLevel, htidy.ofText_textOf, hqs.ofText_textOf,
    hsplit, hsplit', List.map_cons, List.map_cons]
  refine .cons ⟨part, part', rfl, rfl, htidy.of_infix ?_, hfirst⟩ ?_
  · rcases hpart with rfl | ⟨after, rfl⟩
    · exact List.infix_rfl
    · exact (List.prefix_append _ _).isInfix
  · clear hsplit hsplit'
    induction hrest with
    | nil => exact .nil
    | cons hshift _ ih =>
        exact .cons ⟨_, _, rfl, rfl, htidy.of_infix (hparts _ List.mem_cons_self), hshift⟩
          (ih fun other hother => hparts other (List.mem_cons_of_mem _ hother))

/-- Parts are joined with characters between them. -/
lemma join (sep : Text) (hsep : isLineCode sep = true) (hne : sep ≠ []) {parts parts' : List Text}
    (h : List.Forall₂ (Moved (Piece.IsBare rules) width false false) parts parts') :
    Moved (Piece.IsBare rules) width false false (Text.join sep parts) (Text.join sep parts') := by
  induction h with
  | nil => exact ⟨[], [], rfl, rfl, trivial, .nil⟩
  | cons hpart hparts ih =>
      cases hparts with
      | nil => exact hpart
      | cons _ _ =>
          rw [join_cons _ _ (List.cons_ne_nil _ _), join_cons _ _ (List.cons_ne_nil _ _)]
          refine append (fun _ => id) hpart (ih.codes (fun _ => ⟨trivial, rfl⟩) hsep) fun c hc => ?_
          rw [List.head?_append_of_ne_nil _ hne] at hc
          exact (of_isLineCode hsep (List.mem_of_mem_head? hc)).2.1

/-- Comments are left out. -/
lemma withoutComments (h : Moved (Piece.IsInert rules) width ends fresh t u) :
    Moved (Piece.IsBare rules) width ends fresh (withoutComments t) (withoutComments u) := by
  have hfilter (ps : List Piece) (hps : Tidy (Piece.IsInert rules) ps) :
      FormulaCube.withoutComments (textOf ps) = textOf (ps.filter (!·.isComment)) := by
    rw [withoutComments_eq, hps.ofText_textOf]
  obtain ⟨ps, qs, rfl, rfl, htidy, hshift⟩ := h
  have hqs := hshift.tidy (fun _ => trivial) htidy
  exact ⟨_, _, hfilter ps htidy, hfilter qs hqs, htidy.filter_isComment, hshift.filter_isComment⟩

end Moved

/-! # Coordinates

An axis stands within a line, so it stays as it is. The values are moved, and so is a coordinate without
axes. -/

variable {rules : List Rule} {p : Piece → Prop} {width : Nat} {ends fresh : Bool}

/-! ## Axes -/

section

variable {t : Text} (ht : ∀ c ∈ t, Rule.isNamePart c = true)

include ht

/-- A name between apostrophes is a closed literal. -/
lemma isClosedLiteral_name : isClosedLiteral ('\'' :: (t ++ ['\''])) = true :=
  Axis.isClosedLiteral_quoted rfl fun c hc => by
    have hpart := ht c hc
    refine ⟨?_, ?_, ?_⟩ <;>
      · rintro rfl
        cases hpart

/-- No head begins in it. -/
lemma isInert_name : (Piece.literal ('\'' :: (t ++ ['\''])) false).IsInert rules := by
  refine fun rule _ => Rule.findHead_eq_none_iff.mpr (.of_not_isSigil fun c hc => ?_)
  simp only [List.mem_cons, List.mem_append, List.not_mem_nil, or_false] at hc
  rcases hc with rfl | hc | rfl
  · rfl
  · exact not_isSigil_of_isPlain (isPlain_of_isNamePart (ht c hc))
  · rfl

end

lemma eq_nil_of_dropWhile {c : Char} {t k : Text}
    (h : (t ++ c :: k).dropWhile (· != c) = [c]) : k = [] := by
  induction t with
  | nil =>
      rw [List.nil_append, List.dropWhile_cons_of_neg (by rw [bne_self_eq_false]; exact nofun)] at h
      exact (List.cons.inj h).2
  | cons d t ih =>
      by_cases hd : d = c
      · subst hd
        rw [List.cons_append, List.dropWhile_cons_of_neg (by rw [bne_self_eq_false]; exact nofun)] at h
        exact absurd (List.cons.inj h).2 (List.append_ne_nil_of_right_ne_nil _ (List.cons_ne_nil _ _))
      · rw [List.cons_append, List.dropWhile_cons_of_pos (p := (· != c)) (bne_iff_ne.mpr hd)] at h
        exact ih h

/-- A quoted axis is one literal. -/
lemma exists_eq_of_isQuotedAxis {ps : List Piece} (h : Tidy p ps)
    (haxis : CoordinateEntry.isQuotedAxis (textOf ps) = true) :
    ∃ body cut, ps = [.literal body cut] := by
  cases ps with
  | nil => cases haxis
  | cons x ps =>
      cases x with
      | code c =>
          have hquote : Text.isQuote c = true := (Bool.and_eq_true_iff.mp haxis).1
          rw [h.1.2] at hquote
          cases hquote
      | comment body =>
          obtain ⟨t, rfl, -⟩ := h.1
          rw [textOf_cons, Piece.text, List.cons_append, CoordinateEntry.isQuotedAxis,
            Bool.and_eq_true] at haxis
          cases haxis.1
      | literal body cut =>
          obtain ⟨mark, rest, rfl, -⟩ := exists_eq_of_isClosedLiteral h.1.2
          have hdrop : (rest ++ [mark] ++ textOf ps).dropWhile (· != mark) = [mark] :=
            of_decide_eq_true (Bool.and_eq_true_iff.mp haxis).2
          rw [List.append_assoc] at hdrop
          rw [h.2.2.2.reread.textOf_eq_nil_iff.mp (eq_nil_of_dropWhile hdrop)]
          exact ⟨_, cut, rfl⟩

/-- No line ends in an axis. -/
lemma newline_not_mem_of_axis {ps : List Piece} (h : Tidy p ps)
    (haxis : CoordinateEntry.isSimpleName (textOf ps) = true ∨
      CoordinateEntry.isQuotedAxis (textOf ps) = true) : Piece.code '\n' ∉ ps := by
  intro hmem
  rcases haxis with haxis | haxis
  · have hpart := Axis.isNamePart_of_isSimpleName haxis '\n'
      (List.mem_flatMap.mpr ⟨_, hmem, List.mem_singleton_self '\n'⟩)
    cases hpart
  · obtain ⟨body, cut, rfl⟩ := exists_eq_of_isQuotedAxis h haxis
    cases List.mem_singleton.mp hmem

namespace Moved

variable {key key' t u : Text}

lemma nil : Moved p width ends false [] [] := ⟨[], [], rfl, rfl, trivial, .nil⟩

/-- A literal may stand wherever no line begins. -/
lemma literal {body : Text} (hclosed : isClosedLiteral body = true)
    (hinert : ∀ rule ∈ rules, rule.findHead none body = none) :
    Moved (Piece.IsBare rules) width ends false body body := by
  have htext : body = textOf [.literal body false] := (List.append_nil body).symm
  exact ⟨_, _, htext, htext, ⟨⟨rfl, hclosed⟩, ⟨hinert, rfl⟩, nofun, trivial⟩, .keep nofun .nil⟩

/-- A name between apostrophes is such a literal. -/
lemma name (ht : ∀ c ∈ t, Rule.isNamePart c = true) :
    Moved (Piece.IsBare rules) width ends false ('\'' :: (t ++ ['\''])) ('\'' :: (t ++ ['\''])) :=
  literal (isClosedLiteral_name ht) (isInert_name ht)

/-- **Axes stay as they are.** -/
lemma axis?_eq (h : Moved (Piece.IsBare rules) width ends fresh key key') :
    CoordinateEntry.axis? key' = CoordinateEntry.axis? key := by
  obtain ⟨ps, qs, hkey, hkey', htidy, hshift⟩ := h.trim
  have hqs := hshift.tidy (fun _ => ⟨trivial, rfl⟩) htidy
  have hsame : (CoordinateEntry.isSimpleName key.trim = true ∨
      CoordinateEntry.isQuotedAxis key.trim = true ∨
      CoordinateEntry.isSimpleName key'.trim = true ∨
      CoordinateEntry.isQuotedAxis key'.trim = true) → key'.trim = key.trim := by
    rw [← or_assoc, hkey, hkey']
    rintro (haxis | haxis)
    · rw [hshift.eq_of_not_mem_left (newline_not_mem_of_axis htidy haxis)]
    · rw [hshift.eq_of_not_mem_right (newline_not_mem_of_axis hqs haxis)]
  simp only [CoordinateEntry.axis?]
  by_cases hany : CoordinateEntry.isSimpleName key.trim = true ∨
      CoordinateEntry.isQuotedAxis key.trim = true ∨
      CoordinateEntry.isSimpleName key'.trim = true ∨
      CoordinateEntry.isQuotedAxis key'.trim = true
  · rw [hsame hany]
  · simp only [not_or] at hany
    rw [if_neg hany.1, if_neg hany.2.1, if_neg hany.2.2.1, if_neg hany.2.2.2]

/-- An axis is a literal. -/
lemma of_axis? (h : Moved (Piece.IsBare rules) width ends fresh key key') {axis : Text}
    (haxis : CoordinateEntry.axis? key = some axis) :
    Moved (Piece.IsBare rules) width false false axis axis := by
  simp only [CoordinateEntry.axis?] at haxis
  split at haxis
  · rename_i hname
    have hpart := Axis.isNamePart_of_isSimpleName hname
    rw [← Option.some_inj.mp haxis, quoted_of_isNamePart hpart]
    exact name hpart
  · split at haxis
    · rename_i hquoted
      obtain ⟨ps, qs, hkey, -, htidy, -⟩ := h.trim
      rw [hkey] at hquoted
      obtain ⟨body, cut, rfl⟩ := exists_eq_of_isQuotedAxis htidy hquoted
      have hbody : key.trim = body := hkey.trans (List.append_nil body)
      rw [← Option.some_inj.mp haxis, hbody]
      exact literal htidy.1.2 htidy.2.1.1
    · cases haxis

/-! ## Entries -/

/-- Within a line both texts begin in the same way. -/
lemma isPrefixOf_eq {a : Text} (hp : ∀ c, p (.code c)) (ha : isLineCode a = true)
    (h : Moved p width ends false t u) : a.isPrefixOf u = a.isPrefixOf t := by
  rw [Bool.eq_iff_iff, List.isPrefixOf_iff_prefix, List.isPrefixOf_iff_prefix]
  constructor
  · rintro ⟨k, rfl⟩
    obtain ⟨k', rfl, -⟩ := h.of_codes_right hp ha
    exact ⟨k', rfl⟩
  · rintro ⟨k, rfl⟩
    obtain ⟨k', rfl, -⟩ := h.of_codes_left ha
    exact ⟨k', rfl⟩

lemma isEmpty_trim_eq (h : Moved p width ends fresh t u) : u.trim.isEmpty = t.trim.isEmpty := by
  rw [Bool.eq_iff_iff, List.isEmpty_iff, List.isEmpty_iff, Text.trim_eq_nil_iff,
    Text.trim_eq_nil_iff, h.isBlankText]

end Moved

/-- An entry of a coordinate and the same entry, moved. -/
inductive EntryMoved (rules : List Rule) (width : Nat) : CoordinateEntry → CoordinateEntry → Prop
  /-- A spread entry. -/
  | spread {t u : Text} (h : Moved (Piece.IsBare rules) width false false t u) :
      EntryMoved rules width (.spread t) (.spread u)
  /-- An entry with an axis, which stays. -/
  | keyed {axis t u : Text} (haxis : Moved (Piece.IsBare rules) width false false axis axis)
      (h : Moved (Piece.IsBare rules) width false false t u) :
      EntryMoved rules width (.keyed axis t) (.keyed axis u)
  /-- An item without an axis. -/
  | bare : EntryMoved rules width .bare .bare

namespace EntryMoved

variable {e e' : CoordinateEntry}

lemma isKeyed (h : EntryMoved rules width e e') : e'.isKeyed = e.isKeyed := by
  cases h <;> rfl

lemma text (h : EntryMoved rules width e e') :
    Moved (Piece.IsBare rules) width false false e.text e'.text := by
  cases h with
  | spread h => exact h
  | keyed haxis h =>
      rw [CoordinateEntry.text, CoordinateEntry.text, List.append_assoc, List.append_assoc]
      refine .append (fun _ => id) haxis (h.codes (fun _ => ⟨trivial, rfl⟩) (by decide)) fun c hc => ?_
      cases hc
      rfl
  | bare => exact .nil

lemma any_isKeyed {es es' : List CoordinateEntry} (h : List.Forall₂ (EntryMoved rules width) es es') :
    es'.any CoordinateEntry.isKeyed = es.any CoordinateEntry.isKeyed := by
  induction h with
  | nil => rfl
  | cons h _ ih => rw [List.any_cons, List.any_cons, h.isKeyed, ih]

lemma all_isKeyed {es es' : List CoordinateEntry} (h : List.Forall₂ (EntryMoved rules width) es es') :
    es'.all CoordinateEntry.isKeyed = es.all CoordinateEntry.isKeyed := by
  induction h with
  | nil => rfl
  | cons h _ ih => rw [List.all_cons, List.all_cons, h.isKeyed, ih]

end EntryMoved

namespace Moved

variable {t u : Text}

/-- **Entries are read in the same way.** -/
lemma entry (h : Moved (Piece.IsBare rules) width false false t u) (position position' : Int) :
    Alike (EntryMoved rules width) (CoordinateEntry.ofText position t)
      (CoordinateEntry.ofText position' u) := by
  have hstars := h.trim.isPrefixOf_eq (a := "**".toList) (fun _ => ⟨trivial, rfl⟩) (by decide)
  have hparts := h.splitTopLevel ':' rfl fun _ => ⟨trivial, rfl⟩
  simp only [CoordinateEntry.ofText, hstars]
  generalize FormulaCube.splitTopLevel ':' t = parts at hparts ⊢
  generalize FormulaCube.splitTopLevel ':' u = parts' at hparts ⊢
  split
  · exact .spread h.trim
  · cases hparts with
    | nil => exact .bare
    | @cons key key' _ _ hkey hmore =>
        cases hmore with
        | nil => exact .bare
        | cons hsecond hmore =>
            have hvalue := join [':'] rfl (List.cons_ne_nil _ _) (.cons hsecond hmore)
            simp only [hkey.axis?_eq, hvalue.isEmpty_trim_eq]
            cases haxis : CoordinateEntry.axis? key with
            | none => trivial
            | some axis =>
                show Alike _ (if _ then _ else _) (if _ then _ else _)
                split
                · trivial
                · exact .keyed (hkey.of_axis? haxis) hvalue.trim

/-- **What a coordinate stands for is moved like the coordinate.** -/
theorem coordinateLiteral (h : Moved (Piece.IsInert rules) width false false t u)
    (position position' : Int) :
    Alike (Moved (Piece.IsBare rules) width false false) (coordinateLiteral t position)
      (FormulaCube.coordinateLiteral u position') := by
  have hkept := h.withoutComments
  have hitems := List.rel_filter (p := fun item => !item.isBlankText) (q := fun item => !item.isBlankText)
    (fun _ _ hitem => Iff.of_eq (congrArg (fun b => (!b) = true) hitem.isBlankText.symm))
    (hkept.trim.splitTopLevel ',' rfl fun _ => ⟨trivial, rfl⟩)
  have hentries := Alike.mapM hitems fun _ _ hitem => hitem.entry position position'
  unfold FormulaCube.coordinateLiteral
  simp only [hkept.isEmpty_trim_eq]
  split
  · have hempty : isLineCode "\x7b\x7d".toList = true := by decide
    exact nil.codes (fun _ => ⟨trivial, rfl⟩) hempty
  · refine hentries.bind fun es es' hes => ?_
    rw [EntryMoved.any_isKeyed hes, EntryMoved.all_isKeyed hes]
    split
    · exact hkept.trim
    · split
      · trivial
      · have htexts : List.Forall₂ (Moved (Piece.IsBare rules) width false false)
            (es.map CoordinateEntry.text) (es'.map CoordinateEntry.text) := by
          rw [List.forall₂_map_left_iff, List.forall₂_map_right_iff]
          exact hes.imp fun _ _ he => he.text
        have hjoin := join ", ".toList (by decide) (by decide) htexts
        have hclose : Moved (Piece.IsBare rules) width false false ['\x7d'] ['\x7d'] :=
          nil.codes (a := ['\x7d']) (fun _ => ⟨trivial, rfl⟩) rfl
        refine (append (fun _ => id) hjoin hclose fun c hc => ?_).codes (a := ['\x7b'])
          (fun _ => ⟨trivial, rfl⟩) rfl
        cases hc
        rfl

end Moved

end FormulaCube
