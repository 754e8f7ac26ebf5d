import FormulaCube.Proofs.Margin.Moved
import FormulaCube.Proofs.Pieces.Brackets
import FormulaCube.Proofs.Shortcut.Independence
import FormulaCube.Proofs.Shortcut.Written

/-!
# Coordinates that are already written as expressions

What a coordinate stands for is put together from parts of it: they are cut at separators, trimmed,
quoted, and put in brackets. Read as a coordinate again, it stands for itself.

* `splitPieces_of_readPiece`, `splitPieces_nested` — separators by the brackets that are open.
* `IsBalanced` — texts without comments, whose literals are closed and whose brackets are nested. They
  stay so when they are trimmed (`IsBalanced.trim`), cut (`IsBalanced.splitTopLevel`) and joined
  (`IsBalanced.join`).
* `IsBalanced.coordinateLiteral_display` — such a text in braces stands for itself.
* `coordinateLiteral_coordinateLiteral` — what a coordinate stands for stands for itself.
-/

namespace FormulaCube

variable {bs bs' : List Bracket} {x : Piece} {ps qs : List Piece} {sep : Char}

/-! ## Brackets among pieces -/

lemma bracketsOf_append (ps qs : List Piece) :
    bracketsOf (ps ++ qs) = bracketsOf ps ++ bracketsOf qs := by
  induction ps with
  | nil => rfl
  | cons x ps ih =>
      cases x with
      | code c =>
          rw [List.cons_append, bracketsOf, bracketsOf, ih]
          split <;> rfl
      | literal body cut => exact ih
      | comment body => exact ih

lemma bracketsOf_cons (x : Piece) (ps : List Piece) :
    bracketsOf (x :: ps) = bracketsOf [x] ++ bracketsOf ps := bracketsOf_append [x] ps

lemma bracketsOf_plain {c : Char} (h : isPlain c = true) : bracketsOf [.code c] = [] := by
  rw [bracketsOf, isBracket, closer?_of_isPlain h, not_isCloser_of_isPlain h]
  rfl

lemma bracketsOf_isBlank (h : x.isBlank = true) : bracketsOf [x] = [] := by
  cases x with
  | code c => exact bracketsOf_plain (isPlain_of_isBlank h)
  | _ => cases h

lemma bracketsOf_filter_isComment (ps : List Piece) :
    bracketsOf (ps.filter (!·.isComment)) = bracketsOf ps := by
  induction ps with
  | nil => rfl
  | cons x ps ih =>
      rw [bracketsOf_cons, ← ih]
      cases x with
      | comment body => rfl
      | _ => rw [List.filter_cons_of_pos rfl, bracketsOf_cons]

/-- Blanks are no brackets. -/
lemma bracketsOf_trimPieces (ps : List Piece) : bracketsOf (trimPieces ps) = bracketsOf ps := by
  have hright (ps : List Piece) : bracketsOf (trimPiecesRight ps) = bracketsOf ps := by
    induction ps with
    | nil => rfl
    | cons x ps ih =>
        rw [trimPiecesRight_cons, bracketsOf_cons, ← ih]
        split
        next hnil =>
          rw [hnil]
          split
          next hblank => rw [bracketsOf_isBlank hblank]; rfl
          next => exact (List.append_nil _).symm
        next => rw [bracketsOf_cons]
  rw [trimPieces, hright]
  induction ps with
  | nil => rfl
  | cons x ps ih =>
      cases hx : x.isBlank with
      | true => rw [List.dropWhile_cons_of_pos hx, ih, bracketsOf_cons, bracketsOf_isBlank hx]; rfl
      | false => rw [List.dropWhile_cons_of_neg (by rw [hx]; exact Bool.false_ne_true)]

/-! ## Separators by the brackets that are open -/

/-- **What one piece does**: it is a separator only if no bracket is open, and otherwise it belongs to the
part. -/
lemma splitPieces_of_readPiece (sep : Char) (h : readPiece bs x = some bs') :
    (x = .code sep ∧ bs = [] ∧ bs' = [] ∧
      ∀ ps, splitPieces sep 0 (x :: ps) = [] :: splitPieces sep 0 ps) ∨
    ∀ ps, splitPieces sep bs.length (x :: ps) = prepend x.text (splitPieces sep bs'.length ps) := by
  cases x with
  | literal body cut =>
      obtain rfl := Option.some_inj.mp h
      exact Or.inr fun _ => rfl
  | comment body =>
      obtain rfl := Option.some_inj.mp h
      exact Or.inr fun _ => rfl
  | code c =>
      rw [readPiece] at h
      split at h
      · rcases readBracket_eq_some h with ⟨b, rfl, rfl⟩ | ⟨b, rfl, rfl⟩
        · exact Or.inr fun ps => @splitPieces_opener _ bs.length b ps
        · exact Or.inr fun ps => @splitPieces_closer _ bs'.length b ps
      · rename_i hc
        rw [isBracket, Bool.or_eq_true, not_or, Bool.not_eq_true, Bool.not_eq_true,
          Option.isSome_eq_false_iff, Option.isNone_iff_eq_none] at hc
        obtain rfl := Option.some_inj.mp h
        by_cases hcut : bs = [] ∧ c = sep
        · obtain ⟨rfl, rfl⟩ := hcut
          refine Or.inl ⟨rfl, rfl, rfl, fun ps => ?_⟩
          rw [splitPieces.eq_def]
          simp [hc.1, hc.2]
        · refine Or.inr fun ps => splitPieces_plain hc.1 hc.2 ?_ ps
          rcases Nat.eq_zero_or_pos bs.length with hzero | hpos
          · exact Or.inr fun heq => hcut ⟨List.length_eq_zero_iff.mp hzero, heq⟩
          · exact Or.inl (Int.natCast_pos.mpr hpos)

/-- What can be read without other brackets can be read within them. -/
lemma readPiece_append (h : readPiece bs x = some bs') (below : List Bracket) :
    readPiece (bs ++ below) x = some (bs' ++ below) := by
  cases x with
  | literal body cut =>
      obtain rfl := Option.some_inj.mp h
      rfl
  | comment body =>
      obtain rfl := Option.some_inj.mp h
      rfl
  | code c =>
      rw [readPiece] at h ⊢
      split at h
      next hc =>
        rw [if_pos hc]
        rcases readBracket_eq_some h with ⟨b, rfl, rfl⟩ | ⟨b, rfl, rfl⟩
        · exact readBracket_opener _ b
        · exact readBracket_closer _ b
      next hc =>
        obtain rfl := Option.some_inj.mp h
        rw [if_neg hc]

/-- **Within brackets nothing is cut.** -/
lemma splitPieces_within {below : List Bracket} (hbelow : below ≠ [])
    (h : stackAfter bs (bracketsOf ps) = some bs') (sep : Char) (qs : List Piece) :
    splitPieces sep (bs ++ below).length (ps ++ qs) =
      prepend (textOf ps) (splitPieces sep (bs' ++ below).length qs) := by
  induction ps generalizing bs with
  | nil =>
      obtain rfl := Option.some_inj.mp h
      exact (prepend_nil (splitPieces_ne_nil _ _ _)).symm
  | cons x ps ih =>
      rw [stackAfter_bracketsOf_cons, Option.bind_eq_some_iff] at h
      obtain ⟨next, hread, hrest⟩ := h
      rcases splitPieces_of_readPiece sep (readPiece_append hread below) with ⟨-, hnil, -⟩ | hpass
      · exact absurd (List.append_eq_nil_iff.mp hnil).2 hbelow
      · rw [List.cons_append, hpass, ih hrest, ← prepend_append, textOf_cons]

/-- **The parts between separators are closed**, and the first one closes what was open before it. -/
lemma exists_parts (h : stackAfter bs (bracketsOf ps) = some []) (sep : Char) :
    ∃ part parts, splitPieces sep bs.length ps = (part :: parts).map textOf ∧
      (part <+: ps ∧ stackAfter bs (bracketsOf part) = some []) ∧
      ∀ other ∈ parts, other <:+: ps ∧ stackAfter [] (bracketsOf other) = some [] := by
  induction ps generalizing bs with
  | nil => exact ⟨[], [], rfl, ⟨List.nil_prefix, h⟩, nofun⟩
  | cons x ps ih =>
      have hwithin := (List.suffix_cons x ps).isInfix
      rw [stackAfter_bracketsOf_cons, Option.bind_eq_some_iff] at h
      obtain ⟨next, hread, hrest⟩ := h
      obtain ⟨part, parts, hsplit, hpart, hparts⟩ := ih hrest
      rcases splitPieces_of_readPiece sep hread with ⟨rfl, rfl, rfl, hcut⟩ | hpass
      · refine ⟨[], part :: parts, (hcut ps).trans (congrArg _ hsplit), ⟨List.nil_prefix, rfl⟩, ?_⟩
        rw [List.forall_mem_cons]
        exact ⟨⟨hpart.1.isInfix.trans hwithin, hpart.2⟩,
          fun other hother => (hparts other hother).imp_left fun hinfix => hinfix.trans hwithin⟩
      · refine ⟨x :: part, parts, ?_, ⟨(List.prefix_cons_inj x).mpr hpart.1, ?_⟩,
          fun other hother => (hparts other hother).imp_left fun hinfix => hinfix.trans hwithin⟩
        · rw [hpass, hsplit]
          rfl
        · rw [stackAfter_bracketsOf_cons, hread, Option.bind_some, hpart.2]

/-! ## Balanced texts -/

/-- A piece that is no open literal. -/
def Piece.isClosed : Piece → Bool
  | .literal body cut => !cut && isClosedLiteral body
  | _ => true

/-- A text without comments, whose literals are closed and whose brackets are nested. -/
structure IsBalanced (t : Text) : Prop where
  /-- The pieces are no comments, and no open literals. -/
  tidy : Tidy (fun x => x.isComment = false) (Piece.ofText t)
  /-- The brackets are nested. -/
  nested : stackAfter [] (bracketsOf (Piece.ofText t)) = some []

namespace IsBalanced

variable {a b t : Text}

lemma of_pieces (h : Tidy (fun x => x.isComment = false) ps)
    (hnested : stackAfter [] (bracketsOf ps) = some []) : IsBalanced (textOf ps) := by
  have hpieces := h.ofText_textOf
  exact ⟨by rwa [hpieces], by rwa [hpieces]⟩

lemma nil : IsBalanced [] := of_pieces (show Tidy _ [] from trivial) rfl

/-- What is left of a text without its comments. -/
lemma of_withoutComments (hclosed : ∀ x ∈ Piece.ofText t, x.isClosed = true)
    (hnested : Nested (bracketsOf (Piece.ofText t))) : IsBalanced (withoutComments t) := by
  have htidy : Tidy (fun _ => True) (Piece.ofText t) := tidy_ofText (fun body cut hmem => by
    have hliteral := hclosed _ hmem
    rwa [Piece.isClosed, Bool.and_eq_true, Bool.not_eq_true'] at hliteral) fun _ _ => trivial
  rw [withoutComments_eq]
  refine of_pieces (htidy.filter_isComment.imp fun x hx => hx.2) ?_
  rw [bracketsOf_filter_isComment, stackAfter_of_nested hnested]

lemma withoutComments_eq (h : IsBalanced t) : withoutComments t = t := by
  rw [FormulaCube.withoutComments_eq, List.filter_eq_self.mpr, textOf_ofText]
  intro x hx
  rw [(h.tidy.mem hx).2]
  rfl

lemma trim (h : IsBalanced t) : IsBalanced t.trim := by
  have htrim := trim_textOf (fun _ => id) h.tidy
  rw [textOf_ofText] at htrim
  rw [htrim]
  refine of_pieces (h.tidy.of_infix (trimPieces_isInfix _)) ?_
  rw [bracketsOf_trimPieces, h.nested]

/-- **The parts between separators** are balanced. -/
lemma splitTopLevel (h : IsBalanced t) (sep : Char) :
    ∀ part ∈ splitTopLevel sep t, IsBalanced part := by
  obtain ⟨part, parts, hsplit, hpart, hparts⟩ := exists_parts h.nested sep
  have hsplit : FormulaCube.splitTopLevel sep t = (part :: parts).map textOf := hsplit
  rw [hsplit, List.forall_mem_map, List.forall_mem_cons]
  exact ⟨of_pieces (h.tidy.of_infix hpart.1.isInfix) hpart.2,
    fun other hother => of_pieces (h.tidy.of_infix (hparts other hother).1) (hparts other hother).2⟩

/-- A text may be put behind another one if it begins with no mark. -/
lemma append (ha : IsBalanced a) (hb : IsBalanced b) (hquote : startsQuote b = false) :
    IsBalanced (a ++ b) := by
  have htidy := ha.tidy.append_of_not_isQuote hb.tidy (fun x hx => (ha.tidy.mem hx).2) fun c hc => by
    rw [textOf_ofText] at hc
    obtain ⟨rest, rfl⟩ := List.head?_eq_some_iff.mp hc
    exact hquote
  have htext : textOf (Piece.ofText a ++ Piece.ofText b) = a ++ b := by
    rw [textOf_append, textOf_ofText, textOf_ofText]
  rw [← htext]
  refine of_pieces htidy ?_
  rw [bracketsOf_append, stackAfter_append, ha.nested, Option.bind_some, hb.nested]

lemma plain_cons {c : Char} (hc : isPlain c = true) (h : IsBalanced t) : IsBalanced (c :: t) := by
  have hhash : c ≠ '#' := by
    rintro rfl
    cases hc
  have hpieces := ofText_plain hc t
  refine ⟨hpieces ▸ ⟨⟨hhash, not_isQuote_of_isPlain hc⟩, rfl, fun _ _ => trivial, h.tidy⟩, ?_⟩
  rw [hpieces, bracketsOf_cons, bracketsOf_plain hc, List.nil_append, h.nested]

lemma plains_append (ha : ∀ c ∈ a, isPlain c = true) (h : IsBalanced t) : IsBalanced (a ++ t) := by
  induction a with
  | nil => exact h
  | cons c a ih =>
      rw [List.forall_mem_cons] at ha
      exact plain_cons ha.1 (ih ha.2)

/-- Texts with plain characters between them. -/
lemma join {sep : Text} (hne : sep ≠ []) (hsep : ∀ c ∈ sep, isPlain c = true) {parts : List Text}
    (h : ∀ part ∈ parts, IsBalanced part) : IsBalanced (Text.join sep parts) := by
  induction parts with
  | nil => exact nil
  | cons part parts ih =>
      rw [List.forall_mem_cons] at h
      cases parts with
      | nil => exact h.1
      | cons other parts =>
          obtain ⟨c, rest, rfl⟩ := List.exists_cons_of_ne_nil hne
          rw [join_cons _ _ (List.cons_ne_nil _ _)]
          exact h.1.append ((ih h.2).plains_append hsep)
            (not_isQuote_of_isPlain (hsep c List.mem_cons_self))

lemma literal (h : isClosedLiteral t = true) : IsBalanced t := by
  have htidy : Tidy (fun x => x.isComment = false) [.literal t false] :=
    ⟨⟨rfl, h⟩, rfl, nofun, trivial⟩
  have htext : textOf [.literal t false] = t := List.append_nil t
  exact htext ▸ of_pieces htidy rfl

/-! ### In braces -/

/-- The pieces of a text in braces. -/
lemma ofText_braces (h : IsBalanced t) : Piece.ofText ('\x7b' :: (t ++ ['\x7d'])) =
    .code '\x7b' :: (Piece.ofText t ++ [.code '\x7d']) := by
  have hclose : Tidy (fun x => x.isComment = false) [.code '\x7d'] :=
    ⟨⟨by decide, rfl⟩, rfl, nofun, trivial⟩
  have htidy := h.tidy.append_of_not_isQuote hclose (fun x hx => (h.tidy.mem hx).2) fun c hc => by
    obtain rfl := Option.some_inj.mp hc
    rfl
  have htext : textOf (Piece.ofText t ++ [.code '\x7d']) = t ++ ['\x7d'] := by
    rw [textOf_append, textOf_ofText]
    rfl
  rw [← htext]
  exact (ofText_opener .curly _).trans (congrArg _ htidy.ofText_textOf)

lemma withoutComments_braces (h : IsBalanced t) :
    FormulaCube.withoutComments ('\x7b' :: (t ++ ['\x7d'])) = '\x7b' :: (t ++ ['\x7d']) := by
  have hinner := h.withoutComments_eq
  rw [FormulaCube.withoutComments] at hinner ⊢
  rw [h.ofText_braces, List.flatMap_cons, List.flatMap_append, hinner]
  rfl

/-- **A text in braces is not cut.** -/
lemma splitTopLevel_braces (h : IsBalanced t) (sep : Char) :
    FormulaCube.splitTopLevel sep ('\x7b' :: (t ++ ['\x7d'])) = ['\x7b' :: (t ++ ['\x7d'])] := by
  have hwithin := splitPieces_within (List.cons_ne_nil Bracket.curly []) h.nested sep [.code '\x7d']
  rw [textOf_ofText] at hwithin
  rw [FormulaCube.splitTopLevel, h.ofText_braces]
  have hcloser := @splitPieces_closer sep 0 .curly []
  refine (@splitPieces_opener _ 0 .curly _).trans ?_
  refine (congrArg _ (hwithin.trans (congrArg _ hcloser))).trans ?_
  rfl

/-- **A text in braces stands for itself.** -/
lemma coordinateLiteral_braces (h : IsBalanced t) (position : Int) :
    coordinateLiteral ('\x7b' :: (t ++ ['\x7d'])) position = .ok ('\x7b' :: (t ++ ['\x7d'])) := by
  have htight : Tight ('\x7b' :: (t ++ ['\x7d'])) := .enclosed rfl rfl t
  rw [coordinateLiteral, h.withoutComments_braces, htight.trim_eq]
  dsimp only [List.isEmpty_cons]
  rw [h.splitTopLevel_braces, List.filter_cons_of_pos (by rw [htight.isBlankText_eq]; rfl),
    List.filter_nil]
  have hentry : CoordinateEntry.ofText position ('\x7b' :: (t ++ ['\x7d'])) = .ok .bare := by
    rw [CoordinateEntry.ofText, htight.trim_eq, h.splitTopLevel_braces]
    rfl
  rw [List.mapM_cons, hentry]
  rfl

/-! ### Entries -/

/-- An axis is a literal. -/
lemma isClosedLiteral_of_axis? (h : IsBalanced t) {axis : Text}
    (haxis : CoordinateEntry.axis? t = some axis) : isClosedLiteral axis = true := by
  simp only [CoordinateEntry.axis?] at haxis
  split at haxis
  · rw [← Option.some_inj.mp haxis]
    exact Text.isClosedLiteral_quoted _
  · split at haxis
    next hquoted =>
      have htext : textOf (Piece.ofText t.trim) = t.trim := Piece.flatMap_text_ofText _
      rw [← htext] at hquoted
      obtain ⟨body, cut, hpieces⟩ := exists_eq_of_isQuotedAxis h.trim.tidy hquoted
      have hwhole := (h.trim.tidy.mem (hpieces ▸ List.mem_cons_self)).1
      have hbody : body = t.trim := by rw [← htext, hpieces]; exact (List.append_nil body).symm
      rw [← Option.some_inj.mp haxis, ← hbody]
      exact hwhole.2
    next => cases haxis

/-- **What is written for an entry** is balanced. -/
lemma entry (h : IsBalanced t) {position : Int} {e : CoordinateEntry}
    (he : CoordinateEntry.ofText position t = .ok e) : IsBalanced e.text := by
  rw [CoordinateEntry.ofText] at he
  split at he
  next =>
    obtain rfl := Except.ok.inj he
    exact h.trim
  next =>
    have hparts := h.splitTopLevel ':'
    split at he
    next key second more hsplit =>
      rw [hsplit, List.forall_mem_cons] at hparts
      have hvalue := (join (List.cons_ne_nil ':' []) (List.forall_mem_singleton.mpr rfl) hparts.2).trim
      dsimp only at he
      split at he
      next axis haxis =>
        split at he
        · cases he
        · obtain rfl := Except.ok.inj he
          have hlead : ∀ c ∈ ": ".toList, isPlain c = true := List.all_eq_true.mp rfl
          rw [CoordinateEntry.text, List.append_assoc]
          exact (literal (hparts.1.isClosedLiteral_of_axis? haxis)).append (hvalue.plains_append hlead) rfl
      next => cases he
    next =>
      obtain rfl := Except.ok.inj he
      exact nil

/-- **What a coordinate stands for stands for itself.** -/
lemma coordinateLiteral_of_ok (h : IsBalanced (FormulaCube.withoutComments t)) {position : Int}
    {r : Text} (hr : coordinateLiteral t position = .ok r) (position' : Int) :
    coordinateLiteral r position' = .ok r := by
  have hr' := hr
  rw [coordinateLiteral] at hr'
  dsimp only at hr'
  split at hr'
  · obtain rfl := Except.ok.inj hr'
    exact nil.coordinateLiteral_braces position'
  · obtain ⟨entries, hentries, hr'⟩ := exists_of_bind_eq_ok hr'
    split at hr'
    · -- what is trimmed already is read in the same way
      obtain rfl := Except.ok.inj hr'
      refine coordinateLiteral_at (show coordinateLiteral _ position = _ from ?_) position'
      rw [coordinateLiteral, h.trim.withoutComments_eq, Text.trim_trim]
      rw [coordinateLiteral] at hr
      exact hr
    · split at hr'
      · cases hr'
      · obtain rfl := Except.ok.inj hr'
        refine coordinateLiteral_braces (join (List.cons_ne_nil ',' [' '])
          (List.all_eq_true.mp rfl) fun text htext => ?_) position'
        obtain ⟨e, he, rfl⟩ := List.mem_map.mp htext
        obtain ⟨item, hitem, he⟩ := exists_of_mapM_eq_ok hentries e he
        exact (h.trim.splitTopLevel ',' item (List.mem_filter.mp hitem).1).entry he

end IsBalanced

/-- **Reading a second time.** In a coordinate literals are closed, and the brackets in its code are
nested. What it stands for stands for itself, and so does the coordinate without its comments, in
braces. -/
theorem coordinateLiteral_coordinateLiteral {t : Text}
    (hclosed : ∀ x ∈ Piece.ofText t, x.isClosed = true)
    (hnested : Nested (bracketsOf (Piece.ofText t))) (position position' : Int) :
    (∀ r, coordinateLiteral t position = .ok r → coordinateLiteral r position' = .ok r) ∧
      coordinateLiteral ('\x7b' :: (withoutComments t ++ ['\x7d'])) position' =
        .ok ('\x7b' :: (withoutComments t ++ ['\x7d'])) := by
  have hbalanced := IsBalanced.of_withoutComments hclosed hnested
  exact ⟨fun r hr => hbalanced.coordinateLiteral_of_ok hr position',
    hbalanced.coordinateLiteral_braces position'⟩

/-- Entries of all kinds, with separators, brackets and marks where they do not count. -/
def variedEntries : Text := "a: f(x, 'y:#'), **b,, 'c': \x7b1: [2]\x7d # d: '(\n, e : \"\"".toList

/-- The dictionary that they stand for. -/
def variedDisplay : Text := "\x7b'a': f(x, 'y:#'), **b, 'c': \x7b1: [2]\x7d, 'e': \"\"\x7d".toList

theorem coordinateLiteral_coordinateLiteral_varied :
    coordinateLiteral variedEntries 0 = .ok variedDisplay ∧
      coordinateLiteral variedDisplay 7 = .ok variedDisplay := by
  have hread : coordinateLiteral variedEntries 0 = .ok variedDisplay := by decide +kernel
  have hclosed : (Piece.ofText variedEntries).all Piece.isClosed = true := by decide +kernel
  have hstack : stackAfter [] (bracketsOf (Piece.ofText variedEntries)) = some [] := by
    decide +kernel
  exact ⟨hread, (coordinateLiteral_coordinateLiteral (List.all_eq_true.mp hclosed)
    (leavesOpen_nil_iff.mp (stackAfter_eq_some_iff.mp hstack)) 0 7).1 _ hread⟩

end FormulaCube
