import FormulaCube.Proofs.Pieces.Comments
import FormulaCube.Proofs.Quoting
import FormulaCube.Proofs.Shortcut.Display

/-!
# Coordinates that are written from values

A dictionary is written as a coordinate, entry by entry, and the coordinate is read again: it is taken
apart at commas and colons that stand outside of brackets and literals. The texts of values have commas,
colons, brackets and marks in them, at any depth.

* `Text.isClosedLiteral_quoted` — a quoted text is a closed literal, whatever it quotes.
* `Tight` — a text with no blanks at its ends.
* `Uncut` — a text that is read as a whole and that no comma cuts; `Uncut.group` — what brackets do.
* `Value.IsData` — the values that are written as literals and displays, and `Value.IsData.uncut_shown`,
  `Value.IsData.tight_shown` — what their texts are.
* `coordinateLiteral_coordinateText` — the coordinate reads back as the dictionary.
* `Value.formatted_of_written`, `coordinateLiteral_formatted` — so it is where the dictionary can be written.
-/

namespace FormulaCube

/-! ## Quoted texts -/

namespace Text

variable {mark : Char}

lemma closesLine_backslash (mark c : Char) (k : Text) :
    closesLine mark (backslash :: c :: k) = closesLine mark k := by
  rw [closesLine, if_pos rfl]

/-- What is escaped does not begin with the mark. -/
lemma exists_escapedChar_eq (hmark : isQuote mark = true) (c : Char) :
    ∃ d rest, escapedChar mark c = d :: rest ∧ d ≠ mark := by
  have hback := (ne_backslash_of_isQuote hmark).symm
  rw [escapedChar]
  split_ifs with hself
  case pos => exact ⟨_, _, rfl, hback⟩
  all_goals first
    | exact ⟨_, _, rfl, hback⟩
    | exact ⟨c, [], rfl, fun heq => hself (by rw [decide_eq_true heq]; rfl)⟩

/-- **An escaped character does not close the literal.** -/
lemma closesLine_escapedChar (hmark : isQuote mark = true) (c : Char) (k : Text) :
    closesLine mark (escapedChar mark c ++ k) = closesLine mark k := by
  -- a letter and the digits of a number pass
  have hword {d : Char} (hd : isAsciiWord d = true) : d ≠ mark ∧ d ≠ backslash ∧ d ≠ '\n' := by
    refine ⟨?_, ?_, ?_⟩ <;> rintro rfl
    · rw [isQuote_iff] at hmark
      rw [isAsciiWord_iff] at hd
      omega
    · cases hd
    · cases hd
  have hnumber (letter : Char) (width : Nat) :
      closesLine mark (backslash :: letter :: hex width c.toNat ++ k) = closesLine mark k :=
    (closesLine_backslash mark letter _).trans
      (closesLine_append (fun d hd => hword (isAsciiWord_of_mem_hex hd)) k)
  rw [escapedChar]
  split_ifs with hself hnewline hreturn htab hprintable hsmall hmiddle
  · exact closesLine_backslash mark c k
  · exact closesLine_backslash mark 'n' k
  · exact closesLine_backslash mark 'r' k
  · exact closesLine_backslash mark 't' k
  · rw [Bool.or_eq_true, decide_eq_true_eq, decide_eq_true_eq, not_or] at hself
    refine closesLine_append (fun d hd => ?_) k
    obtain rfl := List.mem_singleton.mp hd
    exact ⟨hself.1, hself.2, hnewline⟩
  · exact hnumber 'x' 2
  · exact hnumber 'u' 4
  · exact hnumber 'U' 8

/-- **A quoted text is a closed literal**, whatever it quotes. -/
lemma isClosedLiteral_quoted (t : Text) : isClosedLiteral (quoted t) = true := by
  have hmark := isQuote_quoteMark t
  have hcloses (t' : Text) :
      closesLine (quoteMark t) (t'.flatMap (escapedChar (quoteMark t)) ++ [quoteMark t]) = true := by
    induction t' with
    | nil => exact closesLine_mark hmark
    | cons c t' ih => rw [List.flatMap_cons, List.append_assoc, closesLine_escapedChar hmark, ih]
  refine isClosedLiteral_of_closesLine hmark (fun c hc => ?_) (hcloses t)
  cases t with
  | nil => cases hc
  | cons d t =>
      obtain ⟨e, rest, heq, hne⟩ := exists_escapedChar_eq hmark d
      rw [List.flatMap_cons, heq] at hc
      obtain rfl : e = c := Option.some_inj.mp hc
      exact hne

end Text

/-! ## No blanks at the ends -/

/-- The text begins and ends with characters that are no blanks. -/
def Tight (t : Text) : Prop :=
  (∃ c rest, t = c :: rest ∧ Text.isBlank c = false) ∧
    ∃ rest c, t = rest ++ [c] ∧ Text.isBlank c = false

namespace Tight

variable {a b t : Text}

lemma trim_eq (h : Tight t) : t.trim = t := by
  obtain ⟨⟨c, rest, heq, hc⟩, init, d, heq', hd⟩ := h
  rw [Text.trim, heq, Text.trimLeft_cons_of_not_isBlank hc, ← heq, heq', Text.trimRight_concat hd]

lemma isBlankText_eq (h : Tight t) : t.isBlankText = false := by
  obtain ⟨⟨c, rest, rfl, hc⟩, -⟩ := h
  rw [Text.isBlankText, List.all_cons, hc, Bool.false_and]

lemma of_forall (hne : t ≠ []) (h : ∀ c ∈ t, Text.isBlank c = false) : Tight t := by
  refine ⟨?_, ?_⟩
  · obtain ⟨c, rest, rfl⟩ := List.exists_cons_of_ne_nil hne
    exact ⟨c, rest, rfl, h c List.mem_cons_self⟩
  · exact ⟨t.dropLast, t.getLast hne, (List.dropLast_concat_getLast hne).symm,
      h _ (List.getLast_mem hne)⟩

lemma enclosed {c d : Char} (hc : Text.isBlank c = false) (hd : Text.isBlank d = false) (t : Text) :
    Tight (c :: (t ++ [d])) :=
  ⟨⟨c, _, rfl, hc⟩, c :: t, d, rfl, hd⟩

lemma append (ha : Tight a) (hb : Tight b) (k : Text) : Tight (a ++ (k ++ b)) := by
  obtain ⟨⟨c, rest, rfl, hc⟩, -⟩ := ha
  obtain ⟨-, init, d, rfl, hd⟩ := hb
  refine ⟨⟨c, _, rfl, hc⟩, c :: rest ++ (k ++ init), d, ?_, hd⟩
  simp only [List.append_assoc]

lemma join (sep : Text) {parts : List Text} (hne : parts ≠ []) (h : ∀ part ∈ parts, Tight part) :
    Tight (Text.join sep parts) := by
  induction parts with
  | nil => exact absurd rfl hne
  | cons part parts ih =>
      rw [List.forall_mem_cons] at h
      cases parts with
      | nil => exact h.1
      | cons other parts =>
          rw [join_cons _ _ (List.cons_ne_nil _ _)]
          exact h.1.append (ih (List.cons_ne_nil _ _) h.2) sep

end Tight

/-! ## Texts that no comma cuts -/

/-- The text is read as these pieces, whatever follows it, there is no comment among them, and no comma
cuts them within so many brackets or more. -/
structure ReadUncut (least : Int) (t : Text) (ps : List Piece) : Prop where
  /-- The pieces are read. -/
  ofText : ∀ k, startsQuote k = false → Piece.ofText (t ++ k) = ps ++ Piece.ofText k
  /-- None of them is a comment. -/
  isComment : ∀ x ∈ ps, x.isComment = false
  /-- They belong to the part that begins before them. -/
  splitPieces : ∀ depth, least ≤ depth → ∀ qs,
    splitPieces ',' depth (ps ++ qs) = prepend t (splitPieces ',' depth qs)

/-- Within so many brackets or more the text is read as a whole. -/
def Uncut (least : Int) (t : Text) : Prop := ∃ ps, ReadUncut least t ps

namespace Uncut

variable {least : Int} {a b t : Text}

lemma nil (least : Int) : Uncut least [] :=
  ⟨[], fun _ _ => rfl, nofun, fun _ _ _ => (prepend_nil (splitPieces_ne_nil _ _ _)).symm⟩

lemma mono {least' : Int} (hle : least ≤ least') (h : Uncut least t) : Uncut least' t := by
  obtain ⟨ps, h⟩ := h
  exact ⟨ps, h.ofText, h.isComment, fun depth hdepth => h.splitPieces depth (Int.le_trans hle hdepth)⟩

lemma append (ha : Uncut least a) (hb : Uncut least b) (hquote : startsQuote b = false) :
    Uncut least (a ++ b) := by
  obtain ⟨ps, ha⟩ := ha
  obtain ⟨qs, hb⟩ := hb
  refine ⟨ps ++ qs, fun k hk => ?_, List.forall_mem_append.mpr ⟨ha.isComment, hb.isComment⟩,
    fun depth hdepth rest => ?_⟩
  · rw [List.append_assoc, ha.ofText _ (startsQuote_append hquote hk), hb.ofText k hk,
      List.append_assoc]
  · rw [List.append_assoc, ha.splitPieces depth hdepth, hb.splitPieces depth hdepth, prepend_append]

/-- Plain characters may stand before every text. -/
lemma plains_append (ha : ∀ c ∈ a, isPlain c = true) (hcomma : 0 < least ∨ ',' ∉ a)
    (h : Uncut least t) : Uncut least (a ++ t) := by
  obtain ⟨ps, h⟩ := h
  refine ⟨a.map .code ++ ps, fun k hk => ?_, fun x hx => ?_, fun depth hdepth rest => ?_⟩
  · rw [List.append_assoc, ofText_plains ha, h.ofText k hk, List.append_assoc]
  · rcases List.mem_append.mp hx with hx | hx
    · obtain ⟨c, -, rfl⟩ := List.mem_map.mp hx
      rfl
    · exact h.isComment x hx
  · rw [List.append_assoc,
      splitPieces_codes ha (hcomma.imp_left fun hleast => Int.lt_of_lt_of_le hleast hdepth),
      h.splitPieces depth hdepth, prepend_append]

lemma plains (ht : ∀ c ∈ t, isPlain c = true) (hcomma : 0 < least ∨ ',' ∉ t) : Uncut least t := by
  have h := plains_append ht hcomma (nil least)
  rwa [List.append_nil] at h

lemma literal (h : isClosedLiteral t = true) (least : Int) : Uncut least t := by
  refine ⟨[.literal t false], fun k hk => ofText_literal h hk, fun x hx => ?_,
    fun depth _ qs => splitPieces_literal t qs⟩
  rw [List.mem_singleton.mp hx]
  rfl

/-- **In brackets commas do not cut.** -/
lemma group (bracket : Bracket) (h : Uncut (least + 1) t) :
    Uncut least (bracket.opener :: (t ++ [bracket.closer])) := by
  obtain ⟨ps, h⟩ := h
  refine ⟨.code bracket.opener :: (ps ++ [.code bracket.closer]), fun k hk => ?_, fun x hx => ?_,
    fun depth hdepth qs => ?_⟩
  · have hclose : startsQuote (bracket.closer :: k) = false := by cases bracket <;> rfl
    rw [List.cons_append, ofText_opener, List.append_assoc, List.singleton_append, h.ofText _ hclose,
      ofText_closer, List.cons_append, List.append_assoc]
    rfl
  · rw [List.mem_cons, List.mem_append, List.mem_singleton] at hx
    rcases hx with rfl | hx | rfl
    · rfl
    · exact h.isComment x hx
    · rfl
  · rw [List.cons_append, splitPieces_opener, List.append_assoc, List.singleton_append,
      h.splitPieces _ (Int.add_le_add_right hdepth 1), splitPieces_closer, ← prepend_append,
      ← prepend_append]
    rfl

/-- Texts with commas between them, in brackets. -/
lemma join {parts : List Text} (h : ∀ part ∈ parts, Uncut 1 part) :
    Uncut 1 (Text.join ", ".toList parts) := by
  induction parts with
  | nil => exact nil 1
  | cons part parts ih =>
      rw [List.forall_mem_cons] at h
      cases parts with
      | nil => exact h.1
      | cons other parts =>
          rw [join_cons _ _ (List.cons_ne_nil _ _)]
          exact h.1.append (plains_append (List.all_eq_true.mp rfl) (.inl Int.zero_lt_one) (ih h.2)) rfl

/-- **Texts with commas between them are cut there.** -/
lemma splitTopLevel_join {parts : List Text} (h : Uncut 0 t) (hparts : ∀ part ∈ parts, Uncut 0 part) :
    splitTopLevel ',' (Text.join ", ".toList (t :: parts)) = t :: parts.map (' ' :: ·) := by
  induction parts generalizing t with
  | nil =>
      obtain ⟨ps, h⟩ := h
      have hread := h.ofText [] rfl
      rw [List.append_nil] at hread
      rw [splitTopLevel, Text.join, hread, h.splitPieces 0 (Int.le_refl 0), Piece.ofText]
      exact congrArg (fun part => [part]) (List.append_nil t)
  | cons other parts ih =>
      rw [List.forall_mem_cons] at hparts
      have ih := ih hparts.1 hparts.2
      obtain ⟨ps, h⟩ := h
      rw [join_cons _ _ (List.cons_ne_nil _ _), splitTopLevel, h.ofText _ rfl,
        h.splitPieces 0 (Int.le_refl 0)]
      show prepend t (FormulaCube.splitPieces ',' 0 (Piece.ofText (',' :: ' ' ::
        Text.join ", ".toList (other :: parts)))) = _
      rw [ofText_plain rfl, ofText_plain rfl]
      show prepend t ([] :: prepend [' ']
        (splitTopLevel ',' (Text.join ", ".toList (other :: parts)))) = _
      rw [ih]
      exact congrArg (· :: _) (List.append_nil t)

lemma withoutComments_eq (h : Uncut least t) : withoutComments t = t := by
  obtain ⟨ps, h⟩ := h
  have hread := h.ofText [] rfl
  rw [List.append_nil, Piece.ofText, List.append_nil] at hread
  have hfilter : ps.filter (!·.isComment) = ps :=
    List.filter_eq_self.mpr fun x hx => by rw [h.isComment x hx]; rfl
  rw [FormulaCube.withoutComments_eq, hread, hfilter, ← hread, textOf_ofText]

end Uncut

/-! ## Numbers and names -/

/-- A character of numbers and names. -/
def isTokenChar (c : Char) : Bool := Rule.isNamePart c || c = '+' || c = '-'

lemma of_isTokenChar {c : Char} (h : isTokenChar c = true) :
    isPlain c = true ∧ Text.isBlank c = false ∧ c ≠ ',' := by
  rw [isTokenChar, Bool.or_eq_true, Bool.or_eq_true, decide_eq_true_eq, decide_eq_true_eq] at h
  rcases h with (h | rfl) | rfl
  · refine ⟨isPlain_of_isNamePart h, not_isBlank_of_isNamePart h, ?_⟩
    rintro rfl
    cases h
  · decide
  · decide

lemma isTokenChar_of_isAsciiWord {c : Char} (h : Text.isAsciiWord c = true) :
    isTokenChar c = true := by
  rw [isTokenChar, isNamePart_of_isAsciiWord h]
  rfl

/-- The text of an item: it is read as a whole, and no blanks are at its ends. -/
def IsItem (t : Text) : Prop := Uncut 0 t ∧ Tight t

lemma isItem_token {t : Text} (hne : t ≠ []) (h : t.all isTokenChar = true) : IsItem t := by
  have hchar (c : Char) (hc : c ∈ t) := of_isTokenChar (List.all_eq_true.mp h c hc)
  exact ⟨.plains (fun c hc => (hchar c hc).1) (.inr fun hc => (hchar _ hc).2.2 rfl),
    .of_forall hne fun c hc => (hchar c hc).2.1⟩

lemma isItem_quoted (t : Text) : IsItem (Text.quoted t) := by
  have hmark := not_isBlank_of_isQuote (Text.isQuote_quoteMark t)
  exact ⟨.literal (Text.isClosedLiteral_quoted t) 0, .enclosed hmark hmark _⟩

lemma isItem_group (bracket : Bracket) {t : Text} (h : Uncut 1 t) :
    IsItem (bracket.opener :: (t ++ [bracket.closer])) :=
  ⟨.group bracket h, .enclosed (by cases bracket <;> rfl) (by cases bracket <;> rfl) t⟩

lemma all_isTokenChar_ofNat (n : Nat) : (Text.ofNat n).all isTokenChar = true :=
  List.all_eq_true.mpr fun _ hc => isTokenChar_of_isAsciiWord (Text.isAsciiWord_of_mem_ofNat hc)

lemma isItem_ofInt (i : Int) : IsItem (Text.ofInt i) := by
  cases i with
  | ofNat n => exact isItem_token Nat.toDigits_ne_nil (all_isTokenChar_ofNat n)
  | negSucc n =>
      refine isItem_token (List.cons_ne_nil _ _) ?_
      rw [Text.ofInt, List.all_cons, all_isTokenChar_ofNat]
      rfl

namespace Layout

variable {digits : Text}

lemma render_ne_nil (layout : Layout) (digits : Text) (point : Int) :
    layout.render digits point ≠ [] := by
  rw [render]
  split_ifs <;> simp

lemma all_isTokenChar_render (layout : Layout) (h : digits.all isTokenChar = true) (point : Int) :
    (layout.render digits point).all isTokenChar = true := by
  have hzeros (n : Nat) : (List.replicate n '0').all isTokenChar = true := by
    refine List.all_eq_true.mpr fun c hc => ?_
    rw [(List.mem_replicate.mp hc).2]
    rfl
  have htake (n : Nat) : (digits.take n).all isTokenChar = true :=
    List.all_eq_true.mpr fun c hc => List.all_eq_true.mp h c (List.mem_of_mem_take hc)
  have hdrop (n : Nat) : (digits.drop n).all isTokenChar = true :=
    List.all_eq_true.mpr fun c hc => List.all_eq_true.mp h c (List.mem_of_mem_drop hc)
  have hfraction (n : Nat) :
      (if (digits.drop n).isEmpty then ['0'] else digits.drop n).all isTokenChar = true := by
    split
    · rfl
    · exact hdrop n
  have hmore : (if digits.length ≤ 1 then [] else '.' :: digits.drop 1).all isTokenChar = true := by
    split
    · rfl
    · rw [List.all_cons, hdrop]
      rfl
  have hsign : isTokenChar (if point - 1 < 0 then '-' else '+') = true := by split <;> rfl
  rw [render]
  split
  · split
    · rw [List.all_cons, List.all_cons, List.all_append, hzeros, h]
      rfl
    · rw [List.all_append, List.all_append, List.all_cons, htake, hzeros, hfraction]
      rfl
  · simp only [List.all_append, List.all_cons, htake, hmore, hsign, hzeros, all_isTokenChar_ofNat]
    rfl

end Layout

namespace Text

lemma mem_of_mem_dropTailWhile {p : Char → Bool} {t : Text} {c : Char}
    (h : c ∈ dropTailWhile p t) : c ∈ t := by
  induction t with
  | nil => cases h
  | cons d t ih =>
      rw [dropTailWhile] at h
      split at h
      · split at h
        · cases h
        · rw [List.mem_singleton.mp h]
          exact List.mem_cons_self
      · rename_i e kept heq
        rcases List.mem_cons.mp h with rfl | h
        · exact List.mem_cons_self
        · exact List.mem_cons_of_mem _ (ih (heq ▸ h))

end Text

namespace Binary64

lemma all_isTokenChar_shortest (m : Nat) (q : Int) : (shortest m q).1.all isTokenChar = true := by
  refine List.all_eq_true.mpr fun c hc => ?_
  exact List.all_eq_true.mp (all_isTokenChar_ofNat _) c (Text.mem_of_mem_dropTailWhile hc)

lemma isItem_text (x : Binary64) : IsItem x.text := by
  rw [text]
  split
  · exact isItem_token (by decide) (by decide)
  · rename_i negative _
    cases negative <;> exact isItem_token (by decide) (by decide)
  · rename_i negative m q _
    have hbody :
        (if m = 0 then "0.0".toList else layout.render (shortest m q).1 (shortest m q).2) ≠ [] ∧
        (if m = 0 then "0.0".toList else layout.render (shortest m q).1 (shortest m q).2).all
          isTokenChar = true := by
      split
      · decide
      · exact ⟨Layout.render_ne_nil _ _ _,
          Layout.all_isTokenChar_render _ (all_isTokenChar_shortest m q) _⟩
    show IsItem (if negative then '-' :: _ else _)
    split
    · refine isItem_token (List.cons_ne_nil _ _) ?_
      rw [List.all_cons, hbody.2]
      rfl
    · exact isItem_token hbody.1 hbody.2

end Binary64

/-! ## Values -/

namespace Value

/-- The values that are written as literals and displays: no value, truth values, numbers and texts, and
lists, tuples and dictionaries of such values. -/
inductive IsData : Value → Prop
  | none : IsData .none
  | bool (b : Bool) : IsData (.bool b)
  | int (i : Int) : IsData (.int i)
  | float (x : Binary64) : IsData (.float x)
  | str (t : Text) : IsData (.str t)
  | list {items : List Value} (h : ∀ item ∈ items, IsData item) : IsData (.list items)
  | tuple {items : List Value} (h : ∀ item ∈ items, IsData item) : IsData (.tuple items)
  | dict {entries : List (Value × Value)} (hkeys : ∀ entry ∈ entries, IsData entry.1)
      (hvalues : ∀ entry ∈ entries, IsData entry.2) : IsData (.dict entries)

lemma shownAll_eq_map (items : List Value) : shownAll items = items.map shown := by
  induction items with
  | nil => rfl
  | cons item items ih => rw [shownAll, ih, List.map_cons]

lemma shownEntries_eq_map (entries : List (Value × Value)) :
    shownEntries entries =
      entries.map fun entry => shown entry.1 ++ (": ".toList ++ shown entry.2) := by
  induction entries with
  | nil => rfl
  | cons entry entries ih => rw [shownEntries, ih, List.map_cons, List.append_assoc]

lemma uncut_join_shownAll {items : List Value} (h : ∀ item ∈ items, IsItem item.shown) :
    Uncut 1 (Text.join ", ".toList (shownAll items)) := by
  refine .join fun part hpart => ?_
  rw [shownAll_eq_map] at hpart
  obtain ⟨item, hitem, rfl⟩ := List.mem_map.mp hpart
  exact (h item hitem).1.mono (by decide)

lemma uncut_join_shownEntries {entries : List (Value × Value)}
    (hkeys : ∀ entry ∈ entries, IsItem entry.1.shown)
    (hvalues : ∀ entry ∈ entries, IsItem entry.2.shown) :
    Uncut 1 (Text.join ", ".toList (shownEntries entries)) := by
  refine .join fun part hpart => ?_
  rw [shownEntries_eq_map] at hpart
  obtain ⟨entry, hentry, rfl⟩ := List.mem_map.mp hpart
  refine ((hkeys entry hentry).1.mono (by decide)).append ?_ rfl
  have hvalue : Uncut 1 entry.2.shown := (hvalues entry hentry).1.mono (by decide)
  exact .plains_append (List.all_eq_true.mp rfl) (.inr (by decide)) hvalue

/-- **The text of data is an item**: brackets, commas and colons of its own are enclosed. -/
lemma IsData.isItem {value : Value} (h : value.IsData) : IsItem value.shown := by
  induction h with
  | none => exact isItem_token (by decide) (by decide)
  | bool b => cases b <;> exact isItem_token (by decide) (by decide)
  | int i => exact isItem_ofInt i
  | float x => exact x.isItem_text
  | str t => exact isItem_quoted t
  | list _ ih => exact isItem_group .square (uncut_join_shownAll ih)
  | dict _ _ ihkeys ihvalues => exact isItem_group .curly (uncut_join_shownEntries ihkeys ihvalues)
  | @tuple items _ ih =>
      match items, ih with
      | [], _ => exact isItem_group .round (.nil 1)
      | [item], ih =>
          -- behind a single item stands a comma
          have hitem := ((ih item List.mem_cons_self).1.mono (by decide)).append
            (.plains (t := [',']) (List.all_eq_true.mp rfl) (.inl Int.zero_lt_one)) rfl
          have hgroup := isItem_group .round hitem
          rwa [List.append_assoc] at hgroup
      | item :: other :: items, ih => exact isItem_group .round (uncut_join_shownAll ih)

end Value

/-! ## Coordinates -/

/-- An entry whose axis is an ASCII name, which needs no marks, and whose value is data. -/
def IsPlainEntry (entry : Value × Value) : Prop :=
  (∃ name, entry.1 = .str name ∧ CoordinateEntry.isSimpleName name = true) ∧ entry.2.IsData

/-- What stands before the value of an entry, and the value. -/
def leadOf (before : Text) (entry : Value × Value) : EntryLead × Text :=
  (.keyed before (.name entry.1.display) [], ' ' :: entry.2.shown)

lemma leadOf_text (before : Text) (entry : Value × Value) :
    (leadOf before entry).1.text ++ (leadOf before entry).2 = before ++ Value.entryText entry := by
  simp only [leadOf, EntryLead.text, Axis.text, Value.entryText, List.append_assoc]
  rfl

namespace IsPlainEntry

variable {entry : Value × Value}

lemma wellFormed_leadOf (h : IsPlainEntry entry) {before : Text} (hbefore : before.isBlankText = true) :
    (leadOf before entry).1.WellFormed ∧ (leadOf before entry).2.isBlankText = false := by
  obtain ⟨⟨name, hname, hsimple⟩, hvalue⟩ := h
  refine ⟨⟨hbefore, ?_, rfl⟩, ?_⟩
  · rw [hname]
    exact hsimple
  · exact hvalue.isItem.2.isBlankText_eq

/-- The axis is quoted, and the value stays. -/
lemma display_leadOf (h : IsPlainEntry entry) (before : Text) :
    (leadOf before entry).1.display (leadOf before entry).2 =
      entry.1.shown ++ (": ".toList ++ entry.2.shown) := by
  obtain ⟨⟨name, hname, hsimple⟩, hvalue⟩ := h
  have htrim : Text.trim (' ' :: entry.2.shown) = entry.2.shown := hvalue.isItem.2.trim_eq
  rw [leadOf, EntryLead.display, htrim, hname]
  exact congrArg (· ++ _) (quoted_of_isNamePart (Axis.isNamePart_of_isSimpleName hsimple)).symm

lemma isItem_entryText (h : IsPlainEntry entry) : IsItem (Value.entryText entry) := by
  obtain ⟨⟨name, hname, hsimple⟩, hvalue⟩ := h
  have hpart := Axis.isNamePart_of_isSimpleName hsimple
  have hne : name ≠ [] := by
    rintro rfl
    cases hsimple
  rw [Value.entryText, hname, List.append_assoc]
  refine ⟨.plains_append (fun c hc => isPlain_of_isNamePart (hpart c hc)) (.inr ?_)
    (.plains_append (List.all_eq_true.mp rfl) (.inr (by decide)) hvalue.isItem.1), ?_⟩
  · exact not_mem_of_isSimpleName rfl hsimple
  · exact (Tight.of_forall hne fun c hc => not_isBlank_of_isNamePart (hpart c hc)).append
      hvalue.isItem.2 _

end IsPlainEntry

/-- All entries; behind a comma a blank stands before the axis. -/
def leadsOf : List (Value × Value) → List (EntryLead × Text)
  | [] => []
  | entry :: entries => leadOf [] entry :: entries.map (leadOf [' '])

section Entries

variable {entries : List (Value × Value)}

lemma wellFormed_leadsOf (h : ∀ entry ∈ entries, IsPlainEntry entry) :
    ∀ lead ∈ leadsOf entries, lead.1.WellFormed ∧ lead.2.isBlankText = false := by
  cases entries with
  | nil => nofun
  | cons entry entries =>
      rw [List.forall_mem_cons] at h
      refine List.forall_mem_cons.mpr ⟨h.1.wellFormed_leadOf rfl, fun lead hlead => ?_⟩
      obtain ⟨other, hother, rfl⟩ := List.mem_map.mp hlead
      exact (h.2 other hother).wellFormed_leadOf rfl

lemma display_leadsOf (h : ∀ entry ∈ entries, IsPlainEntry entry) :
    (leadsOf entries).map (fun lead => lead.1.display lead.2) = Value.shownEntries entries := by
  cases entries with
  | nil => rfl
  | cons entry entries =>
      rw [List.forall_mem_cons] at h
      rw [leadsOf, List.map_cons, List.map_map, h.1.display_leadOf, Value.shownEntries_eq_map,
        List.map_cons]
      exact congrArg (_ :: ·)
        (List.map_congr_left fun other hother => (h.2 other hother).display_leadOf [' '])

lemma isItem_of_mem_map_entryText (h : ∀ entry ∈ entries, IsPlainEntry entry) :
    ∀ part ∈ entries.map Value.entryText, IsItem part := by
  intro part hpart
  obtain ⟨entry, hentry, rfl⟩ := List.mem_map.mp hpart
  exact (h entry hentry).isItem_entryText

/-- **A written coordinate is cut at the commas between its entries**, and nothing is taken away. -/
lemma splitTopLevel_coordinateText (hne : entries ≠ []) (h : ∀ entry ∈ entries, IsPlainEntry entry) :
    splitTopLevel ',' (withoutComments (Value.dict entries).coordinateText).trim =
      (leadsOf entries).map fun lead => lead.1.text ++ lead.2 := by
  have hparts := isItem_of_mem_map_entryText h
  have huncut : Uncut 1 (Value.dict entries).coordinateText :=
    .join fun part hpart => (hparts part hpart).1.mono (by decide)
  have htight : Tight (Value.dict entries).coordinateText :=
    .join _ (by rwa [Ne, List.map_eq_nil_iff]) fun part hpart => (hparts part hpart).2
  rw [huncut.withoutComments_eq, htight.trim_eq]
  obtain ⟨entry, entries, rfl⟩ := List.exists_cons_of_ne_nil hne
  rw [List.map_cons, List.forall_mem_cons] at hparts
  refine (Uncut.splitTopLevel_join hparts.1.1 fun part hpart => (hparts.2 part hpart).1).trans ?_
  rw [leadsOf, List.map_cons, leadOf_text, List.map_map, List.map_map]
  exact congrArg (_ :: ·) (List.map_congr_left fun other _ => (leadOf_text [' '] other).symm)

end Entries

/-- **A written coordinate reads back as the dictionary** that it was written from. The empty coordinate
reads as the empty dictionary. -/
theorem coordinateLiteral_coordinateText (entries : List (Value × Value))
    (h : ∀ entry ∈ entries, IsPlainEntry entry) (position : Int) :
    coordinateLiteral (Value.dict entries).coordinateText position =
        .ok (Value.dict entries).shown ∧
      (entries = [] → (Value.dict entries).shown = "\x7b\x7d".toList) := by
  refine ⟨?_, fun hnil => by rw [hnil]; rfl⟩
  by_cases hne : entries = []
  · rw [hne, coordinateLiteral, Value.coordinateText, List.map_nil, Text.join, withoutComments_nil]
    rfl
  · have hleads : leadsOf entries ≠ [] := by
      obtain ⟨entry, entries, rfl⟩ := List.exists_cons_of_ne_nil hne
      exact List.cons_ne_nil _ _
    rw [EntryLead.coordinateLiteral_entries hleads (wellFormed_leadsOf h)
      (splitTopLevel_coordinateText hne h), display_leadsOf h]
    rfl

/-! ## What cannot be written -/

namespace Value

/-- What can be written can be written where things may be nested deeper. -/
lemma obstacleWithin_succ {depth : Nat} {value : Value} (h : value.obstacleWithin depth = Option.none) :
    value.obstacleWithin (depth + 1) = Option.none := by
  induction depth generalizing value with
  | zero => cases h
  | succ depth ih =>
      cases value with
      | list items | tuple items | set items =>
          rw [obstacleWithin, List.findSome?_eq_none_iff] at h ⊢
          exact fun item hitem => ih (h item hitem)
      | dict entries =>
          rw [obstacleWithin, List.findSome?_eq_none_iff] at h ⊢
          intro entry hentry
          obtain ⟨hkey, hvalue⟩ := Option.or_eq_none_iff.mp (h entry hentry)
          exact Option.or_eq_none_iff.mpr ⟨ih hkey, ih hvalue⟩
      | frame name input =>
          rw [obstacleWithin] at h ⊢
          obtain ⟨hname, hinput⟩ := Option.or_eq_none_iff.mp h
          exact Option.or_eq_none_iff.mpr ⟨ih hname, ih hinput⟩
      | _ => exact h

lemma textUnless_eq_ok {obstacle : Option Fault} {t r : Text} (h : textUnless obstacle t = .ok r) :
    obstacle = Option.none ∧ t = r := by
  cases obstacle with
  | none => exact ⟨rfl, Except.ok.inj h⟩
  | some f => cases h

/-- **What can be written as a value can be written as a coordinate**, which is nested one level less. -/
lemma formatted_of_written {entries : List (Value × Value)} {r : Text}
    (haxes : ∀ entry ∈ entries, ∃ name, entry.1 = .str name) (h : (dict entries).written = .ok r) :
    (dict entries).formatted = .ok (dict entries).coordinateText ∧ (dict entries).shown = r := by
  obtain ⟨hnone, hshown⟩ := textUnless_eq_ok h
  have hobstacle : (dict entries).coordinateObstacle? = Option.none := by
    rw [coordinateObstacle?, List.findSome?_eq_none_iff]
    intro entry hentry
    have hentries : entries.findSome? (fun entry => (obstacleWithin 999 entry.1).or
        (obstacleWithin 999 entry.2)) = Option.none := hnone
    rw [List.findSome?_eq_none_iff] at hentries
    obtain ⟨-, hvalue⟩ := Option.or_eq_none_iff.mp (hentries entry hentry)
    obtain ⟨name, hname⟩ := haxes entry hentry
    rw [hname]
    exact Option.or_eq_none_iff.mpr ⟨rfl, obstacleWithin_succ hvalue⟩
  refine ⟨?_, hshown⟩
  rw [formatted, hobstacle]
  rfl

end Value

/-- Commas, colons, brackets, marks and number signs at several depths. -/
def tangled : List (Value × Value) :=
  [(.str "a".toList,
      .list [.int (-1), .float ⟨0x3FE0000000000000⟩, .tuple [.str "it's, \x7b".toList]]),
    (.str "_b1".toList, .dict [(.str "x: #\n".toList, .none), (.tuple [], .str "\"'\\".toList)]),
    (.str "c".toList, .str [])]

/-- The text of the dictionary. -/
def tangledText : Text :=
  "\x7b'a': [-1, 0.5, (\"it's, \x7b\",)], ".toList ++
    "'_b1': \x7b'x: #\\n': None, (): '\"\\'\\\\'\x7d, 'c': ''\x7d".toList

end FormulaCube
