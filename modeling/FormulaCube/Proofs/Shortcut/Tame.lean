import Mathlib.Algebra.GroupWithZero.Nat
import FormulaCube.Proofs.Shortcut.Heads
import FormulaCube.Proofs.Shortcut.Display

/-!
# What a coordinate keeps

`coordinateLiteral` drops comments and blanks, cuts a coordinate at its commas and colons, and puts
the parts together again. None of this brings a sigil and a parenthesis together that were not
together before.

* `Tame` — a text has no more sigils than another, and no heads with other names.
* `tame_withoutComments`, `tame_trim` — texts from which something is dropped.
* `tame_coordinateLiteral` — the main result.
-/

namespace FormulaCube

/-! ## Names in heads -/

/-- The names in the heads of the text have the property, wherever in source the text stands. -/
def HeadNames (p : Option Text → Prop) (t : Text) : Prop :=
  EveryHead (fun _ _ name => p name) none t

namespace HeadNames

variable {p : Option Text → Prop} {prev : Option Char} {a b t : Text}

lemma everyHead (h : HeadNames p t) (prev : Option Char) :
    EveryHead (fun _ _ name => p name) prev t :=
  EveryHead.of_prev h rfl fun _ _ hname => hname

lemma of_everyHead (h : EveryHead (fun _ _ name => p name) prev t)
    (hprev : Rule.mayPrecede prev = true) : HeadNames p t :=
  h.of_prev hprev fun _ _ hname => hname

lemma of_not_isSigil (h : ∀ c ∈ t, isSigil c = false) : HeadNames p t :=
  EveryHead.of_not_isSigil h

lemma left (h : HeadNames p (a ++ b)) : HeadNames p a := EveryHead.append_left h

/-- A text may be cut behind a character that is no part of a word. -/
lemma right {c : Char} (hc : Text.isAsciiWord c = false) (h : HeadNames p (a ++ c :: b)) :
    HeadNames p b := by
  have hright := (EveryHead.append_right h).2
  exact of_everyHead hright (mayPrecede_of_not_isAsciiWord hc)

/-- Texts may be put one after the other where no name goes on. -/
lemma append (h : HeadNames p a) (h' : HeadNames p b)
    (hb : ∀ c ∈ b.head?, Rule.isNamePart c = false ∧ c ≠ '(') : HeadNames p (a ++ b) :=
  EveryHead.append_of_not_isNamePart h (h'.everyHead _) hb

/-- A character without a sigil may be put before a text. -/
lemma cons {c : Char} (hc : isSigil c = false) (h : HeadNames p t) : HeadNames p (c :: t) := by
  refine ⟨fun _ rule name after hhead => ?_, h.everyHead _⟩
  rw [Rule.headHere?_of_not_isSigil hc] at hhead
  cases hhead

end HeadNames

/-! ## Sigils -/

lemma sigilCount_append (a b : Text) : sigilCount (a ++ b) = sigilCount a + sigilCount b :=
  List.countP_append

lemma sigilCount_eq_zero {t : Text} (h : ∀ c ∈ t, isSigil c = false) : sigilCount t = 0 := by
  rw [sigilCount, List.countP_eq_zero]
  intro c hc
  rw [h c hc]
  exact Bool.false_ne_true

/-! ## Tame texts -/

/-- The text `u` has no more sigils than `t`, and no heads with other names. -/
structure Tame (t u : Text) : Prop where
  /-- There are no more sigils. -/
  sigils : sigilCount u ≤ sigilCount t
  /-- What all names in heads have in common stays so. -/
  names : ∀ p, HeadNames p t → HeadNames p u

namespace Tame

variable {t u v : Text}

lemma refl (t : Text) : Tame t t := ⟨Nat.le_refl _, fun _ h => h⟩

lemma trans (h : Tame t u) (h' : Tame u v) : Tame t v :=
  ⟨Nat.le_trans h'.sigils h.sigils, fun p hp => h'.names p (h.names p hp)⟩

/-- A text without sigils is tame. -/
lemma of_not_isSigil (h : ∀ c ∈ u, isSigil c = false) (t : Text) : Tame t u :=
  ⟨by rw [sigilCount_eq_zero h]; exact Nat.zero_le _, fun _ _ => .of_not_isSigil h⟩

end Tame

/-! ## Blanks -/

lemma tame_trimLeft (t : Text) : Tame t t.trimLeft := by
  induction t with
  | nil => exact .refl _
  | cons c t ih =>
      cases hc : Text.isBlank c with
      | false => rw [Text.trimLeft_cons_of_not_isBlank hc]; exact .refl _
      | true =>
          rw [Text.trimLeft_cons_of_isBlank hc]
          have hword : Text.isAsciiWord c = false := by
            rw [← Bool.not_eq_true]
            intro hword
            rw [not_isBlank_of_isNamePart (isNamePart_of_isAsciiWord hword)] at hc
            cases hc
          refine Tame.trans ⟨?_, fun p hp => ?_⟩ ih
          · exact (List.sublist_cons_self c t).countP_le
          · exact HeadNames.right (a := []) hword hp

lemma trimRight_prefix (t : Text) : ∃ k, t = t.trimRight ++ k := by
  induction t with
  | nil => exact ⟨[], rfl⟩
  | cons c t ih =>
      obtain ⟨k, hk⟩ := ih
      rw [Text.trimRight_cons]
      split
      · rename_i hnil
        split
        · exact ⟨c :: t, rfl⟩
        · exact ⟨t, rfl⟩
      · exact ⟨k, congrArg (c :: ·) hk⟩

lemma tame_trimRight (t : Text) : Tame t t.trimRight := by
  obtain ⟨k, hk⟩ := trimRight_prefix t
  refine ⟨?_, fun p hp => ?_⟩
  · have hcount := congrArg sigilCount hk
    rw [sigilCount_append] at hcount
    omega
  · rw [hk] at hp
    exact hp.left

/-- Blanks around a text do not matter. -/
lemma tame_trim (t : Text) : Tame t t.trim := (tame_trimLeft t).trans (tame_trimRight _)

/-! ## Comments -/

lemma withoutComments_comment (rest : Text) : withoutComments ('#' :: rest) =
    withoutComments (rest.dropWhile Piece.inComment) := by
  rw [withoutComments, Piece.ofText, if_pos rfl, List.flatMap_cons]
  rfl

lemma withoutComments_literal {c : Char} (hhash : ¬ c = '#') (hquote : Text.isQuote c = true)
    (rest : Text) :
    withoutComments (c :: rest) = c :: ((Piece.closeLiteral c rest).1 ++
      withoutComments (Piece.closeLiteral c rest).2.1) := by
  rw [withoutComments, Piece.ofText, if_neg hhash, if_pos hquote, List.flatMap_cons]
  rfl

lemma withoutComments_code {c : Char} (hhash : ¬ c = '#') (hquote : ¬ Text.isQuote c = true)
    (rest : Text) :
    withoutComments (c :: rest) = c :: withoutComments rest := by
  rw [withoutComments, Piece.ofText, if_neg hhash, if_neg hquote, List.flatMap_cons]
  rfl

lemma withoutComments_dropWhile (rest : Text) :
    withoutComments (rest.dropWhile Piece.inComment) = [] ∨
      ∃ t, withoutComments (rest.dropWhile Piece.inComment) = '\n' :: t := by
  rcases dropWhile_inComment rest with hdrop | ⟨t, hdrop⟩
  · exact Or.inl (by rw [hdrop, withoutComments_nil])
  · exact Or.inr ⟨withoutComments t, by rw [hdrop, withoutComments_code (by decide) (by decide)]⟩

/-- What is left of a text begins with a name and a parenthesis only if the text does. -/
lemma name_of_withoutComments {t y after : Text} (hy : ∀ c ∈ y, Rule.isNamePart c = true)
    (h : withoutComments t = y ++ '(' :: after) : ∃ after', t = y ++ '(' :: after' := by
  have hhead {c : Char} {k y : Text} (hy : ∀ d ∈ y, Rule.isNamePart d = true)
      (hk : c :: k = y ++ '(' :: after) : Rule.isNamePart c = true ∨ c = '(' := by
    cases y with
    | nil => exact Or.inr (List.cons.inj hk).1
    | cons d y => exact Or.inl ((List.cons.inj hk).1 ▸ hy d List.mem_cons_self)
  fun_induction Piece.ofText t generalizing y with
  | case1 =>
      rw [withoutComments_nil] at h
      exact absurd h.symm (List.append_ne_nil_of_right_ne_nil _ (List.cons_ne_nil _ _))
  | case2 rest ih =>
      rw [withoutComments_comment] at h
      rcases withoutComments_dropWhile rest with hnil | ⟨t, ht⟩
      · rw [hnil] at h
        exact absurd h.symm (List.append_ne_nil_of_right_ne_nil _ (List.cons_ne_nil _ _))
      · rw [ht] at h
        rcases hhead hy h with hc | hc <;> cases hc
  | case3 c rest hhash hquote ih =>
      rw [withoutComments_literal hhash hquote] at h
      rcases hhead hy h with hc | rfl
      · rw [not_isQuote_of_isPlain (isPlain_of_isNamePart hc)] at hquote
        cases hquote
      · cases hquote
  | case4 c rest hhash hquote ih =>
      rw [withoutComments_code hhash hquote] at h
      cases y with
      | nil => exact ⟨rest, by rw [(List.cons.inj h).1]; rfl⟩
      | cons d y =>
          obtain ⟨rfl, hrest⟩ := List.cons.inj h
          obtain ⟨after', hafter⟩ := ih (fun e he => hy e (List.mem_cons_of_mem _ he)) hrest
          exact ⟨after', congrArg (c :: ·) hafter⟩

/-- The heads that are left were there before. -/
lemma everyHead_withoutComments {p : Rule → Option Char → Option Text → Prop} {prev : Option Char}
    {t : Text} (h : EveryHead p prev t) : EveryHead p prev (withoutComments t) := by
  fun_induction Piece.ofText t generalizing prev with
  | case1 =>
      rw [withoutComments_nil]
      trivial
  | case2 rest ih =>
      rw [withoutComments_comment]
      rw [← List.takeWhile_append_dropWhile (p := Piece.inComment) (l := rest),
        ← List.cons_append] at h
      have ih := ih h.append_right
      rcases withoutComments_dropWhile rest with hnil | ⟨t, ht⟩
      · rw [hnil]
        trivial
      · rw [ht] at ih ⊢
        exact ih.of_cons_not_isSigil rfl
  | case3 c rest hhash hquote ih =>
      rw [withoutComments_literal hhash hquote]
      rw [← Piece.closeLiteral_append c rest, ← List.cons_append] at h
      exact h.replace (fun y after hy => name_of_withoutComments hy) (ih h.append_right)
  | case4 c rest hhash hquote ih =>
      rw [withoutComments_code hhash hquote]
      exact EveryHead.replace (a := [c]) h (fun y after hy => name_of_withoutComments hy) (ih h.2)

lemma withoutComments_sublist (t : Text) : (withoutComments t).Sublist t := by
  have hpieces (ps : List Piece) :
      (ps.flatMap Piece.uncommented).Sublist (ps.flatMap Piece.text) := by
    induction ps with
    | nil => exact List.Sublist.refl _
    | cons piece ps ih =>
        have hpiece : piece.uncommented.Sublist piece.text := by
          cases piece with
          | comment body => exact List.nil_sublist _
          | code c => exact List.Sublist.refl _
          | literal body cut => exact List.Sublist.refl _
        exact hpiece.append ih
  have hwhole := hpieces (Piece.ofText t)
  rwa [Piece.flatMap_text_ofText] at hwhole

/-- Comments do not matter. -/
lemma tame_withoutComments (t : Text) : Tame t (withoutComments t) :=
  ⟨(withoutComments_sublist t).countP_le, fun _ hp => everyHead_withoutComments hp⟩

/-! ## Parts -/

/-- Sigils are in the parts, not between them. -/
lemma sigilCount_join {sep : Text} (hsep : sigilCount sep = 0) (parts : List Text) :
    sigilCount (Text.join sep parts) = (parts.map sigilCount).sum := by
  induction parts with
  | nil => rfl
  | cons part parts ih =>
      cases parts with
      | nil => rfl
      | cons other parts =>
          rw [join_cons _ _ (List.cons_ne_nil _ _), sigilCount_append, sigilCount_append, hsep, ih,
            Nat.zero_add]
          rfl

lemma sum_sigilCount_filter_le (q : Text → Bool) (parts : List Text) :
    ((parts.filter q).map sigilCount).sum ≤ (parts.map sigilCount).sum := by
  induction parts with
  | nil => exact Nat.le_refl _
  | cons part parts ih =>
      rw [List.filter_cons, List.map_cons, List.sum_cons]
      split
      · exact Nat.add_le_add_left ih _
      · exact Nat.le_trans ih (Nat.le_add_left _ _)

/-- The names in a text are those in its parts. -/
lemma headNames_of_mem_join {p : Option Text → Prop} {sep : Char}
    (hsep : Text.isAsciiWord sep = false) {parts : List Text}
    (h : HeadNames p (Text.join [sep] parts)) :
    ∀ part ∈ parts, HeadNames p part := by
  induction parts with
  | nil => intro part hpart; cases hpart
  | cons first parts ih =>
      cases parts with
      | nil =>
          intro part hpart
          rwa [List.mem_singleton.mp hpart]
      | cons other parts =>
          rw [join_cons _ _ (List.cons_ne_nil _ _)] at h
          intro part hpart
          rcases List.mem_cons.mp hpart with rfl | hpart
          · exact h.left
          · exact ih (HeadNames.right hsep h) part hpart

/-- Parts that are joined with a comma and a blank bring no names. -/
lemma headNames_join {p : Option Text → Prop} {parts : List Text}
    (h : ∀ part ∈ parts, HeadNames p part) : HeadNames p (Text.join ", ".toList parts) := by
  have hcomma : ", ".toList = [',', ' '] := by simp
  rw [hcomma]
  induction parts with
  | nil => trivial
  | cons part parts ih =>
      have hpart := h part List.mem_cons_self
      have ih := ih fun other hother => h other (List.mem_cons_of_mem _ hother)
      cases parts with
      | nil => exact hpart
      | cons other parts =>
          rw [join_cons _ _ (List.cons_ne_nil _ _)]
          refine hpart.append (.cons rfl (.cons rfl ih)) fun c hc => ?_
          obtain rfl := Option.some_inj.mp hc
          exact ⟨rfl, by decide⟩

/-! ## Entries -/

lemma join_splitTopLevel (sep : Char) (t : Text) : Text.join [sep] (splitTopLevel sep t) = t := by
  rw [splitTopLevel, join_splitPieces, Piece.flatMap_text_ofText]

namespace CoordinateEntry

/-- An axis is written as it was, or it is a name between apostrophes. -/
lemma tame_axis? {key axis : Text} (h : axis? key = some axis) : Tame key axis := by
  simp only [axis?] at h
  split at h
  · rename_i hname
    obtain rfl := Option.some_inj.mp h
    rw [quoted_of_isNamePart (Axis.isNamePart_of_isSimpleName hname)]
    refine .of_not_isSigil (fun c hc => ?_) _
    simp only [List.mem_cons, List.mem_append, List.not_mem_nil, or_false] at hc
    rcases hc with rfl | hc | rfl
    · rfl
    · exact not_isSigil_of_isPlain (Axis.isPlain_of_isSimpleName hname c hc)
    · rfl
  · split at h
    · obtain rfl := Option.some_inj.mp h
      exact tame_trim key
    · cases h

/-- An axis and a value are put together as they were. -/
lemma tame_keyed {key axis value value' : Text} (haxis : Tame key axis)
    (hvalue : Tame value value') :
    Tame (key ++ ([':'] ++ value)) (text (.keyed axis value')) := by
  have hcolon : ": ".toList = [':', ' '] := by simp
  rw [text, hcolon, List.append_assoc]
  refine ⟨?_, fun p hp => ?_⟩
  · have hle := Nat.add_le_add haxis.sigils hvalue.sigils
    have hzero : sigilCount [':', ' '] = 0 := rfl
    have hzero' : sigilCount [':'] = 0 := rfl
    simp only [sigilCount_append, hzero, hzero']
    omega
  · refine (haxis.names p hp.left).append
      (.cons rfl (.cons rfl (hvalue.names p (HeadNames.right rfl hp)))) fun c hc => ?_
    obtain rfl := Option.some_inj.mp hc
    exact ⟨rfl, by decide⟩

/-- An entry in a display is tame. -/
lemma tame_text {position : Int} {item : Text} {entry : CoordinateEntry}
    (h : ofText position item = .ok entry) : Tame item entry.text := by
  simp only [ofText] at h
  split at h
  · obtain rfl := Except.ok.inj h
    exact tame_trim item
  · split at h
    · rename_i key second more hsplit
      have hitem := join_splitTopLevel ':' item
      rw [hsplit, join_cons _ _ (List.cons_ne_nil _ _)] at hitem
      split at h
      · rename_i axis haxis
        split at h
        · cases h
        · obtain rfl := Except.ok.inj h
          generalize Text.join [':'] (second :: more) = value at hitem ⊢
          exact hitem ▸ tame_keyed (tame_axis? haxis) (tame_trim value)
      · cases h
    · obtain rfl := Except.ok.inj h
      exact .of_not_isSigil (fun c hc => absurd hc List.not_mem_nil) _

end CoordinateEntry

/-! ## Coordinates -/

/-- The entries are tame, one by one. -/
lemma tame_entries {position : Int} {items : List Text} {entries : List CoordinateEntry}
    (h : items.mapM (CoordinateEntry.ofText position) = .ok entries) :
    ((entries.map CoordinateEntry.text).map sigilCount).sum ≤ (items.map sigilCount).sum ∧
      ∀ p, (∀ item ∈ items, HeadNames p item) →
        ∀ text ∈ entries.map CoordinateEntry.text, HeadNames p text := by
  induction items generalizing entries with
  | nil =>
      obtain rfl := Except.ok.inj h
      exact ⟨Nat.le_refl _, fun _ _ text htext => absurd htext List.not_mem_nil⟩
  | cons item items ih =>
      rw [List.mapM_cons] at h
      cases hentry : CoordinateEntry.ofText position item with
      | error e =>
          rw [hentry] at h
          cases h
      | ok entry =>
          cases hentries : items.mapM (CoordinateEntry.ofText position) with
          | error e =>
              rw [hentry, hentries] at h
              cases h
          | ok entries' =>
              rw [hentry, hentries] at h
              obtain rfl := Except.ok.inj h
              obtain ⟨hsum, hnames⟩ := ih hentries
              have htame := CoordinateEntry.tame_text hentry
              refine ⟨Nat.add_le_add htame.sigils hsum, fun p hp text htext => ?_⟩
              rcases List.mem_cons.mp htext with rfl | htext
              · exact htame.names p (hp item List.mem_cons_self)
              · exact hnames p (fun other hother => hp other (List.mem_cons_of_mem _ hother)) text
                  htext

/-- The entries of a text, in a display. -/
lemma tame_display {position : Int} {t : Text} {entries : List CoordinateEntry}
    (h : ((splitTopLevel ',' t).filter fun item => !item.isBlankText).mapM
      (CoordinateEntry.ofText position) = .ok entries) :
    Tame t ('\x7b' :: (Text.join ", ".toList (entries.map CoordinateEntry.text) ++ ['\x7d'])) := by
  obtain ⟨hsum, hnames⟩ := tame_entries h
  have hjoin := join_splitTopLevel ',' t
  refine ⟨?_, fun p hp => ?_⟩
  · have hitems :
        (((splitTopLevel ',' t).filter fun item => !item.isBlankText).map sigilCount).sum ≤
          sigilCount t := by
      have hsep : sigilCount [','] = 0 := rfl
      have hwhole := sigilCount_join hsep (splitTopLevel ',' t)
      rw [hjoin] at hwhole
      rw [hwhole]
      exact sum_sigilCount_filter_le _ _
    have hcomma : sigilCount ", ".toList = 0 := by decide
    have hopen (u : Text) : sigilCount ('\x7b' :: u) = sigilCount u := rfl
    have hclose : sigilCount ['\x7d'] = 0 := rfl
    rw [hopen, sigilCount_append, hclose, sigilCount_join hcomma]
    omega
  · rw [← hjoin] at hp
    have hparts := headNames_of_mem_join rfl hp
    have htexts := hnames p fun item hitem => hparts item (List.mem_filter.mp hitem |>.1)
    have hclose : HeadNames p ['\x7d'] := .of_not_isSigil (not_isSigil_of_all rfl)
    refine .cons rfl ((headNames_join htexts).append hclose fun c hc => ?_)
    obtain rfl := Option.some_inj.mp hc
    exact ⟨rfl, by decide⟩

/-- **What a coordinate stands for is tame.** -/
theorem tame_coordinateLiteral {t literal : Text} {position : Int}
    (h : coordinateLiteral t position = .ok literal) : Tame t literal := by
  have htrimmed : Tame t (withoutComments t).trim :=
    (tame_withoutComments t).trans (tame_trim _)
  unfold coordinateLiteral at h
  simp only at h
  split at h
  · obtain rfl := Except.ok.inj h
    exact .of_not_isSigil (not_isSigil_of_all (by decide)) t
  · cases hentries : ((splitTopLevel ',' (withoutComments t).trim).filter
        fun item => !item.isBlankText).mapM (CoordinateEntry.ofText position) with
    | error e =>
        rw [hentries] at h
        cases h
    | ok entries =>
        rw [hentries] at h
        simp only [bind, Except.bind, pure, Except.pure, throw, throwThe, MonadExceptOf.throw] at h
        split at h
        · obtain rfl := Except.ok.inj h
          exact htrimmed
        · split at h
          · cases h
          · obtain rfl := Except.ok.inj h
            exact htrimmed.trans (tame_display hentries)

end FormulaCube
