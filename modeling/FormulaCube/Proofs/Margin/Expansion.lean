import FormulaCube.Proofs.Margin.Moved
import FormulaCube.Proofs.Shortcut.Shortcuts

/-!
# Shortcuts in front of whose lines a margin is put

A shortcut may go over several lines, and so may the call that it becomes.

* `Moved.expandForm`, `Moved.expandLevels` — one pass and all passes fail on both sides, or their
  results are moved.
* `Moved.expandIn` — so it is with all shortcuts of a text.
-/

namespace FormulaCube

/-! ## What a pass keeps -/

section

variable {ε : Type} [HasShortcutErrors ε] {nested : Int → Text → Except ε Text} {rule : Rule}
  {start : Int} {prev : Option Char} {t r : Text}

/-- The result begins as the text does, or with a call in place of a shortcut. -/
lemma head?_expandForm (h : expandForm nested rule start prev t = .ok r) :
    r.head? = t.head? ∨ (∃ c ∈ t.head?, isSigil c = true) ∧ r.head? = some 's' := by
  cases t with
  | nil =>
      rw [expandForm_nil] at h
      exact .inl (congrArg List.head? (Except.ok.inj h).symm)
  | cons c t =>
      rcases rule.here_or_skip prev c t with ⟨hprev, name, after, hhead⟩ | hskip
      · obtain ⟨rfl, hname, -⟩ := Rule.headHere?_eq_some_iff.mp hhead
        rw [expandForm_here hprev hhead, expandHead] at h
        refine .inr ⟨⟨_, rfl, isSigil_sigil rule⟩, ?_⟩
        split at h
        · cases h
        · obtain ⟨coordinate, -, h⟩ := exists_of_bind_eq_ok h
          obtain ⟨literal, -, h⟩ := exists_of_bind_eq_ok h
          obtain ⟨rest, -, h⟩ := exists_of_bind_eq_ok h
          obtain ⟨u, hu⟩ := rule.exists_callee_eq
          rw [← Except.ok.inj h, Rule.rewrite_eq hname, hu]
          rfl
      · rw [expandForm_skip hskip] at h
        cases hrest : expandForm nested rule (start + 1) (some c) t with
        | error e =>
            rw [hrest] at h
            cases h
        | ok rest =>
            rw [hrest] at h
            rw [← Except.ok.inj h]
            exact .inl rfl

/-- Blanks at the beginning of a line are kept. -/
lemma opensBlankText_expandForm {ends : Bool} (h : expandForm nested rule start prev t = .ok r)
    (ht : opensBlankText ends t = true) : opensBlankText ends r = true := by
  induction t generalizing start prev r with
  | nil =>
      rw [expandForm_nil] at h
      rwa [← Except.ok.inj h]
  | cons c t ih =>
      rw [opensBlankText, Bool.or_eq_true, Bool.and_eq_true, decide_eq_true_eq] at ht
      have hsigil : isSigil c = false := by
        rcases ht with rfl | ⟨hc, -⟩
        · rfl
        · exact not_isSigil_of_isPlain (isPlain_of_isBlank hc)
      rw [expandForm_skip (.inr (Rule.headHere?_of_not_isSigil hsigil rule t))] at h
      cases hrest : expandForm nested rule (start + 1) (some c) t with
      | error e =>
          rw [hrest] at h
          cases h
      | ok rest =>
          rw [hrest] at h
          rw [← Except.ok.inj h]
          show (_ || _) = true
          rw [Bool.or_eq_true, Bool.and_eq_true, decide_eq_true_eq]
          exact ht.imp_right fun ht => ⟨ht.1, ih hrest ht.2⟩

end

/-! ## One pass -/

/-- No head begins in an inert piece, also none that goes on behind it. -/
lemma expandForm_piece {ε : Type} [HasShortcutErrors ε] {rules : List Rule} {rule : Rule}
    (hrule : rule ∈ rules) {nested : Int → Text → Except ε Text} {x : Piece} (hx : x.IsWhole)
    (hinert : x.IsInert rules) (hcode : ∀ c, x ≠ .code c) {k : Text}
    (hk : ∀ c ∈ k.head?, x.EndsBefore c) (start : Int) (prev : Option Char) :
    expandForm nested rule start prev (x.text ++ k) =
      (expandForm nested rule (start + x.text.length) (lastOf prev x.text) k).map (x.text ++ ·) := by
  cases x with
  | code c => exact absurd rfl (hcode c)
  | literal body cut =>
      obtain ⟨mark, rest, rfl, hmark⟩ := exists_eq_of_isClosedLiteral hx.2
      have hnone := Rule.findHead_eq_none_iff.mp (hinert rule hrule)
      refine expandForm_append (hnone.of_cons_not_isSigil (not_isSigil_of_isQuote hmark)) ?_
      -- a head that goes on behind the literal would have its mark in the name
      intro a₁ y₁ y₂ after name hbody hk' hname hy
      have hbody : (mark :: rest) ++ [mark] = a₁ ++ rule.sigil :: y₁ := hbody
      rcases List.eq_nil_or_concat y₁ with rfl | ⟨y, d, rfl⟩
      · have hsigil := isSigil_sigil rule
        rw [← (List.cons.inj (List.append_inj_right' hbody rfl)).1, not_isSigil_of_isQuote hmark]
          at hsigil
        cases hsigil
      · rw [List.concat_eq_append, ← List.cons_append, ← List.append_assoc] at hbody
        have hmem : d ∈ name.getD [] := by
          rw [hy, List.concat_eq_append]
          exact List.mem_append_left _ (List.mem_append_right _ (List.mem_singleton_self d))
        rw [(List.cons.inj (List.append_inj_right' hbody rfl)).1,
          not_isQuote_of_isPlain (hname.isPlain d hmem)] at hmark
        cases hmark
  | comment body =>
      obtain ⟨t, rfl, -⟩ := hx
      have hnone := Rule.findHead_eq_none_iff.mp (hinert rule hrule)
      -- behind the comment its line ends
      have hline : ∀ c ∈ k.head?, Rule.isNamePart c = false ∧ c ≠ '(' := by
        intro c hc
        obtain rfl : c = '\n' := hk c hc
        decide
      exact expandForm_append (hnone.of_cons_not_isSigil rfl) (Rule.parts_of_head? hline _)

namespace Moved

variable {rules : List Rule} {width : Nat} {ends fresh : Bool} {t u : Text}

/-- What comes behind a piece may be replaced by what a pass makes of it. -/
lemma piece {p : Piece → Prop} {x : Piece} (hx : x.IsWhole) (hp : p x) (hline : x ≠ .code '\n')
    (hends : ∀ c ∈ t.head?, x.EndsBefore c) (h : Moved p width ends false t u) :
    Moved p width ends false (x.text ++ t) (x.text ++ u) := by
  obtain ⟨ps, qs, rfl, rfl, htidy, hshift⟩ := h
  exact ⟨x :: ps, x :: qs, rfl, rfl, ⟨hx, hp, hends, htidy⟩, .keep hline hshift⟩

lemma newline {p : Piece → Prop} (hp : p (.code '\n')) (h : Moved p width ends true t u) :
    Moved p width ends false ('\n' :: t) ('\n' :: u) := by
  obtain ⟨ps, qs, rfl, rfl, htidy, hshift⟩ := h
  exact ⟨.code '\n' :: ps, .code '\n' :: qs, rfl, rfl,
    ⟨⟨by decide, rfl⟩, hp, fun _ _ => trivial, htidy⟩, .newline hshift⟩

lemma margin {p : Piece → Prop} (h : Moved p width ends false t u) :
    Moved p width ends true t (blanks width ++ u) := by
  obtain ⟨ps, qs, rfl, rfl, htidy, hshift⟩ := h
  exact ⟨ps, _, rfl, (textOf_codes _ qs).symm, htidy, .margin hshift⟩

lemma blank {p : Piece → Prop} (hblank : opensBlankText ends t = true)
    (h : Moved p width ends false t u) : Moved p width ends true t u := by
  obtain ⟨ps, qs, rfl, rfl, htidy, hshift⟩ := h
  exact ⟨ps, qs, rfl, rfl, htidy, .blank (opensBlank_eq htidy ▸ hblank) hshift⟩

/-- **The call in place of a shortcut is moved like its coordinate.** -/
lemma rewrite {rule : Rule} {name : Option Text} (hname : rule.Admits name) {literal literal' : Text}
    (hliteral : Moved (Piece.IsBare rules) width false false literal literal')
    (h : Moved (Piece.IsInert rules) width ends false t u) :
    Moved (Piece.IsInert rules) width ends false (rule.rewrite name literal ++ t)
      (rule.rewrite name literal' ++ u) := by
  have hclose := h.codes (a := [')']) (fun _ => trivial) rfl
  have harguments : Moved (Piece.IsInert rules) width ends false
      (Rule.leading name ++ (literal ++ ([')'] ++ t)))
      (Rule.leading name ++ (literal' ++ ([')'] ++ u))) := by
    have hcoordinate := append (fun _ hx => hx.1) hliteral hclose fun c hc => by
      cases hc
      rfl
    cases name with
    | none => exact hcoordinate
    | some name =>
        have hquoted : Rule.leading (some name) = ('\'' :: (name ++ ['\''])) ++ [',', ' '] := by
          rw [Rule.leading, List.cons_append, List.append_assoc]
          rfl
        rw [hquoted, List.append_assoc, List.append_assoc]
        refine append (fun _ hx => hx.1) (Moved.name (isNamePart_of_isCubeName hname.2))
          (hcoordinate.codes (fun _ => trivial) rfl) fun c hc => ?_
        cases hc
        rfl
  have hcallee := isLineCode_of_isNamePart rule.isNamePart_of_mem_callee
  have hcall := (harguments.codes (a := ['(']) (fun _ => trivial) rfl).codes (fun _ => trivial) hcallee
  have htext (literal t : Text) : rule.rewrite name literal ++ t =
      rule.callee ++ (['('] ++ (Rule.leading name ++ (literal ++ ([')'] ++ t)))) := by
    rw [Rule.rewrite_eq hname]
    simp only [List.append_assoc, List.cons_append, List.nil_append]
  rwa [htext, htext]

section

variable {ε : Type} {nested nested' : Int → Text → Except ε Text} {rule : Rule}
  {prev prev' : Option Char}

/-- What is nested in shortcuts is expanded alike. -/
def NestedAlike (rules : List Rule) (width : Nat)
    (nested nested' : Int → Text → Except ε Text) : Prop :=
  ∀ (offset offset' : Int) (t u : Text), Moved (Piece.IsInert rules) width false false t u →
    Alike (Moved (Piece.IsInert rules) width false false) (nested offset t) (nested' offset' u)

variable [HasShortcutErrors ε]

/-- The passes over two texts are alike, wherever the texts begin in their sources. -/
def PassAlike (rules : List Rule) (width : Nat) (ends : Bool)
    (nested nested' : Int → Text → Except ε Text) (rule : Rule) (t : Text) : Prop :=
  ∀ (fresh : Bool) (u : Text) (prev prev' : Option Char) (start start' : Int),
    Moved (Piece.IsInert rules) width ends fresh t u →
    Rule.mayPrecede prev' = Rule.mayPrecede prev → (fresh = true → Rule.mayPrecede prev = true) →
    Alike (Moved (Piece.IsInert rules) width ends fresh) (expandForm nested rule start prev t)
      (expandForm nested' rule start' prev' u)

/-- A head at the beginning is there on the other side. -/
lemma headHere? {name : Option Text} {c : Char} {after : Text}
    (h : Moved (Piece.IsInert rules) width ends false t u)
    (hhead : rule.headHere? (c :: t) = some (name, after)) :
    ∃ after', rule.headHere? (c :: u) = some (name, after') ∧
      Moved (Piece.IsInert rules) width ends false after after' := by
  obtain ⟨rfl, hname, rfl⟩ := Rule.headHere?_eq_some_iff.mp hhead
  have hcode := isLineCode_of_isNamePart hname.isNamePart
  obtain ⟨k, rfl, hk⟩ := h.of_codes_left hcode
  obtain ⟨after', rfl, hafter⟩ := of_codes_left (a := ['(']) rfl hk
  exact ⟨after', Rule.headHere?_eq_some_iff.mpr ⟨rfl, hname, rfl⟩, hafter⟩

lemma headHere?_eq_none {c : Char} (h : Moved (Piece.IsInert rules) width ends false t u)
    (hnone : rule.headHere? (c :: t) = none) : rule.headHere? (c :: u) = none := by
  rw [Option.eq_none_iff_forall_ne_some]
  rintro ⟨name, after'⟩ hhead
  obtain ⟨rfl, hname, rfl⟩ := Rule.headHere?_eq_some_iff.mp hhead
  have hcode := isLineCode_of_isNamePart hname.isNamePart
  obtain ⟨k, rfl, hk⟩ := h.of_codes_right (fun _ => trivial) hcode
  obtain ⟨after, rfl, -⟩ := of_codes_right (a := ['(']) (fun _ => trivial) rfl hk
  cases hnone.symm.trans (Rule.headHere?_eq_some_iff.mpr ⟨rfl, hname, rfl⟩)

/-- The coordinate of a shortcut and what comes behind it. -/
lemma closingParen?_textOf {p : Piece → Prop} {before after : List Piece} {x : Piece}
    (htidy : Tidy p (before ++ x :: after))
    (h : ClosesBehind [')'] before (before ++ x :: after)) :
    closingParen? (textOf (before ++ x :: after)) = some (textOf before).length ∧
    (textOf (before ++ x :: after)).take (textOf before).length = textOf before ∧
    (textOf (before ++ x :: after)).drop ((textOf before).length + 1) = textOf after ∧
    (textOf after).length < (textOf (before ++ x :: after)).length := by
  have hclose : closingParen? (textOf (before ++ x :: after)) = some (textOf before).length := by
    rw [closingParen?, htidy.ofText_textOf, h, Nat.zero_add]
  have htext : textOf (before ++ x :: after) = textOf before ++ (x.text ++ textOf after) := by
    rw [textOf, List.flatMap_append, List.flatMap_cons]
  have htake : (textOf (before ++ x :: after)).take (textOf before).length = textOf before := by
    rw [htext, List.take_left]
  have hparen := closingParen?_eq_some hclose
  rw [htake, htext] at hparen
  have hbehind := List.append_cancel_left hparen
  obtain ⟨c, t, hx⟩ := (htidy.of_append.2).1.readBefore_nil.exists_text_eq
  have hc := hbehind
  rw [hx] at hc
  obtain ⟨rfl, -⟩ := List.cons.inj hc
  obtain rfl := (htidy.of_append.2).1.readBefore_nil.eq_code hx (by decide) rfl
  refine ⟨hclose, htake, ?_, ?_⟩
  · rw [htext]
    exact (List.cons.inj hbehind).2.symm
  · rw [htext, List.length_append, List.length_append]
    have hone : 0 < (Piece.text (.code ')')).length := Nat.one_pos
    omega

/-- **A shortcut is replaced on both sides.** -/
lemma expandHead (hnested : NestedAlike rules width nested nested') {name : Option Text}
    (hname : rule.Admits name) (h : Moved (Piece.IsInert rules) width ends false t u)
    (hrest : ∀ r, r.length < t.length → PassAlike rules width ends nested nested' rule r)
    (inner inner' : Int) (whole whole' : Text) :
    Alike (Moved (Piece.IsInert rules) width ends false) (expandHead nested rule inner whole name t)
      (FormulaCube.expandHead nested' rule inner' whole' name u) := by
  obtain ⟨ps, qs, rfl, rfl, htidy, hshift⟩ := h
  have hqs := hshift.tidy (fun _ => trivial) htidy
  rw [FormulaCube.expandHead, FormulaCube.expandHead]
  rcases hshift.closesAlike [')'] with hnone |
    ⟨x, before, after, before', after', -, rfl, hps, rfl, hqs', hbefore, hafter⟩
  · rw [closingParen?, htidy.ofText_textOf, closingParen?, hqs.ofText_textOf, (hnone 0).1,
      (hnone 0).2]
    trivial
  · obtain ⟨hclose, htake, hdrop, hlength⟩ := closingParen?_textOf htidy hps
    obtain ⟨hclose', htake', hdrop', -⟩ := closingParen?_textOf hqs hqs'
    simp only [hclose, hclose', htake, htake', hdrop, hdrop']
    have hinside : Moved (Piece.IsInert rules) width false false (textOf before) (textOf before') :=
      ⟨before, before', rfl, rfl, htidy.of_append.1, hbefore⟩
    have hbehind : Moved (Piece.IsInert rules) width ends false (textOf after) (textOf after') :=
      ⟨after, after', rfl, rfl, htidy.of_append.2.2.2.2, hafter⟩
    refine (hnested _ _ _ _ hinside).bind fun coordinate coordinate' hcoordinate => ?_
    refine (hcoordinate.coordinateLiteral _ _).mapError.bind fun literal literal' hliteral => ?_
    refine (hrest _ hlength false _ _ _ _ _ hbehind rfl fun h => absurd h Bool.false_ne_true).bind
      fun rest rest' hrest => ?_
    exact hliteral.rewrite hname hrest

/-- A piece ends before what a pass makes of the text behind it. -/
lemma endsBefore_of_expandForm {start : Int} {r : Text} {x : Piece}
    (h : FormulaCube.expandForm nested rule start prev t = .ok r) (hx : x.IsWhole)
    (ht : ∀ c ∈ t.head?, x.EndsBefore c) : ∀ c ∈ r.head?, x.EndsBefore c := by
  intro c hc
  rcases head?_expandForm h with hhead | ⟨⟨d, hd, hsigil⟩, hcall⟩
  · exact ht c (hhead ▸ hc)
  · rw [hcall] at hc
    cases hc
    cases hcomment : x.isComment with
    | false => exact hx.readBefore_nil.endsBefore_of_not_isQuote hcomment rfl
    | true =>
        cases x with
        | comment body =>
            rw [show d = '\n' from ht d hd] at hsigil
            cases hsigil
        | _ => cases hcomment

/-- What a pass comes to at one character of code. -/
lemma expandForm_code (hnested : NestedAlike rules width nested nested') {c : Char}
    (hline : Piece.code c ≠ .code '\n') (hc : (Piece.code c).IsWhole)
    (h : Moved (Piece.IsInert rules) width ends false t u)
    (hrest : ∀ r, r.length ≤ t.length → PassAlike rules width ends nested nested' rule r)
    (hprev : Rule.mayPrecede prev' = Rule.mayPrecede prev) (start start' : Int) :
    Alike (Moved (Piece.IsInert rules) width ends false) (expandForm nested rule start prev (c :: t))
      (FormulaCube.expandForm nested' rule start' prev' (c :: u)) := by
  rcases rule.here_or_skip prev c t with ⟨hprecede, name, after, hhead⟩ | hskip
  · obtain ⟨after', hhead', hafter⟩ := h.headHere? hhead
    obtain ⟨-, hname, htext⟩ := Rule.headHere?_eq_some_iff.mp hhead
    have hlength : after.length < t.length := by
      rw [htext, List.length_append, List.length_cons]
      omega
    rw [expandForm_here hprecede hhead, expandForm_here (hprev.trans hprecede) hhead']
    exact hafter.expandHead hnested hname
      (fun r hr => hrest r (Nat.le_of_lt (Nat.lt_trans hr hlength))) _ _ _ _
  · have hskip' : Rule.mayPrecede prev' = false ∨ rule.headHere? (c :: u) = none :=
      hskip.imp hprev.trans h.headHere?_eq_none
    rw [expandForm_skip hskip, expandForm_skip hskip']
    exact (hrest t (Nat.le_refl _) false u _ _ _ _ h rfl fun h => absurd h Bool.false_ne_true).map
      fun r r' _ hr => hr.piece (x := .code c) hc trivial hline fun _ _ => trivial

/-- What a pass comes to within a line, if it is known behind the first piece. -/
lemma expandForm_within (hrule : rule ∈ rules) (hnested : NestedAlike rules width nested nested')
    (hrest : ∀ r, r.length < t.length → PassAlike rules width ends nested nested' rule r)
    (h : Moved (Piece.IsInert rules) width ends false t u)
    (hprev : Rule.mayPrecede prev' = Rule.mayPrecede prev) (start start' : Int) :
    Alike (Moved (Piece.IsInert rules) width ends false) (expandForm nested rule start prev t)
      (FormulaCube.expandForm nested' rule start' prev' u) := by
  obtain ⟨ps, qs, rfl, rfl, htidy, hshift⟩ := h
  cases hshift with
  | nil =>
      show Alike _ (FormulaCube.expandForm _ _ _ _ []) (FormulaCube.expandForm _ _ _ _ [])
      rw [expandForm_nil, expandForm_nil]
      exact nil
  | @newline ps qs hshift =>
      have hskip (t : Text) : rule.headHere? ('\n' :: t) = none :=
        Rule.headHere?_of_not_isSigil rfl rule t
      have hmoved : Moved (Piece.IsInert rules) width ends true (textOf ps) (textOf qs) :=
        ⟨ps, qs, rfl, rfl, htidy.2.2.2, hshift⟩
      show Alike _ (FormulaCube.expandForm _ _ _ _ ('\n' :: textOf ps))
        (FormulaCube.expandForm _ _ _ _ ('\n' :: textOf qs))
      rw [expandForm_skip (.inr (hskip _)), expandForm_skip (.inr (hskip _))]
      exact (hrest _ (Nat.lt_succ_self _) true _ _ _ _ _ hmoved rfl fun _ => rfl).map
        fun r r' _ hr => hr.newline trivial
  | @keep x ps qs hline hshift =>
      have hmoved : Moved (Piece.IsInert rules) width ends false (textOf ps) (textOf qs) :=
        ⟨ps, qs, rfl, rfl, htidy.2.2.2, hshift⟩
      by_cases hcode : ∃ c, x = .code c
      · obtain ⟨c, rfl⟩ := hcode
        exact expandForm_code hnested hline htidy.1 hmoved
          (fun r hr => hrest r (Nat.lt_succ_of_le hr)) hprev start start'
      · have hcode (c : Char) : x ≠ .code c := fun heq => hcode ⟨c, heq⟩
        have hqs := (Shifted.keep hline hshift).tidy (fun _ => trivial) htidy
        obtain ⟨c, k, hx⟩ := htidy.1.readBefore_nil.exists_text_eq
        have hlast : lastOf prev' x.text = lastOf prev x.text := by
          rw [hx, lastOf_cons, lastOf_cons]
        have hlength : (textOf ps).length < (textOf (x :: ps)).length := by
          rw [textOf_cons, hx, List.length_append, List.length_cons]
          omega
        show Alike _ (FormulaCube.expandForm _ _ _ _ (x.text ++ textOf ps))
          (FormulaCube.expandForm _ _ _ _ (x.text ++ textOf qs))
        rw [expandForm_piece hrule htidy.1 htidy.2.1 hcode htidy.2.2.1,
          expandForm_piece hrule htidy.1 htidy.2.1 hcode hqs.2.2.1, hlast]
        exact (hrest _ hlength false _ _ _ _ _ hmoved rfl fun h => absurd h Bool.false_ne_true).map
          fun r r' hok hr => hr.piece htidy.1 htidy.2.1 hline fun d hd =>
            endsBefore_of_expandForm hok htidy.1 htidy.2.2.1 d hd

lemma mayPrecede_lastOf_blanks (hprev : Rule.mayPrecede prev = true) (width : Nat) :
    Rule.mayPrecede (lastOf prev (blanks width)) = true := by
  rw [lastOf]
  cases hlast : (blanks width).getLast? with
  | none => exact hprev
  | some c =>
      rw [mem_blanks (List.mem_of_getLast? hlast)]
      rfl

/-- **One pass.** Within a line both sides begin alike; in front of a line there may be the margin. -/
lemma expandForm (hrule : rule ∈ rules) (hnested : NestedAlike rules width nested nested') (t : Text) :
    PassAlike rules width ends nested nested' rule t := by
  induction hn : t.length using Nat.strongRecOn generalizing t with
  | _ n ih =>
      subst hn
      intro fresh u prev prev' start start' h hprev hfresh
      have hwithin {u : Text} {prev' : Option Char} {start' : Int}
          (h : Moved (Piece.IsInert rules) width ends false t u)
          (hprev : Rule.mayPrecede prev' = Rule.mayPrecede prev) :
          Alike (Moved (Piece.IsInert rules) width ends false)
            (FormulaCube.expandForm nested rule start prev t)
            (FormulaCube.expandForm nested' rule start' prev' u) :=
        expandForm_within hrule hnested (fun r hr => ih r.length hr r rfl) h hprev start start'
      cases fresh with
      | false => exact hwithin h hprev
      | true =>
          obtain ⟨ps, qs, rfl, rfl, htidy, hshift⟩ := h
          cases hshift with
          | @margin _ qs hshift =>
              have hblanks : ∀ c ∈ blanks width, isSigil c = false := fun c hc => by
                rw [mem_blanks hc]
                rfl
              have hlast := mayPrecede_lastOf_blanks (hprev.trans (hfresh rfl)) width
              rw [textOf_codes, PassMakes.of_not_isSigil hblanks prev' start' (textOf qs)]
              exact (hwithin ⟨ps, qs, rfl, rfl, htidy, hshift⟩
                (hlast.trans (hfresh rfl).symm)).map_right fun r r' _ hr => hr.margin
          | blank hblank hshift =>
              exact (hwithin ⟨ps, qs, rfl, rfl, htidy, hshift⟩ hprev).imp fun r r' hok hr =>
                hr.blank (opensBlankText_expandForm hok (opensBlank_eq htidy ▸ hblank))

/-! ## All passes -/

/-- **All passes, with any number of levels.** -/
lemma expandLevels (rules : List Rule) (width : Nat) (ends fresh : Bool) (levels : Nat)
    (start start' : Int) {t u : Text} (h : Moved (Piece.IsInert rules) width ends fresh t u) :
    Alike (Moved (Piece.IsInert rules) width ends fresh) (expandLevels rules levels start t)
      (FormulaCube.expandLevels rules levels start' u) := by
  induction levels generalizing ends fresh start start' t u with
  | zero => trivial
  | succ levels ih =>
      have hnested : NestedAlike rules width (FormulaCube.expandLevels rules levels)
          (FormulaCube.expandLevels rules levels) :=
        fun offset offset' t u h => ih false false offset offset' h
      have hpasses (later : List Rule) (hlater : ∀ rule ∈ later, rule ∈ rules) {t u : Text}
          (h : Moved (Piece.IsInert rules) width ends fresh t u) :
          Alike (Moved (Piece.IsInert rules) width ends fresh)
            (later.foldlM (fun t rule => FormulaCube.expandForm
              (FormulaCube.expandLevels rules levels) rule start none t) t)
            (later.foldlM (fun t rule => FormulaCube.expandForm
              (FormulaCube.expandLevels rules levels) rule start' none t) u) := by
        induction later generalizing t u with
        | nil => exact h
        | cons rule later ih =>
            rw [List.foldlM_cons, List.foldlM_cons]
            have hpass : PassAlike rules width ends _ _ rule t :=
              expandForm (hlater rule List.mem_cons_self) hnested t
            exact (hpass fresh u none none start start' h rfl fun _ => rfl).bind fun r r' hr =>
              ih (fun other hother => hlater other (List.mem_cons_of_mem _ hother)) hr
      exact hpasses rules (fun _ hrule => hrule) h

/-- **The shortcuts of a text are expanded alike**, and need as many levels. -/
theorem expandIn {rules : List Rule} {width : Nat} {t u : Text}
    (h : Moved (Piece.IsInert rules) width true true t u) (levels : Nat) :
    Alike (Moved (Piece.IsInert rules) width true true) (expandIn levels rules t)
      (FormulaCube.expandIn levels rules u) :=
  h.expandLevels rules width true true levels 0 0

end

end Moved

end FormulaCube
