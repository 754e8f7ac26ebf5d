import FormulaCube.Cell.Module
import FormulaCube.Proofs.Pieces.Reading
import FormulaCube.Proofs.Shortcut.Tame

/-!
# Pieces that are read again, and a margin in front of them

Cell source is cut, changed and put together as a text, and read as pieces each time. For pieces that
are read again from their text, all of this can be said of the pieces.

* `Piece.IsWhole` — a piece that can stand in a text, closed if it is a literal.
* `Tidy` — pieces that are read again, each of which has a property. `Tidy.ofText_textOf` says that they
  are.
* `tidy_ofText` — the pieces of a text whose literals are closed.
* `Tidy.append`, `Tidy.of_append`, `Tidy.filter_isComment` — putting together, cutting, and leaving the
  comments out.

A margin is put in front of lines of code, and the pieces behind it stay.

* `Shifted` — the same pieces, but that spaces were put in front of every line of code.
* `Shifted.append` — putting together; `Shifted.codes`, `Shifted.eq_of_not_mem_left` — within a line
  nothing is different.
* `Shifted.tidy` — the pieces are read again from their text on both sides.
* `Shifted.isBlankText` — what both texts have in common.
-/

namespace FormulaCube

/-! ## Pieces that are read again -/

namespace Piece

/-- The piece can stand in a text, and it is closed if it is a literal. -/
def IsWhole : Piece → Prop
  | .code c => c ≠ '#' ∧ Text.isQuote c = false
  | .literal body cut => cut = false ∧ isClosedLiteral body = true
  | .comment body => ∃ t, body = '#' :: t ∧ '\n' ∉ t

variable {x : Piece} {k : Text}

/-- **A piece is read as it is** before what it ends before. -/
lemma IsWhole.readBefore (h : x.IsWhole) (hk : ∀ c ∈ k.head?, x.EndsBefore c) : x.ReadBefore k := by
  cases x with
  | code c => exact .code h.1 h.2
  | literal body cut =>
      obtain ⟨rfl, hclosed⟩ := h
      obtain ⟨mark, rest, rfl, hmark⟩ := exists_eq_of_isClosedLiteral hclosed
      exact .literal hmark (closeLiteral_of_isClosedLiteral hclosed hk)
  | comment body =>
      obtain ⟨t, rfl, ht⟩ := h
      refine .comment (fun c hc => ?_) hk
      rw [inComment, bne_iff_ne]
      rintro rfl
      exact ht hc

lemma IsWhole.readBefore_nil (h : x.IsWhole) : x.ReadBefore [] := h.readBefore nofun

/-- A piece of a text is whole if it is no open literal. -/
lemma ReadBefore.isWhole (h : x.ReadBefore k)
    (hclosed : ∀ body cut, x = .literal body cut → cut = false ∧ isClosedLiteral body = true) :
    x.IsWhole := by
  cases h with
  | code hhash hquote => exact ⟨hhash, hquote⟩
  | literal => exact hclosed _ _ rfl
  | comment hbody hk =>
      exact ⟨_, rfl, fun hmem => by cases hbody _ hmem⟩

end Piece

/-! ## Tidy pieces -/

/-- The pieces are read again from their text, and each of them has the property. -/
def Tidy (p : Piece → Prop) : List Piece → Prop
  | [] => True
  | x :: ps => x.IsWhole ∧ p x ∧ (∀ c ∈ (textOf ps).head?, x.EndsBefore c) ∧ Tidy p ps

namespace Tidy

variable {p q : Piece → Prop} {x : Piece} {ps qs : List Piece} {t : Text}

lemma reread (h : Tidy p ps) : Reread ps := by
  induction ps with
  | nil => trivial
  | cons x ps ih => exact ⟨h.1.readBefore h.2.2.1, ih h.2.2.2⟩

/-- **Tidy pieces are the pieces of their text.** -/
lemma ofText_textOf (h : Tidy p ps) : Piece.ofText (textOf ps) = ps := h.reread.ofText_textOf

/-- Pieces that are read again are tidy if each of them is whole. -/
lemma of_reread (h : Reread ps) (hps : ∀ x ∈ ps, x.IsWhole ∧ p x) : Tidy p ps := by
  induction ps with
  | nil => trivial
  | cons x ps ih =>
      obtain ⟨hx, hpx⟩ := hps x List.mem_cons_self
      exact ⟨hx, hpx, fun _ => h.1.endsBefore, ih h.2 fun y hy => hps y (List.mem_cons_of_mem _ hy)⟩

lemma mem (h : Tidy p ps) (hx : x ∈ ps) : x.IsWhole ∧ p x := by
  induction ps with
  | nil => cases hx
  | cons y ps ih =>
      rcases List.mem_cons.mp hx with rfl | hx
      · exact ⟨h.1, h.2.1⟩
      · exact ih h.2.2.2 hx

lemma imp (h : Tidy p ps) (hpq : ∀ x, p x → q x) : Tidy q ps := by
  induction ps with
  | nil => trivial
  | cons x ps ih => exact ⟨h.1, hpq x h.2.1, h.2.2.1, ih h.2.2.2⟩

/-- Pieces are cut between two of them. -/
lemma of_append (h : Tidy p (ps ++ qs)) : Tidy p ps ∧ Tidy p qs := by
  obtain ⟨hps, hqs⟩ := h.reread.of_append
  exact ⟨of_reread hps fun x hx => h.mem (List.mem_append_left _ hx),
    of_reread hqs fun x hx => h.mem (List.mem_append_right _ hx)⟩

lemma of_infix (h : Tidy p qs) (hps : ps <:+: qs) : Tidy p ps := by
  obtain ⟨before, after, rfl⟩ := hps
  exact h.of_append.1.of_append.2

/-- Pieces are put together where the last of the first ones ends. -/
lemma append (h : Tidy p ps) (h' : Tidy p qs)
    (hends : ∀ x ∈ ps.getLast?, ∀ c ∈ (textOf qs).head?, x.EndsBefore c) : Tidy p (ps ++ qs) := by
  induction ps with
  | nil => exact h'
  | cons x ps ih =>
      cases ps with
      | nil => exact ⟨h.1, h.2.1, hends x rfl, h'⟩
      | cons y ps =>
          refine ⟨h.1, h.2.1, fun c hc => h.2.2.1 c ?_, ih h.2.2.2 fun z hz => hends z ?_⟩
          · have hc : c ∈ (textOf (y :: (ps ++ qs))).head? := hc
            have hy := h.2.2.2.1.readBefore_nil
            rw [hy.head?_textOf_cons] at hc
            rwa [hy.head?_textOf_cons]
          · rwa [List.getLast?_cons_cons]

/-- Pieces without comments may be put before a text that begins with no mark. -/
lemma append_of_not_isQuote (h : Tidy p ps) (h' : Tidy p qs)
    (hcomments : ∀ x ∈ ps, x.isComment = false)
    (hqs : ∀ c ∈ (textOf qs).head?, Text.isQuote c = false) : Tidy p (ps ++ qs) :=
  h.append h' fun x hx c hc =>
    have hmem : x ∈ ps := List.mem_of_getLast? hx
    (h.mem hmem).1.readBefore_nil.endsBefore_of_not_isQuote (hcomments x hmem) (hqs c hc)

/-- Characters of code may be put before every text. -/
lemma codes_append (hp : ∀ c, p (.code c)) (ht : ∀ c ∈ t, c ≠ '#' ∧ Text.isQuote c = false)
    (h : Tidy p ps) : Tidy p (t.map .code ++ ps) := by
  induction t with
  | nil => exact h
  | cons c t ih =>
      exact ⟨ht c List.mem_cons_self, hp c, fun _ _ => trivial,
        ih fun d hd => ht d (List.mem_cons_of_mem _ hd)⟩

/-- The pieces that are left when comments are taken out. -/
lemma filter_isComment (h : Tidy p ps) :
    Tidy (fun x => p x ∧ x.isComment = false) (ps.filter (!·.isComment)) := by
  refine of_reread h.reread.filter_isComment fun x hx => ?_
  rw [List.mem_filter, Bool.not_eq_true'] at hx
  exact ⟨(h.mem hx.1).1, (h.mem hx.1).2, hx.2⟩

end Tidy

/-- **The pieces of a text whose literals are closed.** -/
lemma tidy_ofText {p : Piece → Prop} {t : Text}
    (hclosed : ∀ body cut, .literal body cut ∈ Piece.ofText t →
      cut = false ∧ isClosedLiteral body = true)
    (hp : ∀ x ∈ Piece.ofText t, p x) : Tidy p (Piece.ofText t) := by
  refine .of_reread (reread_ofText t) fun x hx => ⟨?_, hp x hx⟩
  obtain ⟨k, hread⟩ := (reread_ofText t).exists_readBefore hx
  exact hread.isWhole fun body cut heq => hclosed body cut (heq ▸ hx)

/-! ## A margin -/

/-- Only blanks stand before the end of the line. The end of the pieces is one if `ends`. -/
def opensBlank (ends : Bool) : List Piece → Bool
  | [] => ends
  | .code c :: ps => c = '\n' || (Text.isBlank c && opensBlank ends ps)
  | _ :: _ => false

/-- The second pieces are the first ones with `width` spaces in front of every line that begins among
them, but in front of a line of blanks they may be missing. `fresh` says whether a line begins with the
first of the pieces, `ends` whether the last line ends with them. -/
inductive Shifted (width : Nat) (ends : Bool) : (fresh : Bool) → List Piece → List Piece → Prop
  /-- Nothing is left. -/
  | nil : Shifted width ends false [] []
  /-- A piece that ends no line. -/
  | keep {x : Piece} {ps qs : List Piece} (hx : x ≠ .code '\n') (h : Shifted width ends false ps qs) :
      Shifted width ends false (x :: ps) (x :: qs)
  /-- The end of a line. -/
  | newline {ps qs : List Piece} (h : Shifted width ends true ps qs) :
      Shifted width ends false (.code '\n' :: ps) (.code '\n' :: qs)
  /-- A line with the spaces in front of it. -/
  | margin {ps qs : List Piece} (h : Shifted width ends false ps qs) :
      Shifted width ends true ps ((blanks width).map .code ++ qs)
  /-- A line of blanks without them. -/
  | blank {ps qs : List Piece} (hblank : opensBlank ends ps = true)
      (h : Shifted width ends false ps qs) : Shifted width ends true ps qs

lemma mem_blanks {width : Nat} {c : Char} (h : c ∈ blanks width) : c = ' ' :=
  (List.mem_replicate.mp h).2

lemma isBlankText_blanks (width : Nat) : (blanks width).isBlankText = true :=
  List.all_eq_true.mpr fun c hc => by rw [mem_blanks hc]; rfl

lemma isBlankText_blanks_append (width : Nat) (t : Text) :
    (blanks width ++ t).isBlankText = t.isBlankText :=
  isBlankText_append (isBlankText_blanks width) t

lemma textOf_codes (t : Text) (ps : List Piece) : textOf (t.map .code ++ ps) = t ++ textOf ps := by
  rw [textOf, List.flatMap_append, Fragment.flatMap_codes (fun _ => rfl)]

lemma opensBlank_append {ends : Bool} {ps : List Piece} (h : opensBlank false ps = true)
    (qs : List Piece) : opensBlank ends (ps ++ qs) = true := by
  induction ps with
  | nil => cases h
  | cons x ps ih =>
      cases x with
      | code c =>
          rw [opensBlank, Bool.or_eq_true, Bool.and_eq_true] at h
          rw [List.cons_append, opensBlank, Bool.or_eq_true, Bool.and_eq_true]
          exact h.imp_right fun h => ⟨h.1, ih h.2⟩
      | _ => cases h

/-- Only blanks stand before the end of the line of the text. -/
def opensBlankText (ends : Bool) : Text → Bool
  | [] => ends
  | c :: t => c = '\n' || (Text.isBlank c && opensBlankText ends t)

lemma opensBlank_eq {p : Piece → Prop} {ends : Bool} {ps : List Piece} (h : Tidy p ps) :
    opensBlank ends ps = opensBlankText ends (textOf ps) := by
  have hother {x : Piece} {ps : List Piece} (hx : x.IsWhole)
      (hopens : opensBlank ends (x :: ps) = false) (hcode : ∀ c, x ≠ .code c) :
      opensBlank ends (x :: ps) = opensBlankText ends (textOf (x :: ps)) := by
    obtain ⟨c, t, htext⟩ := hx.readBefore_nil.exists_text_eq
    have hc : Text.isBlank c = false ∧ c ≠ '\n' := by
      cases hhash : decide (c = '#') with
      | true =>
          rw [of_decide_eq_true hhash]
          exact ⟨rfl, by decide⟩
      | false =>
          cases hquote : Text.isQuote c with
          | true =>
              refine ⟨not_isBlank_of_isQuote hquote, ?_⟩
              rintro rfl
              cases hquote
          | false =>
              have hne := of_decide_eq_false hhash
              exact absurd (hx.readBefore_nil.eq_code htext hne hquote) (hcode c)
    rw [hopens, textOf_cons, htext, List.cons_append, opensBlankText, hc.1,
      decide_eq_false hc.2]
    rfl
  induction ps with
  | nil => rfl
  | cons x ps ih =>
      cases x with
      | code c => exact congrArg (fun b => decide (c = '\n') || (Text.isBlank c && b)) (ih h.2.2.2)
      | literal body cut => exact hother h.1 rfl nofun
      | comment body => exact hother h.1 rfl nofun

namespace Shifted

variable {width : Nat} {ends fresh : Bool} {x : Piece} {ps qs ps' qs' : List Piece}

/-- **Pieces are put together.** What stands behind the first ones ends none of their lines. -/
lemma append (h : Shifted width false fresh ps qs) (h' : Shifted width ends false ps' qs') :
    Shifted width ends fresh (ps ++ ps') (qs ++ qs') := by
  induction h with
  | nil => exact h'
  | keep hx _ ih => exact keep hx ih
  | newline _ ih => exact newline ih
  | margin _ ih =>
      rw [List.append_assoc]
      exact margin ih
  | blank hblank _ ih => exact blank (opensBlank_append hblank _) ih

/-! ## Within a line -/

lemma codes {t : Text} (ht : '\n' ∉ t) (h : Shifted width ends false ps qs) :
    Shifted width ends false (t.map .code ++ ps) (t.map .code ++ qs) := by
  induction t with
  | nil => exact h
  | cons c t ih =>
      refine keep (fun hc => ht ?_) (ih fun hmem => ht (List.mem_cons_of_mem _ hmem))
      rw [Piece.code.inj hc]
      exact List.mem_cons_self

/-- Characters within a line are there on the other side. -/
lemma of_codes_left {t : Text} (ht : '\n' ∉ t) (h : Shifted width ends false (t.map .code ++ ps) qs) :
    ∃ qs', qs = t.map .code ++ qs' ∧ Shifted width ends false ps qs' := by
  induction t generalizing qs with
  | nil => exact ⟨qs, rfl, h⟩
  | cons c t ih =>
      cases h with
      | keep _ h =>
          obtain ⟨qs', rfl, hrest⟩ := ih (fun hmem => ht (List.mem_cons_of_mem _ hmem)) h
          exact ⟨qs', rfl, hrest⟩
      | newline h => exact absurd List.mem_cons_self ht

lemma of_codes_right {t : Text} (ht : '\n' ∉ t) (h : Shifted width ends false ps (t.map .code ++ qs)) :
    ∃ ps', ps = t.map .code ++ ps' ∧ Shifted width ends false ps' qs := by
  induction t generalizing ps with
  | nil => exact ⟨ps, rfl, h⟩
  | cons c t ih =>
      cases h with
      | keep _ h =>
          obtain ⟨ps', rfl, hrest⟩ := ih (fun hmem => ht (List.mem_cons_of_mem _ hmem)) h
          exact ⟨ps', rfl, hrest⟩
      | newline h => exact absurd List.mem_cons_self ht

/-- Pieces within a line are the same on both sides. -/
lemma eq_of_not_mem_left (h : Shifted width ends false ps qs) (hps : .code '\n' ∉ ps) : qs = ps := by
  induction ps generalizing qs with
  | nil =>
      cases h
      rfl
  | cons x ps ih =>
      cases h with
      | keep _ h => rw [ih h fun hmem => hps (List.mem_cons_of_mem _ hmem)]
      | newline h => exact absurd List.mem_cons_self hps

lemma eq_of_not_mem_right (h : Shifted width ends false ps qs) (hqs : .code '\n' ∉ qs) : qs = ps := by
  induction qs generalizing ps with
  | nil =>
      cases h
      rfl
  | cons x qs ih =>
      cases h with
      | keep _ h => rw [ih h fun hmem => hqs (List.mem_cons_of_mem _ hmem)]
      | newline h => exact absurd List.mem_cons_self hqs

/-! ## Whole texts -/

/-- **The pieces are read again on the other side too.** -/
lemma tidy {p : Piece → Prop} (hp : ∀ c, p (.code c)) (h : Shifted width ends fresh ps qs)
    (hps : Tidy p ps) : Tidy p qs := by
  induction h with
  | nil => trivial
  | keep hx h ih =>
      have hqs := ih hps.2.2.2
      refine ⟨hps.1, hps.2.1, fun c hc => hps.2.2.1 c ?_, hqs⟩
      -- what follows a piece within a line begins in the same way
      cases h with
      | nil => exact hc
      | keep _ _ =>
          rw [hqs.1.readBefore_nil.head?_textOf_cons] at hc
          rwa [hqs.1.readBefore_nil.head?_textOf_cons]
      | newline _ => exact hc
  | newline _ ih => exact ⟨hps.1, hps.2.1, fun _ _ => trivial, ih hps.2.2.2⟩
  | margin _ ih =>
      refine Tidy.codes_append hp (fun c hc => ?_) (ih hps)
      rw [mem_blanks hc]
      exact ⟨by decide, rfl⟩
  | blank _ _ ih => exact ih hps

lemma isBlankText (h : Shifted width ends fresh ps qs) :
    (textOf qs).isBlankText = (textOf ps).isBlankText := by
  induction h with
  | nil => rfl
  | keep _ _ ih =>
      rw [textOf_cons, textOf_cons, Text.isBlankText, Text.isBlankText,
        List.all_append, List.all_append]
      exact congrArg _ ih
  | newline _ ih => exact ih
  | margin _ ih =>
      rw [textOf_codes, isBlankText_blanks_append]
      exact ih
  | blank _ _ ih => exact ih

/-- Comments are left out on both sides. -/
lemma filter_isComment (h : Shifted width ends fresh ps qs) :
    Shifted width ends fresh (ps.filter (!·.isComment)) (qs.filter (!·.isComment)) := by
  have hopens (ps : List Piece) (h : opensBlank ends ps = true) :
      opensBlank ends (ps.filter (!·.isComment)) = true := by
    induction ps with
    | nil => exact h
    | cons x ps ih =>
        cases x with
        | code c =>
            rw [opensBlank, Bool.or_eq_true, Bool.and_eq_true] at h
            show (_ || _) = true
            rw [Bool.or_eq_true, Bool.and_eq_true]
            exact h.imp_right fun h => ⟨h.1, ih h.2⟩
        | _ => cases h
  induction h with
  | nil => exact nil
  | @keep x _ _ hx _ ih =>
      cases hcomment : x.isComment with
      | true => simpa only [List.filter_cons, hcomment, Bool.not_true, Bool.false_eq_true, if_false]
      | false =>
          simp only [List.filter_cons, hcomment, Bool.not_false, if_true]
          exact keep hx ih
  | newline _ ih => exact newline ih
  | margin _ ih =>
      have hmargin : ((blanks width).map Piece.code).filter (!·.isComment) =
          (blanks width).map Piece.code :=
        List.filter_eq_self.mpr fun x hx => by
          obtain ⟨c, -, rfl⟩ := List.mem_map.mp hx
          rfl
      rw [List.filter_append, hmargin]
      exact margin ih
  | blank hblank _ ih => exact blank (hopens _ hblank) ih

end Shifted

end FormulaCube
