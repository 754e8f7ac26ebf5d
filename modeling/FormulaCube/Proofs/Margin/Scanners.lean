import FormulaCube.Proofs.Margin.Shift
import Mathlib.Data.List.Forall2

/-!
# What the scanners do in front of which a margin is put

The searches for brackets and separators and the trimming of blanks find the same places on both sides
of `Shifted`, and what they cut out is `Shifted` again.

* `Shifted.closesAlike` — brackets are closed at the same pieces.
* `splitPieces_cons`, `Shifted.splitsAlike` — separators cut texts into parts that are alike.
* `trimPieces`, `trim_textOf`, `Shifted.trimPieces` — blanks at the ends.
-/

namespace FormulaCube

variable {width : Nat} {ends fresh : Bool} {ps qs : List Piece}

/-- Whether the piece is a blank of the code. -/
def Piece.isBlank : Piece → Bool
  | .code c => Text.isBlank c
  | _ => false

/-- Blanks that reach the end of their line do not go on behind a piece that is none. -/
lemma opensBlank_of_append {x : Piece} (hx : x.isBlank = false)
    (h : opensBlank ends (ps ++ x :: qs) = true) : opensBlank false ps = true := by
  induction ps with
  | nil =>
      cases x with
      | code c =>
          rw [List.nil_append, opensBlank, Bool.or_eq_true, Bool.and_eq_true, decide_eq_true_eq] at h
          rcases h with rfl | ⟨hc, -⟩
          · cases hx
          · rw [Piece.isBlank, hc] at hx
            cases hx
      | _ => cases h
  | cons y ps ih =>
      cases y with
      | code c =>
          rw [List.cons_append, opensBlank, Bool.or_eq_true, Bool.and_eq_true] at h
          rw [opensBlank, Bool.or_eq_true, Bool.and_eq_true]
          exact h.imp_right fun h => ⟨h.1, ih h.2⟩
      | _ => cases h

/-! ## Brackets -/

/-- A closing bracket is no blank. -/
lemma Piece.not_isBlank_of_isCloser {c : Char} (h : isCloser c = true) :
    (Piece.code c).isBlank = false := by
  show Text.isBlank c = false
  rw [← Bool.not_eq_true, isBlank_iff]
  rw [isCloser_iff] at h
  omega

/-- The search for the last of the expected brackets ends behind these pieces. -/
def ClosesBehind (expected : Text) (before ps : List Piece) : Prop :=
  ∀ start, closingFrom expected start ps = some (start + (textOf before).length)

/-- Both searches end without a bracket, or both end at the same piece. -/
def ClosesAlike (width : Nat) (ends fresh : Bool) (ps qs : List Piece) (expected : Text) : Prop :=
  (∀ start, closingFrom expected start ps = none ∧ closingFrom expected start qs = none) ∨
  ∃ x before after before' after', x.isBlank = false ∧
    ps = before ++ x :: after ∧ ClosesBehind expected before ps ∧
    qs = before' ++ x :: after' ∧ ClosesBehind expected before' qs ∧
    Shifted width false fresh before before' ∧ Shifted width ends false after after'

lemma closesBehind_cons {expected expected' : Text} {x : Piece} {before : List Piece}
    (hpass : ∀ start ps,
      closingFrom expected start (x :: ps) = closingFrom expected' (start + x.length) ps)
    (h : ClosesBehind expected' before ps) : ClosesBehind expected (x :: before) (x :: ps) := by
  intro start
  have hlength : (textOf (x :: before)).length = x.length + (textOf before).length := by
    rw [textOf_cons, List.length_append]
    rfl
  rw [hpass, h, hlength, Nat.add_assoc]

/-- A piece within a line, or at its end, is put before pieces that are alike. -/
lemma ClosesAlike.cons {x : Piece} (hx : x.isBlank = true ∨ Shifted width ends false ps qs)
    (hkeep : ∀ {before before'}, Shifted width false fresh before before' →
      Shifted width false false (x :: before) (x :: before'))
    (h : ∀ expected, ClosesAlike width ends fresh ps qs expected) (expected : Text) :
    ClosesAlike width ends false (x :: ps) (x :: qs) expected := by
  rcases closingFrom_cons expected x with hnone | ⟨⟨c, hcloser, rfl⟩, hsome⟩ | ⟨expected', hpass⟩
  · exact .inl fun start => ⟨hnone start ps, hnone start qs⟩
  · have hfound := Piece.not_isBlank_of_isCloser hcloser
    refine .inr ⟨_, [], ps, [], qs, hfound, rfl, fun start => hsome start ps, rfl,
      fun start => hsome start qs, .nil, hx.resolve_left ?_⟩
    rw [hfound]
    exact Bool.false_ne_true
  · rcases h expected' with hnone | ⟨y, before, after, before', after', hy, rfl, hps, rfl, hqs,
      hbefore, hafter⟩
    · exact .inl fun start =>
        ⟨(hpass start ps).trans (hnone _).1, (hpass start qs).trans (hnone _).2⟩
    · exact .inr ⟨y, x :: before, after, x :: before', after', hy, rfl, closesBehind_cons hpass hps,
        rfl, closesBehind_cons hpass hqs, hkeep hbefore, hafter⟩

/-- **Brackets are closed at the same pieces.** -/
lemma Shifted.closesAlike (h : Shifted width ends fresh ps qs) (expected : Text) :
    ClosesAlike width ends fresh ps qs expected := by
  induction h generalizing expected with
  | nil => exact .inl fun start => ⟨rfl, rfl⟩
  | keep hx h ih => exact .cons (.inr h) (.keep hx) ih expected
  | newline h ih => exact .cons (.inl rfl) .newline ih expected
  | @margin ps qs h ih =>
      have hpass (start : Nat) : closingFrom expected start ((blanks width).map .code ++ qs) =
          closingFrom expected (start + (blanks width).length) qs :=
        closingFrom_codes (fun c hc => by rw [mem_blanks hc]; rfl) expected start qs
      rcases ih expected with hnone | ⟨y, before, after, before', after', hy, rfl, hps, rfl, hqs,
        hbefore, hafter⟩
      · exact .inl fun start => ⟨(hnone start).1, (hpass start).trans (hnone _).2⟩
      · refine .inr ⟨y, before, after, (blanks width).map .code ++ before', after', hy, rfl, hps,
          (List.append_assoc _ _ _).symm, fun start => ?_, .margin hbefore, hafter⟩
        rw [hpass, hqs, textOf_codes, List.length_append, Nat.add_assoc]
  | blank hblank h ih =>
      rcases ih expected with hnone | ⟨y, before, after, before', after', hy, rfl, hps, rfl, hqs,
        hbefore, hafter⟩
      · exact .inl hnone
      · exact .inr ⟨y, before, after, before', after', hy, rfl, hps, rfl, hqs,
          .blank (opensBlank_of_append hy hblank) hbefore, hafter⟩

/-! ## Separators -/

/-- The parts of both sides: alike, one by one, and cut out of the first side. -/
def SplitsAlike (width : Nat) (sep : Char) (fresh : Bool) (ps qs : List Piece) (depth : Int) : Prop :=
  ∃ part part' parts parts',
    splitPieces sep depth ps = (part :: parts).map textOf ∧
    splitPieces sep depth qs = (part' :: parts').map textOf ∧
    (part = ps ∨ ∃ after, ps = part ++ .code sep :: after) ∧ (∀ other ∈ parts, other <:+: ps) ∧
    Shifted width false fresh part part' ∧ List.Forall₂ (Shifted width false false) parts parts'

/-- A piece within a line, or at its end, is put before pieces that are alike. -/
lemma SplitsAlike.cons {sep : Char} {x : Piece}
    (hx : x = .code sep → fresh = false)
    (hkeep : ∀ {part part'}, Shifted width false fresh part part' →
      Shifted width false false (x :: part) (x :: part'))
    (h : ∀ depth, SplitsAlike width sep fresh ps qs depth) (depth : Int) :
    SplitsAlike width sep false (x :: ps) (x :: qs) depth := by
  rcases splitPieces_cons sep depth x with ⟨⟨rfl, -⟩, hcut⟩ | ⟨-, hpass⟩
  · obtain ⟨part, part', parts, parts', hps, hqs, hpart, hparts, hshift, hall⟩ := h depth
    obtain rfl := hx rfl
    refine ⟨[], [], part :: parts, part' :: parts', (hcut ps).trans (congrArg _ hps),
      (hcut qs).trans (congrArg _ hqs), .inr ⟨ps, rfl⟩, fun other hother => ?_, .nil,
      .cons hshift hall⟩
    refine List.IsInfix.trans ?_ (List.suffix_cons _ ps).isInfix
    rcases List.mem_cons.mp hother with rfl | hother
    · rcases hpart with rfl | ⟨after, rfl⟩
      · exact List.infix_rfl
      · exact (List.prefix_append _ _).isInfix
    · exact hparts other hother
  · obtain ⟨part, part', parts, parts', hps, hqs, hpart, hparts, hshift, hall⟩ :=
      h (depth + x.depth)
    refine ⟨x :: part, x :: part', parts, parts', ?_, ?_, ?_, fun other hother =>
      (hparts other hother).trans (List.suffix_cons _ ps).isInfix, hkeep hshift, hall⟩
    · rw [hpass, hps]
      rfl
    · rw [hpass, hqs]
      rfl
    · rcases hpart with rfl | ⟨after, rfl⟩
      · exact .inl rfl
      · exact .inr ⟨after, rfl⟩

/-- **Texts are cut into parts that are alike.** -/
lemma Shifted.splitsAlike {sep : Char} (hsep : Text.isBlank sep = false)
    (h : Shifted width false fresh ps qs) (depth : Int) :
    SplitsAlike width sep fresh ps qs depth := by
  induction h generalizing depth with
  | nil => exact ⟨[], [], [], [], rfl, rfl, .inl rfl, nofun, .nil, .nil⟩
  | keep hx h ih => exact .cons (fun _ => rfl) (.keep hx) ih depth
  | newline h ih =>
      refine .cons (fun heq => ?_) .newline ih depth
      rw [← Piece.code.inj heq] at hsep
      cases hsep
  | @margin ps qs h ih =>
      obtain ⟨part, part', parts, parts', hps, hqs, hpart, hparts, hshift, hall⟩ := ih depth
      refine ⟨part, (blanks width).map .code ++ part', parts, parts', hps, ?_, hpart, hparts,
        .margin hshift, hall⟩
      have hmem : sep ∉ blanks width := by
        intro hmem
        rw [mem_blanks hmem] at hsep
        cases hsep
      rw [splitPieces_codes (fun c hc => by rw [mem_blanks hc]; rfl) (.inr hmem), hqs,
        List.map_cons, List.map_cons, textOf_codes]
      rfl
  | blank hblank h ih =>
      obtain ⟨part, part', parts, parts', hps, hqs, hpart, hparts, hshift, hall⟩ := ih depth
      refine ⟨part, part', parts, parts', hps, hqs, hpart, hparts, .blank ?_ hshift, hall⟩
      rcases hpart with rfl | ⟨after, rfl⟩
      · exact hblank
      · exact opensBlank_of_append (x := .code sep) hsep hblank

/-! ## Blanks at the ends -/

/-- Pieces without the blanks at their end. -/
def trimPiecesRight : List Piece → List Piece
  | [] => []
  | x :: ps =>
    match trimPiecesRight ps with
    | [] => if x.isBlank then [] else [x]
    | y :: kept => x :: y :: kept

/-- Pieces without the blanks at both ends. -/
def trimPieces (ps : List Piece) : List Piece := trimPiecesRight (ps.dropWhile Piece.isBlank)

lemma trimPiecesRight_cons (x : Piece) (ps : List Piece) : trimPiecesRight (x :: ps) =
    if trimPiecesRight ps = [] then (if x.isBlank then [] else [x]) else x :: trimPiecesRight ps := by
  rw [trimPiecesRight]
  cases trimPiecesRight ps with
  | nil => rfl
  | cons y kept => rfl

lemma trimPiecesRight_blanks (width : Nat) (ps : List Piece) :
    trimPiecesRight ((blanks width).map .code ++ ps) =
      if trimPiecesRight ps = [] then [] else (blanks width).map .code ++ trimPiecesRight ps := by
  induction width with
  | zero =>
      split
      · assumption
      · rfl
  | succ width ih =>
      show trimPiecesRight (.code ' ' :: ((blanks width).map .code ++ ps)) = _
      rw [trimPiecesRight_cons, ih]
      by_cases hps : trimPiecesRight ps = []
      · rw [if_pos hps, if_pos rfl, if_pos hps]
        rfl
      · rw [if_neg hps, if_neg (List.append_ne_nil_of_right_ne_nil _ hps), if_neg hps]
        rfl

lemma trimPiecesRight_isPrefix (ps : List Piece) : trimPiecesRight ps <+: ps := by
  induction ps with
  | nil => exact List.prefix_rfl
  | cons x ps ih =>
      rw [trimPiecesRight_cons]
      split
      · split
        · exact List.nil_prefix
        · exact List.prefix_append [x] ps
      · exact List.prefix_cons_inj x |>.mpr ih

lemma trimPieces_isInfix (ps : List Piece) : trimPieces ps <:+: ps :=
  (trimPiecesRight_isPrefix _).isInfix.trans (List.dropWhile_suffix _).isInfix

section Texts

variable {p : Piece → Prop} (hp : ∀ x, p x → x.isComment = false)

lemma trimLeft_textOf (h : Tidy p ps) :
    (textOf ps).trimLeft = textOf (ps.dropWhile Piece.isBlank) := by
  induction ps with
  | nil => rfl
  | cons x ps ih =>
      cases hx : x.isBlank with
      | true =>
          cases x with
          | code c =>
              rw [List.dropWhile_cons_of_pos hx, ← ih h.2.2.2]
              exact Text.trimLeft_cons_of_isBlank hx
          | _ => cases hx
      | false =>
          rw [List.dropWhile_cons_of_neg (by rw [hx]; exact Bool.false_ne_true)]
          obtain ⟨c, t, htext⟩ := h.1.readBefore_nil.exists_text_eq
          have hc : Text.isBlank c = false := by
            cases x with
            | code d => rwa [← (List.cons.inj htext).1]
            | literal body cut =>
                obtain ⟨mark, rest, rfl, hmark⟩ := exists_eq_of_isClosedLiteral h.1.2
                rw [← (List.cons.inj htext).1]
                exact not_isBlank_of_isQuote hmark
            | comment body =>
                obtain ⟨u, rfl, -⟩ := h.1
                rw [← (List.cons.inj htext).1]
                rfl
          rw [textOf_cons, htext]
          exact Text.trimLeft_cons_of_not_isBlank hc

include hp in
lemma trimRight_textOf (h : Tidy p ps) : (textOf ps).trimRight = textOf (trimPiecesRight ps) := by
  induction ps with
  | nil => rfl
  | cons x ps ih =>
      have ih := ih h.2.2.2
      have hnil : (textOf ps).trimRight = [] ↔ trimPiecesRight ps = [] := by
        obtain ⟨k, hk⟩ := trimPiecesRight_isPrefix ps
        have hps : Tidy p (trimPiecesRight ps ++ k) := by rw [hk]; exact h.2.2.2
        rw [ih, hps.of_append.1.reread.textOf_eq_nil_iff]
      rw [trimPiecesRight_cons]
      cases x with
      | comment body => cases hp _ h.2.1
      | code c =>
          show Text.trimRight (c :: textOf ps) = _
          rw [Text.trimRight_cons]
          split
          · rename_i hps
            rw [if_pos (hnil.mp hps)]
            show _ = textOf (if Text.isBlank c = true then [] else [.code c])
            split <;> rfl
          · rename_i hps
            rw [if_neg fun hkept => hps (hnil.mpr hkept), ih]
            rfl
      | literal body cut =>
          obtain ⟨mark, rest, rfl, hmark⟩ := exists_eq_of_isClosedLiteral h.1.2
          have hblank := not_isBlank_of_isQuote hmark
          have hbody : Text.trimRight (mark :: (rest ++ [mark])) = mark :: (rest ++ [mark]) :=
            Text.trimRight_concat (a := mark :: rest) hblank
          show Text.trimRight (mark :: (rest ++ [mark]) ++ textOf ps) = _
          rw [Text.trimRight_append, hbody]
          split
          · rename_i hps
            rw [if_pos (hnil.mp (Text.trimRight_eq_nil_iff.mpr hps))]
            exact (List.append_nil _).symm
          · rename_i hps
            rw [if_neg fun hkept => hps (Text.trimRight_eq_nil_iff.mp (hnil.mpr hkept)), ih]
            rfl

include hp in
lemma trim_textOf (h : Tidy p ps) : (textOf ps).trim = textOf (trimPieces ps) := by
  rw [Text.trim, trimLeft_textOf h]
  exact trimRight_textOf hp (h.of_infix (List.dropWhile_suffix _).isInfix)

end Texts

namespace Shifted

/-- Blanks before a text do not matter. -/
lemma dropWhile_isBlank (h : Shifted width ends fresh ps qs) :
    Shifted width ends false (ps.dropWhile Piece.isBlank) (qs.dropWhile Piece.isBlank) := by
  induction h with
  | nil => exact nil
  | @keep x _ _ hx h ih =>
      cases hblank : x.isBlank with
      | true => rwa [List.dropWhile_cons_of_pos hblank, List.dropWhile_cons_of_pos hblank]
      | false =>
          have hkeep : ¬ x.isBlank = true := by rw [hblank]; exact Bool.false_ne_true
          rw [List.dropWhile_cons_of_neg hkeep, List.dropWhile_cons_of_neg hkeep]
          exact keep hx h
  | newline _ ih => exact ih
  | margin _ ih =>
      rwa [List.dropWhile_append_of_pos fun x hx => ?_]
      obtain ⟨c, hc, rfl⟩ := List.mem_map.mp hx
      rw [mem_blanks hc]
      rfl
  | blank _ _ ih => exact ih

lemma opensBlank_trimPiecesRight (h : opensBlank ends ps = true)
    (hps : FormulaCube.trimPiecesRight ps ≠ []) :
    opensBlank false (FormulaCube.trimPiecesRight ps) = true := by
  induction ps with
  | nil => exact absurd rfl hps
  | cons x ps ih =>
      cases x with
      | code c =>
          rw [opensBlank, Bool.or_eq_true, Bool.and_eq_true, decide_eq_true_eq] at h
          have hblank : (Piece.code c).isBlank = true := by
            rcases h with rfl | ⟨hc, -⟩
            · rfl
            · exact hc
          rw [trimPiecesRight_cons, hblank, if_pos rfl] at hps ⊢
          split at hps
          · exact absurd rfl hps
          · rename_i hkept
            rw [if_neg hkept, opensBlank, Bool.or_eq_true, Bool.and_eq_true, decide_eq_true_eq]
            exact h.imp_right fun h => ⟨h.1, ih h.2 hkept⟩
      | _ => cases h

/-- Blanks behind a text do not matter. -/
lemma trimPiecesRight (h : Shifted width ends fresh ps qs) :
    (FormulaCube.trimPiecesRight ps = [] ∧ FormulaCube.trimPiecesRight qs = []) ∨
    (FormulaCube.trimPiecesRight ps ≠ [] ∧ FormulaCube.trimPiecesRight qs ≠ [] ∧
      Shifted width false fresh (FormulaCube.trimPiecesRight ps)
        (FormulaCube.trimPiecesRight qs)) := by
  induction h with
  | nil => exact .inl ⟨rfl, rfl⟩
  | @keep x ps qs hx _ ih =>
      rw [trimPiecesRight_cons, trimPiecesRight_cons]
      rcases ih with ⟨hps, hqs⟩ | ⟨hps, hqs, hshift⟩
      · rw [if_pos hps, if_pos hqs]
        split
        · exact .inl ⟨rfl, rfl⟩
        · exact .inr ⟨List.cons_ne_nil _ _, List.cons_ne_nil _ _, keep hx nil⟩
      · rw [if_neg hps, if_neg hqs]
        exact .inr ⟨List.cons_ne_nil _ _, List.cons_ne_nil _ _, keep hx hshift⟩
  | newline _ ih =>
      rw [trimPiecesRight_cons, trimPiecesRight_cons]
      rcases ih with ⟨hps, hqs⟩ | ⟨hps, hqs, hshift⟩
      · rw [if_pos hps, if_pos hqs]
        exact .inl ⟨rfl, rfl⟩
      · rw [if_neg hps, if_neg hqs]
        exact .inr ⟨List.cons_ne_nil _ _, List.cons_ne_nil _ _, newline hshift⟩
  | margin _ ih =>
      rw [trimPiecesRight_blanks]
      rcases ih with ⟨hps, hqs⟩ | ⟨hps, hqs, hshift⟩
      · exact .inl ⟨hps, if_pos hqs⟩
      · rw [if_neg hqs]
        exact .inr ⟨hps, List.append_ne_nil_of_right_ne_nil _ hqs, margin hshift⟩
  | blank hblank _ ih =>
      exact ih.imp_right fun ⟨hps, hqs, hshift⟩ =>
        ⟨hps, hqs, blank (opensBlank_trimPiecesRight hblank hps) hshift⟩

/-- **Texts are trimmed to texts that are alike.** -/
lemma trimPieces (h : Shifted width ends fresh ps qs) :
    Shifted width false false (FormulaCube.trimPieces ps) (FormulaCube.trimPieces qs) := by
  rcases h.dropWhile_isBlank.trimPiecesRight with ⟨hps, hqs⟩ | ⟨-, -, hshift⟩
  · rw [FormulaCube.trimPieces, FormulaCube.trimPieces, hps, hqs]
    exact nil
  · exact hshift

end Shifted

end FormulaCube
