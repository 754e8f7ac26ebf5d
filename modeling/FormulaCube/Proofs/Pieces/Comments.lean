import FormulaCube.Proofs.Pieces.Reading
import FormulaCube.Proofs.Shortcut.Separators

/-!
# Texts without their comments

Comments can be taken out of a text before it is scanned or after: the pieces of the text without its
comments are the pieces of the text that are no comments, and every scanner finds the same among them.

* `ofText_withoutComments` — the pieces of the text without its comments.
* `withoutComments_append` — a piece before a part of what follows it.
* `splitPieces_filter`, `closingFrom_filter` — separators and closing brackets among the pieces.
* `scanners_agree_on_comments` — all scanners, for every text.
-/

namespace FormulaCube

variable {x : Piece} {ps : List Piece} {k k' : Text}

/-! ## The pieces that are left -/

lemma flatMap_uncommented (ps : List Piece) :
    ps.flatMap Piece.uncommented = textOf (ps.filter (!·.isComment)) := by
  induction ps with
  | nil => rfl
  | cons x ps ih =>
      rw [List.flatMap_cons, ih]
      cases x <;> rfl

lemma withoutComments_eq (t : Text) :
    withoutComments t = textOf ((Piece.ofText t).filter (!·.isComment)) :=
  flatMap_uncommented (Piece.ofText t)

/-- **The pieces of a text without its comments** are those of the text that are no comments. -/
lemma ofText_withoutComments (t : Text) :
    Piece.ofText (withoutComments t) = (Piece.ofText t).filter (!·.isComment) := by
  rw [withoutComments_eq, (reread_ofText t).filter_isComment.ofText_textOf]

/-- The comments are taken out of a piece and of what follows it one by one. -/
lemma withoutComments_append (h : x.ReadBefore k) :
    withoutComments (x.text ++ k) = x.uncommented ++ withoutComments k := by
  rw [withoutComments, h.ofText_append, List.flatMap_cons]
  rfl

/-- A piece other than a comment is left as it is. -/
lemma Piece.uncommented_eq (h : x.isComment = false) : x.uncommented = x.text := by
  cases x with
  | comment body => cases h
  | _ => rfl

/-! ## Separators -/

/-- The first part between separators is the beginning of the text. -/
lemma exists_textOf_eq_append (sep : Char) (depth : Int) (ps : List Piece) :
    ∃ part parts after, splitPieces sep depth ps = part :: parts ∧ textOf ps = part ++ after := by
  cases hsplit : splitPieces sep depth ps with
  | nil => exact absurd hsplit (splitPieces_ne_nil sep depth ps)
  | cons part parts =>
      have hjoin := join_splitPieces sep depth ps
      rw [hsplit] at hjoin
      refine ⟨part, parts, ?_⟩
      cases parts with
      | nil => exact ⟨[], rfl, hjoin.symm.trans (List.append_nil _).symm⟩
      | cons other parts =>
          rw [join_cons _ _ (List.cons_ne_nil _ _)] at hjoin
          exact ⟨_, rfl, hjoin.symm⟩

/-- A piece that is put before the first part keeps its comments apart from those of the part. -/
lemma map_withoutComments_prepend (h : x.ReadBefore (textOf ps)) (sep : Char) (depth : Int) :
    (prepend x.text (splitPieces sep depth ps)).map withoutComments =
      prepend x.uncommented ((splitPieces sep depth ps).map withoutComments) := by
  obtain ⟨part, parts, after, hsplit, htext⟩ := exists_textOf_eq_append sep depth ps
  rw [htext] at h
  rw [hsplit, prepend, List.map_cons, withoutComments_append h.of_append]
  rfl

/-- **Pieces without the comments are cut at the same separators.** -/
lemma splitPieces_filter (h : Reread ps) (sep : Char) (depth : Int) :
    splitPieces sep depth (ps.filter (!·.isComment)) =
      (splitPieces sep depth ps).map withoutComments := by
  induction ps generalizing depth with
  | nil => exact congrArg (fun part => [part]) withoutComments_nil.symm
  | cons x ps ih =>
      have ih := ih h.2
      have hne (depth : Int) : (splitPieces sep depth ps).map withoutComments ≠ [] := fun hnil =>
        splitPieces_ne_nil sep depth ps (List.map_eq_nil_iff.mp hnil)
      cases hx : x.isComment with
      | true =>
          cases x with
          | comment body =>
              rw [List.filter_cons_of_neg Bool.false_ne_true, ih]
              show _ =
                (prepend (Piece.comment body).text (splitPieces sep depth ps)).map withoutComments
              rw [map_withoutComments_prepend h.1]
              exact (prepend_nil (hne depth)).symm
          | _ => cases hx
      | false =>
          rw [List.filter_cons_of_pos (by rw [hx]; rfl)]
          rcases splitPieces_cons sep depth x with ⟨⟨rfl, -⟩, hcut⟩ | ⟨-, hpass⟩
          · rw [hcut, hcut, ih, List.map_cons, withoutComments_nil]
          · rw [hpass, hpass, ih, map_withoutComments_prepend h.1, Piece.uncommented_eq hx]

/-! ## Closing brackets -/

/-- A search for a closing bracket that passes a piece ends as many characters behind it. -/
lemma closingFrom_pass {expected expected' : Text}
    (h : ∀ start ps, closingFrom expected start (x :: ps) =
      closingFrom expected' (start + x.length) ps) (ps : List Piece) :
    closingFrom expected 0 (x :: ps) = (closingFrom expected' 0 ps).map (· + x.length) := by
  rw [h, closingFrom_add]

/-- **Among the pieces without the comments the same bracket closes.** -/
lemma closingFrom_filter (h : Reread ps) (expected : Text) :
    closingFrom expected 0 (ps.filter (!·.isComment)) = (closingFrom expected 0 ps).map fun r =>
      (withoutComments ((textOf ps).take r)).length := by
  induction ps generalizing expected with
  | nil => rfl
  | cons x ps ih =>
      have ih := ih h.2
      have htake (r : Nat) : (textOf (x :: ps)).take (r + x.length) =
          x.text ++ (textOf ps).take r := by
        rw [textOf_cons, Nat.add_comm r]
        exact List.take_length_add_append r
      have hcount (r : Nat) : (withoutComments ((textOf (x :: ps)).take (r + x.length))).length =
          (withoutComments ((textOf ps).take r)).length + x.uncommented.length := by
        have hx := h.1
        rw [← List.take_append_drop r (textOf ps)] at hx
        rw [htake, withoutComments_append hx.of_append, List.length_append, Nat.add_comm]
      cases hx : x.isComment with
      | true =>
          cases x with
          | comment body =>
              rw [List.filter_cons_of_neg Bool.false_ne_true, ih,
                closingFrom_pass fun start ps => rfl, Option.map_map]
              refine congrArg (Option.map · _) (funext fun r => ?_)
              exact (hcount r).symm
          | _ => cases hx
      | false =>
          rw [List.filter_cons_of_pos (by rw [hx]; rfl)]
          rcases closingFrom_cons expected x with hnone | ⟨-, hsome⟩ | ⟨expected', hpass⟩
          · rw [hnone, hnone]
            rfl
          · rw [hsome, hsome, Option.map_some, List.take_zero, withoutComments_nil]
            rfl
          · rw [closingFrom_pass hpass, closingFrom_pass hpass, ih, Option.map_map, Option.map_map]
            refine congrArg (Option.map · _) (funext fun r => ?_)
            have hlength : x.uncommented.length = x.length :=
              congrArg List.length (Piece.uncommented_eq hx)
            exact (congrArg (_ + ·) hlength.symm).trans (hcount r).symm

/-! ## Whole texts -/

/-- **The scanners agree on what is a comment and what is a literal.** For every text: taking the
comments out a second time changes nothing, the literals stay the same ones, the parts between
separators are those of the text without their comments, and the parenthesis opened before the text is
closed by the same bracket, or by none. -/
theorem scanners_agree_on_comments (t : Text) (sep : Char) :
    withoutComments (withoutComments t) = withoutComments t ∧
    literalTexts (withoutComments t) = literalTexts t ∧
    splitTopLevel sep (withoutComments t) = (splitTopLevel sep t).map withoutComments ∧
    (closingParenFrom t 0 = .ok none ∧ closingParenFrom (withoutComments t) 0 = .ok none ∨
      ∃ r : Nat, closingParenFrom t 0 = .ok (some r) ∧
        closingParenFrom (withoutComments t) 0 =
          .ok (some (withoutComments (t.take r)).length)) := by
  have hpieces := ofText_withoutComments t
  have hread := reread_ofText t
  refine ⟨?_, ?_, ?_, ?_⟩
  · rw [withoutComments_eq, hpieces, List.filter_filter, withoutComments_eq]
    simp only [Bool.and_self]
  · rw [literalTexts_eq, literalTexts_eq, hpieces, List.filterMap_filter]
    refine congrArg (List.filterMap · _) (funext fun x => ?_)
    cases x <;> rfl
  · rw [splitTopLevel, splitTopLevel, hpieces, splitPieces_filter hread]
  · have hfrom (u : Text) : closingParenFrom u 0 = .ok ((closingParen? u).map Int.ofNat) := rfl
    have hclose := closingFrom_filter hread [')']
    rw [← hpieces, textOf_ofText] at hclose
    rw [hfrom, hfrom]
    change closingParen? (withoutComments t) = (closingParen? t).map _ at hclose
    rw [hclose]
    cases closingParen? t with
    | none => exact Or.inl ⟨rfl, rfl⟩
    | some r => exact Or.inr ⟨r, rfl, rfl⟩

end FormulaCube
