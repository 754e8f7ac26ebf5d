import FormulaCube.Proofs.Pieces.Brackets

/-!
# Parts between separators

A text is cut at the separators that stand outside its brackets, literals and comments. Nothing is asked of
the text: brackets may be closed that were never opened, and the last literal may be open or cut off.

**Depth.** `depthOf` counts how many more brackets a word opens than it closes; `SeparatesAt` says by the
positions of a text which separators cut it.

**Parts.** `splitPieces_infixes` — the parts are made of whole pieces, and none of them is cut again. Since
pieces in a row are read again from their text, a part is read alone as it was read within the text.

**Positions.** `mem_separatorsFrom_iff` — where a text is cut, among pieces; `splitTopLevel_parts` — for
whole texts.
-/

namespace FormulaCube

variable {sep : Char} {depth : Int} {start r : Nat} {part : Text} {parts : List Text} {x : Piece}
  {ps vs : List Piece}

/-! ## Depth -/

/-- How many more brackets a word opens than it closes, whether or not they belong together. -/
def depthOf (w : Text) : Int :=
  (w.countP fun c => (closer? c).isSome : Int) - (w.countP isCloser : Int)

/-- The character at the position of code is the separator, which is no bracket, and as many brackets are
opened before it as are closed. -/
structure SeparatesAt (sep : Char) (t : Text) (r : Nat) : Prop where
  /-- It is a position of code. -/
  code : r ∈ codePositions t 0
  /-- The separator stands there. -/
  separator : t[r]? = some sep
  /-- A bracket does not separate. -/
  not_bracket : isBracket sep = false
  /-- The position lies outside of brackets. -/
  depth : depthOf (bracketsBefore t 0 r) = 0

/-- No bracket both opens and closes. -/
lemma isCloser_of_closer? {c : Char} (h : (closer? c).isSome = true) : isCloser c = false := by
  rcases exists_bracket (by rw [isBracket, h, Bool.true_or]) with ⟨b, rfl⟩ | ⟨b, rfl⟩
  · cases b <;> rfl
  · cases b <;> cases h

/-- Behind a piece one stands as deep as the brackets in it lead. -/
lemma depthOf_bracketsOf_cons (x : Piece) (ps : List Piece) :
    depthOf (bracketsOf (x :: ps)) = x.depth + depthOf (bracketsOf ps) := by
  cases x with
  | literal body cut => exact (Int.zero_add _).symm
  | comment body => exact (Int.zero_add _).symm
  | code c =>
      rw [bracketsOf, Piece.depth, isBracket]
      cases hopen : (closer? c).isSome with
      | true =>
          have hclose := isCloser_of_closer? hopen
          simp only [depthOf, Bool.true_or, if_true, List.countP_cons, hopen, hclose, Bool.false_eq_true,
            if_false]
          omega
      | false =>
          cases hclose : isCloser c with
          | true =>
              simp only [depthOf, Bool.or_true, if_true, List.countP_cons, hopen, hclose,
                Bool.false_eq_true, if_false]
              omega
          | false => exact (Int.zero_add _).symm

/-- A character leads deeper or back exactly if it is a bracket. -/
lemma depth_code_eq_zero_iff {c : Char} : (Piece.code c).depth = 0 ↔ isBracket c = false := by
  rw [Piece.depth, isBracket]
  cases (closer? c).isSome <;> cases isCloser c <;> decide

/-! ## Parts -/

/-- The parts of pieces are made of pieces in a row, and none of them is cut again. All but the first begin
outside of brackets. -/
lemma splitPieces_infixes (sep : Char) (depth : Int) (ps : List Piece) :
    ∃ us parts, splitPieces sep depth ps = textOf us :: parts ∧ us <+: ps ∧
      splitPieces sep depth us = [textOf us] ∧
      ∀ part ∈ parts, ∃ vs, vs <:+: ps ∧ textOf vs = part ∧ splitPieces sep 0 vs = [part] := by
  induction ps generalizing depth with
  | nil => exact ⟨[], [], rfl, List.prefix_rfl, rfl, List.forall_mem_nil _⟩
  | cons x ps ih =>
      have hbehind {parts : List Text} (h : ∀ part ∈ parts, ∃ vs, vs <:+: ps ∧ textOf vs = part ∧
          splitPieces sep 0 vs = [part]) (part : Text) (hpart : part ∈ parts) :
          ∃ vs, vs <:+: x :: ps ∧ textOf vs = part ∧ splitPieces sep 0 vs = [part] := by
        obtain ⟨vs, hvs, hwhole⟩ := h part hpart
        exact ⟨vs, hvs.trans (List.suffix_cons x ps).isInfix, hwhole⟩
      rcases splitPieces_cons sep depth x with ⟨⟨-, -, rfl⟩, hcut⟩ | ⟨-, hpass⟩
      · obtain ⟨us, parts, hsplit, hus, hfirst, hparts⟩ := ih 0
        refine ⟨[], textOf us :: parts, by rw [hcut, hsplit]; rfl, List.nil_prefix, rfl, ?_⟩
        refine List.forall_mem_cons.mpr ⟨⟨us, ?_, rfl, hfirst⟩, hbehind hparts⟩
        exact hus.isInfix.trans (List.suffix_cons x ps).isInfix
      · obtain ⟨us, parts, hsplit, hus, hfirst, hparts⟩ := ih (depth + x.depth)
        refine ⟨x :: us, parts, ?_, List.prefix_cons_inj x |>.mpr hus, ?_, hbehind hparts⟩
        · rw [hpass, hsplit, prepend, textOf_cons]
        · rw [hpass, hfirst, prepend, textOf_cons]

/-- **No part is cut again**: it is made of pieces that are read again from its text. -/
lemma splitTopLevel_part {t : Text} (h : part ∈ splitTopLevel sep t) :
    splitTopLevel sep part = [part] := by
  obtain ⟨us, parts, hsplit, hus, hfirst, hparts⟩ := splitPieces_infixes sep 0 (Piece.ofText t)
  rw [splitTopLevel, hsplit] at h
  obtain ⟨vs, hvs, rfl, hwhole⟩ : ∃ vs, vs <:+: Piece.ofText t ∧ textOf vs = part ∧
      splitPieces sep 0 vs = [part] := by
    rcases List.mem_cons.mp h with rfl | h
    · exact ⟨us, hus.isInfix, rfl, hfirst⟩
    · exact hparts part h
  have hread : Reread vs := by
    obtain ⟨before, behind, heq⟩ := hvs
    have hread := reread_ofText t
    rw [← heq] at hread
    exact hread.of_append.1.of_append.2
  rw [splitTopLevel, hread.ofText_textOf, hwhole]

/-! ## Positions -/

/-- Where the separators between parts stand, if the first part begins at `start`. -/
def separatorsFrom : (start : Nat) → List Text → List Nat
  | _, [] => []
  | _, [_] => []
  | start, part :: parts =>
    (start + part.length) :: separatorsFrom (start + part.length + 1) parts

lemma separatorsFrom_nil_cons (start : Nat) (h : parts ≠ []) :
    separatorsFrom start ([] :: parts) = start :: separatorsFrom (start + 1) parts := by
  cases parts with
  | nil => exact absurd rfl h
  | cons part parts => rfl

lemma separatorsFrom_prepend (start : Nat) (a : Text) (h : parts ≠ []) :
    separatorsFrom start (prepend a parts) = separatorsFrom (start + a.length) parts := by
  match parts, h with
  | [part], _ => rfl
  | part :: other :: parts, _ =>
      simp only [prepend, separatorsFrom, List.length_append, Nat.add_assoc]

/-- **Where pieces are cut**: at the separators that stand outside of brackets. -/
lemma mem_separatorsFrom_iff : r ∈ separatorsFrom start (splitPieces sep depth ps) ↔
    AtCode (fun before c => c = sep ∧ isBracket c = false ∧ depth + depthOf (bracketsOf before) = 0 ∧
      r = start + (textOf before).length) ps := by
  induction ps generalizing start depth with
  | nil => exact iff_of_false List.not_mem_nil not_atCode_nil
  | cons x ps ih =>
      rw [atCode_cons_iff]
      simp only [depthOf_bracketsOf_cons, add_length_textOf_cons, ← Int.add_assoc]
      rcases splitPieces_cons sep depth x with ⟨⟨rfl, hdepth, rfl⟩, hcut⟩ | ⟨hpass, hsplit⟩
      · rw [hcut, separatorsFrom_nil_cons _ (splitPieces_ne_nil _ _ _), List.mem_cons, ih, hdepth]
        refine or_congr ⟨fun hr => ⟨sep, rfl, rfl, depth_code_eq_zero_iff.mp hdepth, rfl, hr⟩, ?_⟩ Iff.rfl
        rintro ⟨-, -, -, -, -, hr⟩
        exact hr
      · rw [hsplit, separatorsFrom_prepend _ _ (splitPieces_ne_nil _ _ _), ih]
        refine (or_iff_right ?_).symm
        rintro ⟨c, rfl, rfl, hbracket, hdepth, -⟩
        exact hpass ⟨rfl, depth_code_eq_zero_iff.mpr hbracket, (Int.add_zero _).symm.trans hdepth⟩

/-- **Splitting is exact, and the parts are not split again.** Put together with the separator the parts
are the text, and each of them is its own only part. The text is cut exactly at the separators in code
that stand outside of brackets. -/
theorem splitTopLevel_parts (sep : Char) (t : Text) :
    Text.join [sep] (splitTopLevel sep t) = t ∧
    (∀ part ∈ splitTopLevel sep t, splitTopLevel sep part = [part]) ∧
    ∀ r, r ∈ separatorsFrom 0 (splitTopLevel sep t) ↔ SeparatesAt sep t r := by
  refine ⟨?_, fun part => splitTopLevel_part, fun r => ?_⟩
  · rw [splitTopLevel, join_splitPieces]
    exact textOf_ofText t
  · have hat := @atCode_ofText_iff t 0 fun i c w =>
      c = sep ∧ isBracket c = false ∧ depthOf w = 0 ∧ r = i
    have hcut := @mem_separatorsFrom_iff sep 0 0 r (Piece.ofText t)
    simp only [Int.zero_add] at hcut
    refine (hcut.trans hat).trans ⟨?_, fun h => ?_⟩
    · rintro ⟨i, hi, c, hc, rfl, hbracket, hdepth, rfl⟩
      exact ⟨hi, hc, hbracket, hdepth⟩
    · exact ⟨r, h.code, sep, h.separator, rfl, h.not_bracket, h.depth, rfl⟩

/-- Below the depth of the text nothing separates, and the literal goes on to the end of the text. -/
example : splitTopLevel ',' "),(,[a,b], 'c,\\".toList =
    ["),(".toList, "[a,b]".toList, " 'c,\\".toList] := by
  cbv

end FormulaCube
