import FormulaCube.Proofs.Pieces.Inside
import FormulaCube.Proofs.Source.Heads

/-!
# What is left when imports are taken out

A source is read as statements that are taken out and characters that stay. Extraction reads what is
left in the same way when it is called again: where a statement is taken out a line begins, and what
stood behind the statement then stands at the beginning of that line. An import there was no import in
the source, because imports are only looked for where a line begins.

* `ImportPart`, `importParts` — the parts of a source; `extractImports_eq` — extraction in terms of them.
* `Placed` — where statements are taken out; `areWhole` — they are taken out with whole literals and
  comments.
* `noImportMissed` — no import stays at the beginning of a line or behind a statement taken out.
* `IsCleared` — nothing is taken out of the text; `extractImports_of_isCleared`.
* `extractImports_extractImports` — what is left is cleared exactly if no import was missed.
-/

namespace FormulaCube

/-! ## The parts of a source -/

/-- A part of a source. -/
inductive ImportPart where
  /-- A character that stays. -/
  | kept (c : Char)
  /-- A statement, and the text that is taken out with it. -/
  | taken (statement extent : Text)
  deriving DecidableEq, Repr

namespace ImportPart

/-- The text of the part in the source. -/
def text : ImportPart → Text
  | kept c => [c]
  | taken _ extent => extent

/-- What stays of the part. -/
def left : ImportPart → Text
  | kept c => [c]
  | taken _ _ => []

/-- The statement that is taken out. -/
def statement? : ImportPart → Option Text
  | kept _ => none
  | taken statement _ => some statement

end ImportPart

/-- The text of the parts. -/
abbrev sourceOf (parts : List ImportPart) : Text := parts.flatMap ImportPart.text

/-- What stays of the parts. -/
abbrev leftOf (parts : List ImportPart) : Text := parts.flatMap ImportPart.left

/-- Whether a line begins behind the text, where `lineStart` says whether one begins before it. -/
def lineStartBehind (lineStart : Bool) (t : Text) : Bool := t.foldl (fun _ c => c = '\n') lineStart

/-- The statement that begins here, and what follows it. It can only begin where a line begins. -/
def statementHere? (lineStart : Bool) (t : Text) : Option (Text × Text) :=
  if lineStart then importHere? t else none

lemma exists_of_statementHere? {lineStart : Bool} {c : Char} {rest statement after : Text}
    (h : statementHere? lineStart (c :: rest) = some (statement, after)) :
    lineStart = true ∧ ∃ e, rest = e ++ after ∧
      (c :: rest).take ((c :: rest).length - after.length) = c :: e := by
  rw [statementHere?] at h
  split at h
  · rename_i hline
    obtain ⟨extent, hne, heq⟩ := exists_append_of_importHere? h
    obtain ⟨e, rfl⟩ : ∃ e, extent = c :: e := by
      cases extent with
      | nil => exact absurd rfl hne
      | cons d e => exact ⟨e, by rw [(List.cons.inj heq).1]⟩
    obtain rfl : rest = e ++ after := (List.cons.inj heq).2
    refine ⟨hline, e, rfl, ?_⟩
    rw [heq, List.length_append, Nat.add_sub_cancel, List.take_left]
  · cases h

/-- The parts that a statement gives: it stays where it is part of a literal. -/
def statementParts (keeps : Bool) (statement extent : Text) : List ImportPart :=
  if keeps then extent.map .kept else [.taken statement extent]

/-- The parts of a text that begins at the position. -/
def importPartsFrom (inLiteral : Nat → Bool) (lineStart : Bool) (position : Nat) : Text → List ImportPart
  | [] => []
  | c :: rest =>
    match h : statementHere? lineStart (c :: rest) with
    | some (statement, after) =>
      let extent := (c :: rest).take ((c :: rest).length - after.length)
      statementParts (inLiteral position) statement extent ++
        importPartsFrom inLiteral (lineStartBehind lineStart extent) (position + extent.length) after
    | none => .kept c :: importPartsFrom inLiteral (c = '\n') (position + 1) rest
termination_by t => t.length
decreasing_by
  · obtain ⟨-, e, rfl, -⟩ := exists_of_statementHere? h
    rw [List.length_cons, List.length_append]
    exact Nat.lt_succ_of_le (Nat.le_add_left _ _)
  · exact Nat.lt_succ_self _

/-- The parts of a source. -/
def importParts (t : Text) : List ImportPart :=
  importPartsFrom (insideSpan (stringSpans t)) true 0 t

section

variable (inLiteral : Nat → Bool) (a : Text) (parts qs : List ImportPart)

lemma sourceOf_append : sourceOf (parts ++ qs) = sourceOf parts ++ sourceOf qs := List.flatMap_append

lemma leftOf_append : leftOf (parts ++ qs) = leftOf parts ++ leftOf qs := List.flatMap_append

lemma sourceOf_kept : sourceOf (a.map .kept) = a := by
  rw [sourceOf, List.flatMap_map]
  exact List.flatMap_singleton' a

lemma leftOf_kept : leftOf (a.map .kept) = a := by
  rw [leftOf, List.flatMap_map]
  exact List.flatMap_singleton' a

lemma sourceOf_statementParts (keeps : Bool) (statement extent : Text) :
    sourceOf (statementParts keeps statement extent) = extent := by
  cases keeps with
  | true => exact sourceOf_kept extent
  | false => exact List.append_nil extent

lemma leftOf_statementParts (keeps : Bool) (statement extent : Text) :
    leftOf (statementParts keeps statement extent) = if keeps then extent else [] := by
  cases keeps with
  | true => exact leftOf_kept extent
  | false => rfl

lemma statements_statementParts (keeps : Bool) (statement extent : Text) :
    (statementParts keeps statement extent).filterMap ImportPart.statement? =
      if keeps then [] else [statement] := by
  cases keeps with
  | true =>
      rw [statementParts, if_pos rfl, List.filterMap_map]
      exact List.filterMap_eq_nil_iff.mpr fun _ _ => rfl
  | false => rfl

/-- **The parts are the text.** -/
lemma sourceOf_importPartsFrom (lineStart : Bool) (position : Nat) (t : Text) :
    sourceOf (importPartsFrom inLiteral lineStart position t) = t := by
  fun_induction importPartsFrom inLiteral lineStart position t with
  | case1 => rfl
  | case2 lineStart position c rest statement after h extent ih =>
      obtain ⟨-, e, rfl, hextent⟩ := exists_of_statementHere? h
      rw [sourceOf_append, sourceOf_statementParts, ih, ← List.cons_append]
      exact congrArg (· ++ after) hextent
  | case3 lineStart position c rest h ih => exact congrArg (c :: ·) ih

/-! ## Extraction -/

/-- Characters that belong to a statement are passed over together. -/
lemma importsFrom_append (keeps lineStart : Bool) (position : Nat) (b : Text) :
    importsFrom inLiteral a.length keeps lineStart position (a ++ b) =
      let (found, kept) :=
        importsFrom inLiteral 0 true (lineStartBehind lineStart a) (position + a.length) b
      (found, if keeps then a ++ kept else kept) := by
  induction a generalizing lineStart position with
  | nil =>
      cases b with
      | nil => cases keeps <;> rfl
      | cons c b => cases keeps <;> rfl
  | cons c a ih =>
      rw [List.cons_append, List.length_cons, importsFrom, ih, Nat.add_right_comm,
        Nat.add_assoc position]
      cases keeps <;> rfl

lemma importsFrom_eq (lineStart : Bool) (position : Nat) (t : Text) :
    importsFrom inLiteral 0 true lineStart position t =
      ((importPartsFrom inLiteral lineStart position t).filterMap ImportPart.statement?,
        leftOf (importPartsFrom inLiteral lineStart position t)) := by
  fun_induction importPartsFrom inLiteral lineStart position t with
  | case1 => rfl
  | case2 lineStart position c rest statement after h extent ih =>
      obtain ⟨-, e, rfl, hextent⟩ := exists_of_statementHere? h
      replace hextent : extent = c :: e := hextent
      rw [statementHere?] at h
      rw [importsFrom, h]
      have hskip : (e ++ after).length - after.length = e.length := by
        rw [List.length_append, Nat.add_sub_cancel]
      simp only [hskip, importsFrom_append]
      have hposition : position + 1 + e.length = position + extent.length := by
        rw [hextent, List.length_cons, Nat.add_assoc, Nat.add_comm 1]
      have hline : lineStartBehind (decide (c = '\n')) e = lineStartBehind lineStart extent := by
        rw [hextent]
        rfl
      rw [hposition, hline, ih, List.filterMap_append, statements_statementParts, leftOf_append,
        leftOf_statementParts, hextent]
      cases inLiteral position <;> rfl
  | case3 lineStart position c rest h ih =>
      rw [statementHere?] at h
      rw [importsFrom, h]
      simp only [ih]
      rfl

/-- **Extraction collects the statements taken out, and leaves the other characters.** -/
lemma extractImports_eq (t : Text) : extractImports t =
    ⟨((importParts t).filterMap ImportPart.statement?).eraseDups, leftOf (importParts t)⟩ := by
  rw [extractImports, importsFrom_eq]
  rfl

lemma sourceOf_importParts (t : Text) : sourceOf (importParts t) = t :=
  sourceOf_importPartsFrom _ true 0 t

end

/-! ## Where statements are taken out -/

/-- Statements are taken out where a line begins, outside literals. `lineStart` says whether a line
begins with the parts. -/
def Placed (inLiteral : Nat → Bool) : (lineStart : Bool) → (position : Nat) → List ImportPart → Prop
  | _, _, [] => True
  | _, position, .kept c :: parts => Placed inLiteral (c = '\n') (position + 1) parts
  | lineStart, position, .taken _ extent :: parts =>
    lineStart = true ∧ inLiteral position = false ∧ extent ≠ [] ∧
      Placed inLiteral (lineStartBehind lineStart extent) (position + extent.length) parts

section

variable {inLiteral inLiteral' : Nat → Bool} {lineStart : Bool} {position position' : Nat}
  {parts qs : List ImportPart} {k : Text}

lemma placed_kept_append : Placed inLiteral lineStart position (k.map .kept ++ qs) ↔
    Placed inLiteral (lineStartBehind lineStart k) (position + k.length) qs := by
  induction k generalizing lineStart position with
  | nil => rfl
  | cons c k ih =>
      rw [List.map_cons, List.cons_append, Placed, ih, List.length_cons, Nat.add_right_comm,
        Nat.add_assoc position]
      rfl

lemma placed_importPartsFrom (t : Text) :
    Placed inLiteral lineStart position (importPartsFrom inLiteral lineStart position t) := by
  fun_induction importPartsFrom inLiteral lineStart position t with
  | case1 => trivial
  | case2 lineStart position c rest statement after h extent ih =>
      obtain ⟨hline, e, rfl, hextent⟩ := exists_of_statementHere? h
      replace hextent : extent = c :: e := hextent
      cases hposition : inLiteral position with
      | true => exact placed_kept_append.mpr ih
      | false => exact ⟨hline, hposition, hextent ▸ List.cons_ne_nil c e, ih⟩
  | case3 lineStart position c rest h ih => exact ih

end

/-! ## What is missed -/

/-- What follows a statement taken out is read as if the text began there: no literal and no comment goes
on behind it. -/
def areWhole : List ImportPart → Bool
  | [] => true
  | .kept _ :: parts => areWhole parts
  | .taken _ extent :: parts =>
    Piece.ofText (extent ++ sourceOf parts) == Piece.ofText extent ++ Piece.ofText (sourceOf parts) &&
      areWhole parts

/-- No import stays, outside literals, at the beginning of a line or directly behind a statement taken
out. `fresh` says whether the parts begin at such a place. -/
def noneMissed (inLiteral : Nat → Bool) : (fresh : Bool) → (position : Nat) → List ImportPart → Bool
  | _, _, [] => true
  | fresh, position, .kept c :: parts =>
    (!(fresh && (importHere? (c :: sourceOf parts)).isSome) || inLiteral position) &&
      noneMissed inLiteral (c = '\n') (position + 1) parts
  | _, position, .taken _ extent :: parts =>
    noneMissed inLiteral true (position + extent.length) parts

/-- Whether no import of the source is missed. -/
def noImportMissed (t : Text) : Bool := noneMissed (insideSpan (stringSpans t)) true 0 (importParts t)

/-- Every import at the beginning of a line lies within a literal. -/
def IsCleared (t : Text) : Prop :=
  ∀ a b, t = a ++ b → AtLineStart a → (importHere? b).isSome = true →
    insideSpan (stringSpans t) a.length = true

/-! ## Lines -/

lemma lineStartBehind_concat (lineStart : Bool) (t : Text) (c : Char) :
    lineStartBehind lineStart (t ++ [c]) = decide (c = '\n') := by
  rw [lineStartBehind, List.foldl_append]
  rfl

lemma lineStartBehind_true_iff {t : Text} : lineStartBehind true t = true ↔ AtLineStart t := by
  rcases List.eq_nil_or_concat t with rfl | ⟨t, c, rfl⟩
  · exact ⟨fun _ => atLineStart_nil, fun _ => rfl⟩
  · rw [List.concat_eq_append, lineStartBehind_concat, AtLineStart, List.getLast?_concat,
      decide_eq_true_eq]
    exact ⟨fun h d hd => Option.some_inj.mp hd ▸ h, fun h => h c rfl⟩

lemma atLineStart_of_lineStartBehind {lineStart : Bool} {t : Text}
    (h : lineStartBehind lineStart t = true) : AtLineStart t := by
  rcases List.eq_nil_or_concat t with rfl | ⟨t, c, rfl⟩
  · exact atLineStart_nil
  · rw [List.concat_eq_append] at h ⊢
    exact lineStartBehind_true_iff.mp ((lineStartBehind_concat _ _ _).trans
      ((lineStartBehind_concat _ _ _).symm.trans h))

/-! ## What is missed is left -/

section

variable {inLiteral inLiteral' : Nat → Bool} {fresh lineStart : Bool} {position position' : Nat}
  {parts qs : List ImportPart} {k t : Text}

/-- Sources are statements taken out, and characters before, between and behind them. -/
lemma ImportPart.induction {motive : List ImportPart → Prop} (kept : ∀ k : Text, motive (k.map .kept))
    (taken : ∀ (k : Text) (statement extent : Text) (parts : List ImportPart), motive parts →
      motive (k.map .kept ++ .taken statement extent :: parts)) (parts : List ImportPart) :
    motive parts := by
  suffices h : ∀ k : Text, motive (k.map .kept ++ parts) from h []
  induction parts with
  | nil =>
      intro k
      rw [List.append_nil]
      exact kept k
  | cons part parts ih =>
      intro k
      cases part with
      | kept c =>
          have h := ih (k ++ [c])
          rwa [List.map_append, List.append_assoc] at h
      | taken statement extent => exact taken k statement extent parts (ih [])

/-- Among the same characters the same is missed, if the same imports are seen and the literals are the
same. -/
lemma noneMissed_kept_append
    (hseen : ∀ v, v <:+ k → v ≠ [] → (importHere? (v ++ sourceOf parts)).isSome =
      (importHere? (v ++ sourceOf qs)).isSome)
    (hinside : ∀ y < k.length, inLiteral (position + y) = inLiteral' (position' + y))
    (hrest : noneMissed inLiteral (lineStartBehind fresh k) (position + k.length) parts =
      noneMissed inLiteral' (lineStartBehind fresh k) (position' + k.length) qs) :
    noneMissed inLiteral fresh position (k.map .kept ++ parts) =
      noneMissed inLiteral' fresh position' (k.map .kept ++ qs) := by
  induction k generalizing fresh position position' with
  | nil => exact hrest
  | cons c k ih =>
      have hfirst := hseen (c :: k) (List.suffix_refl _) (List.cons_ne_nil c k)
      have hsource (parts : List ImportPart) :
          c :: sourceOf (k.map .kept ++ parts) = c :: k ++ sourceOf parts := by
        rw [sourceOf_append, sourceOf_kept]
        rfl
      have hhere := hinside 0 (Nat.succ_pos _)
      have hothers : noneMissed inLiteral (c = '\n') (position + 1) (k.map .kept ++ parts) =
          noneMissed inLiteral' (c = '\n') (position' + 1) (k.map .kept ++ qs) := by
        refine ih (fun v hv => hseen v (hv.trans (List.suffix_cons c k))) (fun y hy => ?_) ?_
        · have hy := hinside (y + 1) (Nat.succ_lt_succ hy)
          rwa [Nat.add_comm y, ← Nat.add_assoc, ← Nat.add_assoc] at hy
        · rw [Nat.add_assoc, Nat.add_assoc, Nat.add_comm 1]
          exact hrest
      rw [Nat.add_zero, Nat.add_zero] at hhere
      rw [List.map_cons, List.cons_append, List.cons_append, noneMissed, noneMissed, hsource, hsource,
        hfirst, hhere, hothers]

lemma areWhole_kept_append (k : Text) (qs : List ImportPart) :
    areWhole (k.map .kept ++ qs) = areWhole qs := by
  induction k with
  | nil => rfl
  | cons c k ih => exact ih

/-- From the position on, positions lie inside literals as they do in the text. -/
def LiteralsOf (inLiteral : Nat → Bool) (position : Nat) (t : Text) : Prop :=
  ∀ y < t.length, inLiteral (position + y) = inside (Piece.ofText t) y

namespace LiteralsOf

variable {a b : Text} (hcut : Piece.ofText (a ++ b) = Piece.ofText a ++ Piece.ofText b)

include hcut in
lemma left (h : LiteralsOf inLiteral position (a ++ b)) : LiteralsOf inLiteral position a :=
  fun y hy => by
    rw [h y (by rw [List.length_append]; exact Nat.lt_add_right _ hy), inside_ofText_of_lt hcut hy]

include hcut in
lemma right (h : LiteralsOf inLiteral position (a ++ b)) :
    LiteralsOf inLiteral (position + a.length) b := fun y hy => by
  rw [Nat.add_assoc, h _ (by rw [List.length_append]; exact Nat.add_lt_add_left hy _),
    inside_ofText_add hcut]

lemma ofText_append (h : LiteralsOf inLiteral position (a ++ b)) (ha : AtLineStart a) (hb : b ≠ [])
    (hout : inLiteral (position + a.length) = false) :
    Piece.ofText (a ++ b) = Piece.ofText a ++ Piece.ofText b := by
  refine ofText_append_of_atLineStart ha ((h a.length ?_).symm.trans hout)
  rw [List.length_append]
  exact Nat.lt_add_of_pos_right (List.length_pos_iff.mpr hb)

end LiteralsOf

lemma literalsOf_stringSpans (t : Text) : LiteralsOf (insideSpan (stringSpans t)) 0 t := fun y hy => by
  rw [Nat.zero_add, insideSpan_stringSpans hy]

/-- **What is missed is what is left.** The literals of what is left lie as in the source. -/
lemma noneMissed_eq (parts : List ImportPart) (hplaced : Placed inLiteral lineStart position parts)
    (hwhole : areWhole parts = true) (hsource : LiteralsOf inLiteral position (sourceOf parts))
    (hleft : LiteralsOf inLiteral' position' (leftOf parts)) :
    noneMissed inLiteral true position parts =
      noneMissed inLiteral' true position' ((leftOf parts).map .kept) := by
  induction parts using ImportPart.induction generalizing lineStart position position' with
  | kept k =>
      rw [sourceOf_kept] at hsource
      rw [leftOf_kept] at hleft ⊢
      rw [← List.append_nil (k.map ImportPart.kept)]
      exact noneMissed_kept_append (fun _ _ _ => rfl)
        (fun y hy => (hsource y hy).trans (hleft y hy).symm) rfl
  | taken k statement extent parts ih =>
      obtain ⟨hline, hout, hne, hplaced⟩ := placed_kept_append.mp hplaced
      rw [areWhole_kept_append, areWhole, Bool.and_eq_true, beq_iff_eq] at hwhole
      obtain ⟨hbehind, hwhole⟩ := hwhole
      rw [sourceOf_append, sourceOf_kept] at hsource
      rw [leftOf_append, leftOf_kept] at hleft ⊢
      -- both texts are read apart behind the same characters
      have hk : AtLineStart k := atLineStart_of_lineStartBehind hline
      have hrest : extent ++ sourceOf parts ≠ [] := List.append_ne_nil_of_left_ne_nil hne _
      have hcut := hsource.ofText_append hk hrest hout
      have hcut' := ofText_append_behind hcut hk hrest (leftOf parts)
      have hrest := ih hplaced hwhole ((hsource.right hcut).right hbehind) (hleft.right hcut')
      rw [List.map_append]
      refine noneMissed_kept_append (fun v hv hnil => ?_) (fun y hy => ?_) ?_
      · obtain ⟨u, rfl⟩ := hv
        have hnewline : '\n' ∈ v := hk.of_append.newline_mem hnil
        rw [isSome_importHere?_append hnewline, isSome_importHere?_append hnewline]
      · exact (hsource.left hcut y hy).trans (hleft.left hcut' y hy).symm
      · rw [lineStartBehind_true_iff.mpr hk, noneMissed]
        exact hrest

/-! ## Extracting again -/

lemma noneMissed_kept_iff {u : Text} : noneMissed inLiteral fresh position (u.map .kept) = true ↔
    ∀ a b, u = a ++ b → lineStartBehind fresh a = true → (importHere? b).isSome = true →
      inLiteral (position + a.length) = true := by
  induction u generalizing fresh position with
  | nil =>
      refine ⟨fun _ a b hab _ himport => ?_, fun _ => rfl⟩
      rw [(List.append_eq_nil_iff.mp hab.symm).2] at himport
      cases himport
  | cons c u ih =>
      rw [List.map_cons, noneMissed, Bool.and_eq_true, ih, sourceOf_kept, Bool.or_eq_true,
        Bool.not_eq_true', Bool.and_eq_false_iff]
      constructor
      · rintro ⟨hhere, hothers⟩ a b hab hline himport
        cases a with
        | nil =>
            obtain rfl : c :: u = b := hab
            rcases hhere with (hfresh | hnone) | hin
            · rw [show fresh = true from hline] at hfresh
              cases hfresh
            · rw [hnone] at himport
              cases himport
            · exact hin
        | cons d a =>
            obtain ⟨rfl, rfl⟩ := List.cons.inj hab
            rw [List.length_cons, Nat.add_comm a.length, ← Nat.add_assoc]
            exact hothers a b rfl hline himport
      · intro h
        refine ⟨?_, fun a b hab hline himport => ?_⟩
        · cases fresh with
          | false => exact Or.inl (Or.inl rfl)
          | true =>
              cases himport : (importHere? (c :: u)).isSome with
              | false => exact Or.inl (Or.inr rfl)
              | true => exact Or.inr (h [] (c :: u) rfl rfl himport)
        · have h := h (c :: a) b (by rw [hab, List.cons_append]) hline himport
          rwa [List.length_cons, Nat.add_comm a.length, ← Nat.add_assoc] at h

/-- **Where every import lies within a literal nothing is taken out.** -/
lemma importsFrom_of_noneMissed {u : Text}
    (h : noneMissed inLiteral lineStart position (u.map .kept) = true) (skip : Nat) :
    importsFrom inLiteral skip true lineStart position u = ([], u) := by
  induction u generalizing lineStart position skip with
  | nil => cases skip <;> rfl
  | cons c u ih =>
      rw [List.map_cons, noneMissed, Bool.and_eq_true, sourceOf_kept] at h
      cases skip with
      | succ skip =>
          rw [importsFrom, ih h.2]
          rfl
      | zero =>
          rw [importsFrom]
          split
          · rename_i statement after hsome
            have hin : inLiteral position = true := by
              split at hsome
              · rename_i hline
                rw [hline, hsome] at h
                exact h.1
              · cases hsome
            simp only [hin, ih h.2]
            rfl
          · simp only [ih h.2]

end

/-- **Where every import lies within a literal nothing is taken out.** -/
lemma extractImports_of_isCleared {t : Text} (h : IsCleared t) : extractImports t = ⟨[], t⟩ := by
  have hnone : noneMissed (insideSpan (stringSpans t)) true 0 (t.map .kept) = true :=
    noneMissed_kept_iff.mpr fun a b hab hline himport => by
      rw [Nat.zero_add]
      exact h a b hab (lineStartBehind_true_iff.mp hline) himport
  rw [extractImports, importsFrom_of_noneMissed hnone]
  rfl

/-- **Nothing more is taken out of what is left, unless an import was missed.** If the statements are
taken out with whole literals and comments, then every import at the beginning of a line of what is left
lies within a literal exactly if none was missed in the source. In that case extraction finds no import
in what is left and leaves it as it is. -/
theorem extractImports_extractImports {t : Text} (h : areWhole (importParts t) = true) :
    let r := (extractImports t).source
    (noImportMissed t = true ↔ IsCleared r) ∧
      (noImportMissed t = true → extractImports r = ⟨[], r⟩) := by
  intro r
  have hr : r = leftOf (importParts t) := by
    show (extractImports t).source = _
    rw [extractImports_eq]
  have heq : noImportMissed t = noneMissed (insideSpan (stringSpans r)) true 0 (r.map .kept) := by
    rw [noImportMissed, hr]
    refine noneMissed_eq _ (placed_importPartsFrom t) h ?_ (literalsOf_stringSpans _)
    rw [sourceOf_importParts]
    exact literalsOf_stringSpans t
  have hiff : noImportMissed t = true ↔ IsCleared r := by
    rw [heq, noneMissed_kept_iff]
    simp only [lineStartBehind_true_iff, Nat.zero_add]
    rfl
  exact ⟨hiff, fun hnone => extractImports_of_isCleared (hiff.mp hnone)⟩

/-- A statement with code behind it, an import within a literal, and a list in parentheses over two
lines, with a comment that holds a mark. -/
theorem extractImports_extractImports_varied :
    let t := "import a; b\nc = \"\"\"\nimport d\n\"\"\"\nfrom e import (f,\n  g)  # it's".toList
    let r := "b\nc = \"\"\"\nimport d\n\"\"\"\n".toList
    areWhole (importParts t) = true ∧ noImportMissed t = true ∧ (extractImports t).source = r ∧
      extractImports r = ⟨[], r⟩ := by
  intro t r
  have hwhole : areWhole (importParts t) = true := by decide +kernel
  have hnone : noImportMissed t = true := by decide +kernel
  have hsource : (extractImports t).source = r := by decide +kernel
  have h := (extractImports_extractImports hwhole).2 hnone
  rw [hsource] at h
  exact ⟨hwhole, hnone, hsource, h⟩

/-- **The second of two imports on a line is found only by a second extraction.** -/
theorem extractImports_extractImports_ne :
    (extractImports (extractImports "import a; import b".toList).source).imports ≠ [] := by
  decide +kernel

end FormulaCube
