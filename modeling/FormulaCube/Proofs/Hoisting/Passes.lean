import FormulaCube.Proofs.Hoisting.Calm
import FormulaCube.Proofs.Margin.Alignment
import FormulaCube.Proofs.Margin.Lines
import FormulaCube.Proofs.Shortcut.Independence

/-!
# What is done to texts in which no line begins an import

Expanding the shortcuts of a text brings no import about. Where its lines have no margin in common, only
lines of blanks are changed when the margin is taken away: they become empty, and no import begins in them
before or afterwards.

* `beginsImport_of_expandForm`, `beginsImport_of_expand` — the first line begins an import only if it did.
* `Still.expandForm`, `Still.expand` — neither does any other line of code.
* `cleared` — pieces without the lines of blanks among them; `dedent_textOf` — what is left of a text.
* `HasBareLine` — where there is no common margin.
* `cleared_append_newline`, `cleared_append_code` — putting together.
* `beginsImport_of_cleared`, `Still.cleared` — no import is brought about.
-/

namespace FormulaCube

section

variable {rules : List Rule} {nested : Int → Text → Except ShortcutError Text} {rule : Rule} {start : Int}
  {prev : Option Char} {t r v : Text}

/-! ## The first line -/

lemma isModulePart_of_mem_callee {c : Char} (h : c ∈ rule.callee) : isModulePart c = true := by
  have hall : rule.callee.all isModulePart = true := by cases rule <;> decide
  exact List.all_eq_true.mp hall c h

lemma isImportPart_sigil (rule : Rule) : isImportPart rule.sigil = true := by cases rule <;> rfl

/-- **A pass makes no import**, whatever stands before the text in its line. -/
lemma beginsImport_of_expandForm (h : expandForm nested rule start prev t = .ok r)
    (himport : BeginsImport (v ++ r)) : BeginsImport (v ++ t) := by
  cases shortcuts rule prev t with
  | none hnone =>
      rw [expandForm_of_everyHead hnone] at h
      rwa [Except.ok.inj h]
  | opened hbefore hprev hname hopen =>
      rw [expandForm_opened hbefore hprev hname hopen] at h
      cases h
  | @closed _ before coordinate after name hbefore hprev hname hclose hrest =>
      rw [expandForm_closed hbefore hprev hname hclose rfl] at h
      obtain ⟨expanded, -, h⟩ := exists_of_bind_eq_ok h
      obtain ⟨literal, -, h⟩ := exists_of_bind_eq_ok h
      obtain ⟨rest, -, rfl⟩ := exists_of_map_eq_ok h
      rw [Rule.rewrite_eq hname] at himport
      simp only [List.append_assoc, List.cons_append] at himport
      rw [← List.append_assoc] at himport ⊢
      exact himport.of_call (fun _ => isModulePart_of_mem_callee) (isImportPart_sigil rule) _

lemma beginsImport_of_foldlM (later : List Rule)
    (h : later.foldlM (fun t rule => expandForm nested rule start none t) t = .ok r)
    (himport : BeginsImport (v ++ r)) : BeginsImport (v ++ t) := by
  induction later generalizing t with
  | nil => rwa [Except.ok.inj h]
  | cons rule later ih =>
      rw [List.foldlM_cons] at h
      obtain ⟨u, hpass, h⟩ := exists_of_bind_eq_ok h
      exact beginsImport_of_expandForm hpass (ih h)

/-- **Expanding makes no import.** -/
lemma beginsImport_of_expand (h : expand rules t = .ok r) (himport : BeginsImport (v ++ r)) :
    BeginsImport (v ++ t) := by
  rw [expand] at h
  cases hdepth : sigilCount t with
  | zero =>
      rw [hdepth] at h
      rwa [Except.ok.inj h]
  | succ depth =>
      rw [hdepth] at h
      exact beginsImport_of_foldlM rules h himport

/-! ## All lines -/

namespace Still

/-- A piece is put before what a pass makes of the text behind it. -/
lemma cons {p : Piece → Prop} {x : Piece} (hx : x.IsWhole) (hp : p x)
    (hends : ∀ c ∈ t.head?, x.EndsBefore c) (hline : x = .code '\n' → ¬ BeginsImport t) (h : Still p t) :
    Still p (x.text ++ t) := by
  obtain ⟨ps, rfl, htidy, hcalm⟩ := h
  exact ⟨x :: ps, (textOf_cons x ps).symm, ⟨hx, hp, hends, htidy⟩, hline, hcalm⟩

/-- What is nested in shortcuts stays still. -/
def NestedStill (rules : List Rule) (nested : Int → Text → Except ShortcutError Text) : Prop :=
  ∀ offset t r, Still (Piece.IsStill rules) t → nested offset t = .ok r → Still (Piece.IsStill rules) r

/-- **The call in place of a shortcut is still.** -/
lemma rewrite {name : Option Text} (hname : rule.Admits name) {literal : Text}
    (hliteral : Still (Piece.IsBareStill rules) literal) (hfirm : IsFirm literal)
    (h : Still (Piece.IsStill rules) t) :
    Still (Piece.IsStill rules) (rule.rewrite name literal ++ t) := by
  have hcode (c : Char) : (Piece.code c).IsStill rules := ⟨trivial, trivial⟩
  have hcoordinate : Still (Piece.IsStill rules) (literal ++ ')' :: t) :=
    hliteral.append_stop (fun _ hx => hx.1) hfirm (h.codes (a := [')']) hcode rfl) rfl (by decide) rfl
  have harguments : Still (Piece.IsStill rules) (Rule.leading name ++ (literal ++ ')' :: t)) := by
    cases name with
    | none => exact hcoordinate
    | some name =>
        have hquoted : Rule.leading (some name) = ('\'' :: (name ++ ['\''])) ++ [',', ' '] := by
          rw [Rule.leading, List.cons_append, List.append_assoc]
          rfl
        rw [hquoted, List.append_assoc]
        refine (Still.name (isNamePart_of_isCubeName hname.2)).append_stop (fun _ hx => hx.1) ?_
          (hcoordinate.codes (a := [',', ' ']) hcode (by decide)) rfl (by decide) rfl
        rw [← List.cons_append]
        refine IsFirm.append ?_ (List.cons_ne_nil _ _) _
        rintro c ⟨⟩
        rfl
  have hcallee := isLineCode_of_isNamePart rule.isNamePart_of_mem_callee
  have hcall := (harguments.codes (a := ['(']) hcode rfl).codes hcode hcallee
  rw [Rule.rewrite_eq hname]
  simpa only [List.append_assoc, List.cons_append, List.nil_append] using hcall

/-- **A shortcut is replaced.** -/
lemma expandHead (hnested : NestedStill rules nested) {name : Option Text} (hname : rule.Admits name)
    (h : Still (Piece.IsStill rules) t)
    (hrest : ∀ u r start, u.length < t.length → Still (Piece.IsStill rules) u →
      expandForm nested rule start (some ')') u = .ok r → Still (Piece.IsStill rules) r)
    {inner : Int} {whole : Text} (hread : FormulaCube.expandHead nested rule inner whole name t = .ok r) :
    Still (Piece.IsStill rules) r := by
  obtain ⟨ps, rfl, htidy, hcalm⟩ := h
  rw [FormulaCube.expandHead] at hread
  rcases (Shifted.refl ps).closesAlike [')'] with hnone | ⟨x, before, after, _, _, -, rfl, hps, -⟩
  · rw [closingParen?, htidy.ofText_textOf, (hnone 0).1] at hread
    cases hread
  · obtain ⟨hclose, htake, hdrop, hlength⟩ := Moved.closingParen?_textOf htidy hps
    simp only [hclose, htake, hdrop] at hread
    obtain ⟨coordinate, hcoordinate, hread⟩ := exists_of_bind_eq_ok hread
    obtain ⟨literal, hliteral, hread⟩ := exists_of_bind_eq_ok hread
    obtain ⟨rest, hbehind, hread⟩ := exists_of_bind_eq_ok hread
    have hinside : Still (Piece.IsStill rules) (textOf before) :=
      ⟨before, rfl, htidy.of_append.1, hcalm.left⟩
    have hafter : Still (Piece.IsStill rules) (textOf after) :=
      ⟨after, rfl, htidy.of_append.2.2.2.2, hcalm.right.2⟩
    obtain ⟨hstill, hfirm⟩ :=
      (hnested _ _ _ hinside hcoordinate).coordinateLiteral (ok_of_mapError_eq_ok _ hliteral)
    rw [← Except.ok.inj hread]
    exact hstill.rewrite hname hfirm (hrest _ _ _ hlength hafter hbehind)

/-- **One pass.** -/
lemma expandForm (hrule : rule ∈ rules) (hnested : NestedStill rules nested)
    (h : Still (Piece.IsStill rules) t) (hpass : expandForm nested rule start prev t = .ok r) :
    Still (Piece.IsStill rules) r := by
  induction hn : t.length using Nat.strongRecOn generalizing t start prev r with
  | _ n ih =>
      subst hn
      obtain ⟨ps, rfl, htidy, hcalm⟩ := h
      cases ps with
      | nil =>
          rw [show textOf [] = [] from rfl, expandForm_nil] at hpass
          rw [← Except.ok.inj hpass]
          exact nil
      | cons x ps =>
          have hps : Still (Piece.IsStill rules) (textOf ps) := ⟨ps, rfl, htidy.2.2.2, hcalm.2⟩
          by_cases hcode : ∃ c, x = .code c
          · obtain ⟨c, rfl⟩ := hcode
            rw [textOf_cons, Piece.text, List.singleton_append] at hpass
            rcases rule.here_or_skip prev c (textOf ps) with ⟨hprecede, name, after, hhead⟩ | hskip
            · rw [expandForm_here hprecede hhead] at hpass
              obtain ⟨-, hname, htext⟩ := Rule.headHere?_eq_some_iff.mp hhead
              have hafter : Still (Piece.IsStill rules) after := by
                rw [htext] at hps
                exact (hps.of_codes (isLineCode_of_isNamePart hname.isNamePart)).of_codes (a := ['(']) rfl
              refine expandHead hnested hname hafter (fun u _ _ hlength hu hrest => ?_) hpass
              refine ih u.length ?_ hu hrest rfl
              rw [textOf_cons, htext]
              simp
              omega
            · rw [expandForm_skip hskip] at hpass
              obtain ⟨rest, hrest, rfl⟩ := exists_of_map_eq_ok hpass
              refine cons (x := .code c) htidy.1 htidy.2.1 (fun _ _ => trivial) (fun hline himport => ?_)
                (ih _ (Nat.lt_succ_self _) hps hrest rfl)
              exact hcalm.1 hline (beginsImport_of_expandForm (v := []) hrest himport)
          · have hcode (c : Char) : x ≠ .code c := fun heq => hcode ⟨c, heq⟩
            rw [textOf_cons, expandForm_piece hrule htidy.1 htidy.2.1.1 hcode htidy.2.2.1] at hpass
            obtain ⟨rest, hrest, rfl⟩ := exists_of_map_eq_ok hpass
            obtain ⟨c, k, hx⟩ := htidy.1.readBefore_nil.exists_text_eq
            have hlength : (textOf ps).length < (textOf (x :: ps)).length := by
              rw [textOf_cons, hx, List.length_append, List.length_cons]
              omega
            refine cons htidy.1 htidy.2.1 (fun d hd => ?_) (fun hline => absurd hline (hcode _))
              (ih _ hlength hps hrest rfl)
            exact Moved.endsBefore_of_expandForm hrest htidy.1 htidy.2.2.1 d hd

/-- **All passes, to any depth.** -/
lemma expandWithin (depth : Nat) : NestedStill rules (expandWithin rules depth) := by
  induction depth with
  | zero =>
      intro offset t r h hr
      rwa [← Except.ok.inj hr]
  | succ depth ih =>
      intro offset t r h hr
      have hpasses (later : List Rule) (hlater : ∀ rule ∈ later, rule ∈ rules) {t : Text}
          (h : Still (Piece.IsStill rules) t) (hr : later.foldlM (fun t rule =>
            FormulaCube.expandForm (FormulaCube.expandWithin rules depth) rule offset none t) t = .ok r) :
          Still (Piece.IsStill rules) r := by
        induction later generalizing t with
        | nil => rwa [← Except.ok.inj hr]
        | cons rule later ih' =>
            rw [List.foldlM_cons] at hr
            obtain ⟨u, hpass, hr⟩ := exists_of_bind_eq_ok hr
            exact ih' (fun other hother => hlater other (List.mem_cons_of_mem _ hother))
              (h.expandForm (hlater rule List.mem_cons_self) ih hpass) hr
      exact hpasses rules (fun _ hrule => hrule) h hr

/-- **Expanding leaves a text still.** -/
theorem expand (h : Still (Piece.IsStill rules) t) (hr : expand rules t = .ok r) :
    Still (Piece.IsStill rules) r :=
  expandWithin _ 0 t r h hr

end Still

end

/-! ## Lines of blanks -/

/-- The pieces without the blanks of lines that hold nothing else. `fresh` says whether a line begins
with the first of the pieces. -/
def cleared (fresh : Bool) : List Piece → List Piece
  | [] => []
  | x :: ps =>
    if fresh = true ∧ x ≠ .code '\n' ∧ opensBlank true (x :: ps) = true then cleared true ps
    else x :: cleared (x = .code '\n') ps

section

variable {p : Piece → Prop} {fresh : Bool} {x : Piece} {ps qs : List Piece} {v : Text}

lemma cleared_newline (fresh : Bool) (ps : List Piece) :
    cleared fresh (.code '\n' :: ps) = .code '\n' :: cleared true ps := by
  rw [cleared, if_neg fun h => h.2.1 rfl, decide_eq_true rfl]

lemma cleared_cons_of_blank (hx : x ≠ .code '\n') (h : opensBlank true (x :: ps) = true) :
    cleared true (x :: ps) = cleared true ps := by
  rw [cleared, if_pos ⟨rfl, hx, h⟩]

lemma cleared_cons (hx : x ≠ .code '\n') (h : fresh = true → opensBlank true (x :: ps) = false) :
    cleared fresh (x :: ps) = x :: cleared false ps := by
  rw [cleared, if_neg, decide_eq_false hx]
  rintro ⟨hfresh, -, hblank⟩
  rw [h hfresh] at hblank
  cases hblank

lemma cleared_false_cons (x : Piece) (ps : List Piece) :
    cleared false (x :: ps) = x :: cleared (x = .code '\n') ps := by
  rw [cleared, if_neg fun h => by cases h.1]

/-- A line is cleared, ends, or holds more than blanks. -/
lemma cleared_cases (fresh : Bool) (x : Piece) (ps : List Piece) : x = .code '\n' ∨
    (fresh = true ∧ x ≠ .code '\n' ∧ opensBlank true (x :: ps) = true) ∨
    (x ≠ .code '\n' ∧ (fresh = true → opensBlank true (x :: ps) = false)) := by
  by_cases hx : x = .code '\n'
  · exact .inl hx
  · cases fresh with
    | false => exact .inr (.inr ⟨hx, nofun⟩)
    | true =>
        cases hblank : opensBlank true (x :: ps) with
        | true => exact .inr (.inl ⟨rfl, hx, rfl⟩)
        | false => exact .inr (.inr ⟨hx, fun _ => rfl⟩)

lemma opensBlank_cons_of_ne (hx : x ≠ .code '\n') {ends : Bool} (h : opensBlank ends (x :: ps) = true) :
    (∃ c, x = .code c ∧ c ≠ '\n' ∧ Text.isBlank c = true) ∧ opensBlank ends ps = true := by
  cases x with
  | code c =>
      have hc : c ≠ '\n' := fun hc => hx (congrArg Piece.code hc)
      rw [opensBlank, decide_eq_false hc, Bool.false_or, Bool.and_eq_true] at h
      exact ⟨⟨c, rfl, hc, h.1⟩, h.2⟩
  | literal body cut => cases h
  | comment body => cases h

/-! ## The text without a common margin -/

lemma dedentLine_zero (line : Text) :
    dedentLine 0 (line, false) = if line.isBlankText then [] else line := rfl

lemma isBlankText_marks_flagged (htidy : Tidy p ps) :
    (marks (flagged ps)).1.isBlankText = opensBlank true ps := by
  rw [isBlankText_marks, map_fst_flagged, opensBlank_eq htidy]

/-- The lines of the pieces, the first of which stays as it is unless a line begins with it. -/
lemma textOf_cleared (htidy : Tidy p ps) (fresh : Bool) :
    textOf (cleared fresh ps) = Text.join ['\n']
      ((if fresh then dedentLine 0 ((marks (flagged ps)).1, false) else (marks (flagged ps)).1) ::
        (marks (flagged ps)).2.map (dedentLine 0)) := by
  induction ps generalizing fresh with
  | nil => cases fresh <;> rfl
  | cons x ps ih =>
      have ih := ih htidy.2.2.2
      have hjoin (hx : x ≠ .code '\n') : Text.join ['\n'] ((marks (flagged (x :: ps))).1 ::
          (marks (flagged (x :: ps))).2.map (dedentLine 0)) = x.text ++ textOf (cleared false ps) := by
        rw [ih, flagged_cons, join_marks_append (fun _ => rfl) _ _ fun inside =>
          eq_true_of_newline_mem htidy.1 hx, List.map_map]
        exact congrArg (· ++ _) (List.map_id _)
      rcases cleared_cases fresh x ps with rfl | ⟨rfl, hx, hblank⟩ | ⟨hx, hblank⟩
      · have hmarks : marks (flagged (.code '\n' :: ps)) =
            ([], ((marks (flagged ps)).1, false) :: (marks (flagged ps)).2) := rfl
        have hempty : dedentLine 0 ([], false) = [] := rfl
        rw [cleared_newline, textOf_cons, ih, hmarks, hempty, ite_self, List.map_cons,
          join_nil_cons _ (List.cons_ne_nil _ _)]
        rfl
      · obtain ⟨⟨c, rfl, hc, -⟩, hrest⟩ := opensBlank_cons_of_ne hx hblank
        have hmarks : (marks (flagged (.code c :: ps))).2 = (marks (flagged ps)).2 := by
          rw [flagged_cons, Piece.text, List.map_singleton, List.singleton_append, marks_cons hc]
        rw [cleared_cons_of_blank hx hblank, ih, if_pos rfl, if_pos rfl, dedentLine_zero, dedentLine_zero,
          isBlankText_marks_flagged htidy, isBlankText_marks_flagged htidy.2.2.2, hblank, hrest, hmarks]
        rfl
      · have hline : (if fresh then dedentLine 0 ((marks (flagged (x :: ps))).1, false)
            else (marks (flagged (x :: ps))).1) = (marks (flagged (x :: ps))).1 := by
          split
          · rename_i hfresh
            rw [dedentLine_zero, isBlankText_marks_flagged htidy, hblank hfresh]
            rfl
          · rfl
        rw [cleared_cons hx hblank, textOf_cons, hline, hjoin hx]

/-- **Without a common margin only lines of blanks are changed.** -/
lemma dedent_textOf (htidy : Tidy p ps) (hmargin : codeMargin (markedLines (textOf ps)) = []) :
    dedent (textOf ps) = textOf (cleared true ps) := by
  rw [codeMargin] at hmargin
  rw [dedent_eq, hmargin, textOf_cleared htidy, if_pos rfl, markedLines_textOf htidy]
  rfl

/-! ## Lines without a margin -/

lemma marks_append_newline (cs ds : List (Char × Bool)) (inside : Bool) :
    marks (cs ++ ('\n', inside) :: ds) =
      ((marks cs).1, (marks cs).2 ++ ((marks ds).1, inside) :: (marks ds).2) := by
  induction cs with
  | nil => rfl
  | cons c cs ih =>
      obtain ⟨c, here⟩ := c
      by_cases hc : c = '\n'
      · subst hc
        rw [List.cons_append, marks_cons_newline, marks_cons_newline, ih]
        rfl
      · rw [List.cons_append, marks_cons hc, marks_cons hc, ih]

lemma markedLines_append_newline (h : Tidy p (ps ++ .code '\n' :: qs)) :
    markedLines (textOf (ps ++ .code '\n' :: qs)) = markedLines (textOf ps) ++ markedLines (textOf qs) := by
  have hflagged : flagged (ps ++ .code '\n' :: qs) = flagged ps ++ ('\n', false) :: flagged qs := by
    rw [flagged, List.flatMap_append]
    rfl
  rw [markedLines_textOf h, markedLines_textOf h.of_append.1, markedLines_textOf h.of_append.2.2.2.2,
    hflagged, marks_append_newline]
  rfl

/-- A line of code begins with no blank. -/
def HasBareLine (t : Text) : Prop :=
  ∃ line ∈ markedLines t, line.2 = false ∧ ∃ c k, line.1 = c :: k ∧ Text.isBlank c = false

/-- **Next to such a line there is no common margin.** -/
lemma HasBareLine.codeMargin_eq {t : Text} (h : HasBareLine t) : codeMargin (markedLines t) = [] := by
  obtain ⟨⟨line, inside⟩, hmem, rfl, c, k, rfl, hc⟩ := h
  have hcode : isCodeLine (c :: k, false) = true := by
    rw [isCodeLine, Text.isBlankText, List.all_cons, hc]
    rfl
  have hprefix := commonMargin_isPrefix
    (List.mem_map_of_mem (f := Prod.fst) (List.mem_filter.mpr ⟨hmem, hcode⟩))
  rw [List.takeWhile_cons_of_neg (by rw [hc]; exact Bool.false_ne_true)] at hprefix
  exact List.prefix_nil.mp hprefix

/-- A text that begins with no blank. -/
lemma hasBareLine_of_not_isBlank {c : Char} (hc : Text.isBlank c = false) (t : Text) :
    HasBareLine (c :: t) := by
  have hne : c ≠ '\n' := by
    rintro rfl
    cases hc
  have htext := map_fst_ongoing (Piece.ofText (c :: t))
  rw [textOf_ofText] at htext
  rw [HasBareLine, markedLines_eq]
  refine ⟨_, List.mem_cons_self, rfl, c, ?_⟩
  cases hmarked : ongoing (Piece.ofText (c :: t)) with
  | nil =>
      rw [hmarked] at htext
      cases htext
  | cons d ds =>
      obtain ⟨d, inside⟩ := d
      rw [hmarked] at htext
      obtain rfl : d = c := (List.cons.inj htext).1
      exact ⟨_, by rw [marks_cons hne], hc⟩

/-! ## Putting together -/

lemma opensBlank_append_newline (ps qs : List Piece) :
    opensBlank true (ps ++ .code '\n' :: qs) = opensBlank true ps := by
  induction ps with
  | nil => rfl
  | cons x ps ih =>
      cases x with
      | code c => exact congrArg (fun b => decide (c = '\n') || (Text.isBlank c && b)) ih
      | literal body cut => rfl
      | comment body => rfl

/-- A line is cleared whatever stands behind its end. -/
lemma cleared_append_newline (fresh : Bool) (ps qs : List Piece) :
    cleared fresh (ps ++ .code '\n' :: qs) = cleared fresh ps ++ .code '\n' :: cleared true qs := by
  induction ps generalizing fresh with
  | nil => exact cleared_newline fresh qs
  | cons x ps ih =>
      rw [List.cons_append, cleared, cleared, ih, ih, ← List.cons_append, opensBlank_append_newline]
      split <;> rfl

lemma length_cleared_le (fresh : Bool) (ps : List Piece) : (cleared fresh ps).length ≤ ps.length := by
  induction ps generalizing fresh with
  | nil => exact Nat.le_refl _
  | cons x ps ih =>
      rw [cleared]
      split
      · exact Nat.le_succ_of_le (ih true)
      · exact Nat.succ_le_succ (ih _)

/-- Pieces without lines of blanks stay, and the line goes on behind them. -/
lemma cleared_append_code {c : Char} (hc : Text.isBlank c = false) (h : cleared fresh ps = ps)
    (qs : List Piece) :
    cleared fresh (ps ++ .code c :: qs) = ps ++ .code c :: cleared false qs := by
  have hne : Piece.code c ≠ .code '\n' := by
    rintro ⟨⟩
    cases hc
  induction ps generalizing fresh with
  | nil =>
      refine cleared_cons hne fun _ => ?_
      rw [opensBlank, hc, decide_eq_false fun heq => hne (congrArg Piece.code heq)]
      rfl
  | cons x ps ih =>
      have hlong : cleared true ps ≠ x :: ps := fun heq => by
        have hlength := length_cleared_le true ps
        rw [heq] at hlength
        exact Nat.not_succ_le_self _ hlength
      rw [List.cons_append]
      rcases cleared_cases fresh x ps with rfl | ⟨rfl, hx, hblank⟩ | ⟨hx, hblank⟩
      · rw [cleared_newline] at h ⊢
        rw [ih (List.cons.inj h).2]
        rfl
      · rw [cleared_cons_of_blank hx hblank] at h
        exact absurd h hlong
      · rw [cleared_cons hx hblank] at h
        rw [cleared_cons hx, ih (List.cons.inj h).2]
        · rfl
        intro hfresh
        refine Bool.eq_false_iff.mpr fun hopens => ?_
        have hcode : (Piece.code c).isBlank = false := hc
        have hopens : opensBlank false (x :: ps) = true := opensBlank_of_append hcode hopens
        have hline : opensBlank true (x :: ps ++ []) = true := opensBlank_append hopens []
        rw [List.append_nil, hblank hfresh] at hline
        cases hline

/-! ## What is left -/

/-- A line of blanks becomes empty. -/
lemma newline_of_cleared (h : opensBlank true ps = true) :
    ∀ c ∈ (textOf (cleared true ps)).head?, c = '\n' := by
  induction ps with
  | nil => nofun
  | cons x ps ih =>
      rcases cleared_cases true x ps with rfl | ⟨-, hx, hblank⟩ | ⟨-, hblank⟩
      · rw [cleared_newline]
        rintro c ⟨⟩
        rfl
      · rw [cleared_cons_of_blank hx hblank]
        exact ih (opensBlank_cons_of_ne hx h).2
      · rw [hblank rfl] at h
        cases h

/-- **Clearing lines brings no import about**, whatever stands before them. -/
lemma beginsImport_of_cleared (fresh : Bool) (h : BeginsImport (v ++ textOf (cleared fresh ps))) :
    BeginsImport (v ++ textOf ps) := by
  induction ps generalizing fresh v with
  | nil => exact h
  | cons x ps ih =>
      have hkept {fresh : Bool} (h : BeginsImport (v ++ textOf (x :: cleared fresh ps))) :
          BeginsImport (v ++ textOf (x :: ps)) := by
        rw [textOf_cons, ← List.append_assoc] at h ⊢
        exact ih _ h
      rcases cleared_cases fresh x ps with rfl | ⟨rfl, hx, hblank⟩ | ⟨hx, hblank⟩
      · rw [cleared_newline] at h
        exact hkept h
      · have hline := newline_of_cleared hblank
        suffices BeginsImport v from this.append _
        cases htext : textOf (cleared true (x :: ps)) with
        | nil => rwa [htext, List.append_nil] at h
        | cons c t =>
            rw [htext] at h hline
            rw [hline c rfl] at h
            exact h.of_line
      · rw [cleared_cons hx hblank] at h
        exact hkept h

lemma head?_cleared (htidy : Tidy p ps) : (textOf (cleared false ps)).head? = (textOf ps).head? := by
  cases ps with
  | nil => rfl
  | cons x ps =>
      have hread := htidy.1.readBefore_nil
      rw [cleared_false_cons, hread.head?_textOf_cons, hread.head?_textOf_cons]

lemma Tidy.cleared (h : Tidy p ps) (fresh : Bool) : Tidy p (cleared fresh ps) := by
  induction ps generalizing fresh with
  | nil => trivial
  | cons x ps ih =>
      obtain ⟨hx, hp, hends, hps⟩ := h
      rcases cleared_cases fresh x ps with rfl | ⟨rfl, hne, hblank⟩ | ⟨hne, hblank⟩
      · rw [cleared_newline]
        exact ⟨hx, hp, fun _ _ => trivial, ih hps _⟩
      · rw [cleared_cons_of_blank hne hblank]
        exact ih hps _
      · rw [cleared_cons hne hblank]
        exact ⟨hx, hp, fun c hc => hends c (head?_cleared hps ▸ hc), ih hps _⟩

lemma Calm.cleared (h : Calm ps) (fresh : Bool) : Calm (cleared fresh ps) := by
  induction ps generalizing fresh with
  | nil => trivial
  | cons x ps ih =>
      rw [FormulaCube.cleared]
      split
      · exact ih h.2 _
      · exact ⟨fun hx himport => h.1 hx (beginsImport_of_cleared (v := []) _ himport), ih h.2 _⟩

end

/-- The text without the blanks of lines that hold nothing else. -/
def clearedText (fresh : Bool) (t : Text) : Text := textOf (cleared fresh (Piece.ofText t))

/-- **Cleared texts are still.** -/
lemma Still.cleared {p : Piece → Prop} {t : Text} (h : Still p t) (fresh : Bool) :
    Still p (clearedText fresh t) := by
  obtain ⟨ps, rfl, htidy, hcalm⟩ := h
  rw [clearedText, htidy.ofText_textOf]
  exact ⟨_, rfl, htidy.cleared fresh, hcalm.cleared fresh⟩

end FormulaCube
