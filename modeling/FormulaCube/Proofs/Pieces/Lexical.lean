import FormulaCube.Proofs.Pieces.Reading

/-!
# Where literals end

A literal begins with one mark or with three, and it ends where its marks stand again and no backslash
escapes them; a literal in one mark also ends with its line. Literals in one mark are read by that rule.
Literals in three marks are read up to the first three marks, escaped or not.

* `Lexical.isEscaped`, `Lexical.reach` — the rule; `Lexical.spans` — the literals of a text by it.
* `Lexical.reachOfMarks` — how far literals in three marks are read.
* `Lexical.reach_eq_reachOfMarks_iff` — when that is the same.
* `stringSpans_lexical` — where each literal ends, and when all of them end by the rule.
-/

namespace FormulaCube

open Piece

namespace Lexical

/-! ## The rule -/

/-- Whether what follows is escaped: an odd number of backslashes stands before it. -/
def isEscaped (before : Text) : Bool :=
  (before.reverse.takeWhile (· == Text.backslash)).length % 2 == 1

/-- The marks with which a literal begins, three of them if they stand in a row, and what stands behind
them. -/
def opening? : Text → Option (Text × Text)
  | [] => none
  | c :: rest =>
    if Text.isQuote c then
      if [c, c].isPrefixOf rest then some ([c, c, c], rest.drop 2) else some ([c], rest)
    else none

/-- Whether the literal with these marks ends at this place of what stands behind them. Its marks stand
there, or its line ends if it has one mark; and neither is escaped. -/
def endsAt (marks content : Text) (i : Nat) : Bool :=
  !isEscaped (content.take i) && (marks.isPrefixOf (content.drop i) ||
    marks.length == 1 && (content.drop i).head? == some '\n')

/-- How far the literal with these marks reaches behind them: past the first place where it ends, and
otherwise to the end of the text, or one further if a backslash escapes what is missing there. -/
def reach (marks content : Text) : Nat :=
  match (List.range content.length).find? (endsAt marks content) with
  | some i => i + marks.length
  | none => content.length + if isEscaped content then 1 else 0

/-- The literals of the text that begins at `start`, by the rule. Within comments there are none. -/
def spansFrom (start : Nat) : Text → List (Nat × Nat)
  | [] => []
  | c :: rest =>
    if c = '#' then
      spansFrom (start + ((rest.takeWhile inComment).length + 1)) (rest.dropWhile inComment)
    else
      match opening? (c :: rest) with
      | some (marks, content) =>
        let stop := marks.length + reach marks content
        (start, start + stop) :: spansFrom (start + stop) (rest.drop (stop - 1))
      | none => spansFrom (start + 1) rest
termination_by t => t.length
decreasing_by
  · have := (List.dropWhile_sublist inComment (l := rest)).length_le
    simp only [List.length_cons]
    omega
  · simp only [List.length_drop, List.length_cons]
    omega
  · simp

/-- Where the literals of a text begin and end by the rule. -/
def spans (t : Text) : List (Nat × Nat) := spansFrom 0 t

/-! ## Three marks -/

/-- Where the marks first stand, escaped or not. -/
def firstMarks? (marks content : Text) : Option Nat :=
  (List.range content.length).find? fun i => marks.isPrefixOf (content.drop i)

/-- How far it is to behind the first marks, escaped or not, or else to the end of the text. -/
def reachOfMarks (marks content : Text) : Nat :=
  match firstMarks? marks content with
  | some i => i + marks.length
  | none => content.length

/-- The marks that stand first are not escaped, or nothing follows them; and if there are none, the text
does not end behind a backslash that escapes. -/
def EndsByMarks (marks content : Text) : Prop :=
  match firstMarks? marks content with
  | some i => isEscaped (content.take i) = false ∨ content.length = i + marks.length
  | none => isEscaped content = false

/-! ## The literals that are read -/

/-- The literal begins with marks, and ends by the rule if there is one of them, or past the first three
marks behind them, escaped or not. -/
def IsRead (t : Text) (span : Nat × Nat) : Prop :=
  ∃ marks content, opening? (t.drop span.1) = some (marks, content) ∧
    span.2 = span.1 + (marks.length +
      if marks.length = 1 then reach marks content else reachOfMarks marks content)

/-- If the literal begins with three marks, the first three marks behind them end it by the rule. -/
def IsUnescaped (t : Text) (span : Nat × Nat) : Prop :=
  ∀ marks content, opening? (t.drop span.1) = some (marks, content) → marks.length = 3 →
    EndsByMarks marks content

end Lexical

/-! ## Escaping -/

section

open Lexical

variable {mark c : Char} {t : Text}

/-- Characters before a text matter only if there are backslashes up to them. -/
lemma isEscaped_append (lead t : Text) : isEscaped (lead ++ t) =
    if (t.reverse.takeWhile (· == Text.backslash)).length = t.length then
      (t.length + (lead.reverse.takeWhile (· == Text.backslash)).length) % 2 == 1
    else isEscaped t := by
  rw [isEscaped, List.reverse_append, List.takeWhile_append, List.length_reverse]
  split
  · rw [List.length_append, List.length_reverse]
  · rfl

lemma isEscaped_of_all (h : (t.reverse.takeWhile (· == Text.backslash)).length = t.length) :
    isEscaped t = (t.length % 2 == 1) := by
  rw [isEscaped, h]

/-- A character that is no backslash does not escape. -/
lemma isEscaped_cons (hc : c ≠ Text.backslash) (t : Text) : isEscaped (c :: t) = isEscaped t := by
  have hstop : [c].reverse.takeWhile (· == Text.backslash) = [] :=
    List.takeWhile_cons_of_neg (by simpa using hc)
  rw [← List.singleton_append, isEscaped_append, hstop]
  split
  next hall => rw [isEscaped_of_all hall, List.length_nil, Nat.add_zero]
  next => rfl

lemma isEscaped_concat (hc : c ≠ Text.backslash) (t : Text) : isEscaped (t ++ [c]) = false := by
  rw [isEscaped, List.reverse_concat, List.takeWhile_cons_of_neg (by simpa using hc)]
  rfl

/-- A backslash escapes the character behind it and nothing else. -/
lemma isEscaped_backslash (c : Char) (t : Text) :
    isEscaped (Text.backslash :: c :: t) = isEscaped t := by
  have heven : ([Text.backslash, c].reverse.takeWhile (· == Text.backslash)).length % 2 = 0 := by
    by_cases hc : c = Text.backslash
    · rw [hc]
      rfl
    · rw [List.reverse_cons, List.reverse_singleton, List.singleton_append,
        List.takeWhile_cons_of_neg (by simpa using hc)]
      rfl
  show isEscaped ([Text.backslash, c] ++ t) = _
  rw [isEscaped_append]
  split
  next hall => rw [isEscaped_of_all hall, Nat.add_mod, heven, Nat.add_zero, Nat.mod_mod]
  next => rfl

/-! ## One mark -/

/-- What neither ends a literal nor escapes what follows is passed over. -/
lemma reach_append {marks lead : Text} (hends : ∀ k i, i < lead.length →
    endsAt marks (lead ++ k) i = false) (hescaped : ∀ k, isEscaped (lead ++ k) = isEscaped k) (k : Text) :
    reach marks (lead ++ k) = lead.length + reach marks k := by
  have hpassed : (List.range lead.length).find? (endsAt marks (lead ++ k)) = none :=
    List.find?_range_eq_none.mpr fun i hi => by rw [hends k i hi]; rfl
  have hshift : endsAt marks (lead ++ k) ∘ (lead.length + ·) = endsAt marks k := by
    funext i
    simp only [Function.comp, endsAt, List.take_length_add_append, List.drop_length_add_append,
      hescaped]
  rw [reach, List.length_append, List.range_add, List.find?_append, hpassed, Option.none_or,
    List.find?_map, hshift, hescaped, reach]
  cases (List.range k.length).find? (endsAt marks k) with
  | some i => exact Nat.add_assoc ..
  | none => exact Nat.add_assoc ..

lemma endsAt_zero (mark c : Char) (k : Text) :
    endsAt [mark] (c :: k) 0 = (c = mark || c = '\n') := by
  simp [endsAt, isEscaped, List.isPrefixOf, Bool.beq_eq_decide_eq, eq_comm (a := mark)]

/-- **A literal in one mark** is read by the rule. -/
lemma length_closeLine (hmark : Text.isQuote mark = true) (rest : Text) :
    (closeLine mark rest).1.length + (if (closeLine mark rest).2.2 then 1 else 0) =
      reach [mark] rest := by
  have hback (k : Text) : endsAt [mark] (Text.backslash :: k) 0 = false := by
    rw [endsAt_zero, decide_eq_false (ne_backslash_of_isQuote hmark).symm]
    rfl
  fun_induction closeLine mark rest with
  | case1 => rfl
  | case2 =>
      have hnone : (List.range 1).find? (endsAt [mark] [Text.backslash]) = none :=
        List.find?_range_eq_none.mpr fun i hi => by
          rw [Nat.lt_one_iff.mp hi, hback]
          rfl
      rw [reach, List.length_singleton, hnone]
      rfl
  | case3 d more body after cut heq ih =>
      rw [heq] at ih
      have hpassed (k : Text) (i : Nat) (hi : i < 2) :
          endsAt [mark] ([Text.backslash, d] ++ k) i = false := by
        obtain rfl | rfl : i = 0 ∨ i = 1 := by omega
        · exact hback _
        · rfl
      have hreach := @reach_append [mark] [Text.backslash, d] hpassed (isEscaped_backslash d) more
      rw [← ih, ← Nat.add_assoc, Nat.add_comm (List.length _)] at hreach
      exact hreach.symm
  | case4 c more hback hstop =>
      have hfirst : (List.range (c :: more).length).find? (endsAt [mark] (c :: more)) = some 0 := by
        refine List.find?_range_eq_some.mpr ⟨?_, List.mem_range.mpr (Nat.zero_lt_succ _),
          fun j hj => absurd hj (Nat.not_lt_zero j)⟩
        rw [endsAt_zero, hstop]
      rw [reach, hfirst]
      rfl
  | case5 c more hne hstop body after cut heq ih =>
      rw [heq] at ih
      have hpassed (k : Text) (i : Nat) (hi : i < 1) : endsAt [mark] ([c] ++ k) i = false := by
        rw [Nat.lt_one_iff.mp hi, List.singleton_append, endsAt_zero]
        exact Bool.eq_false_iff.mpr hstop
      have hreach := @reach_append [mark] [c] hpassed (isEscaped_cons hne) more
      rw [← ih, ← Nat.add_assoc, Nat.add_comm (List.length _)] at hreach
      exact hreach.symm

/-! ## Three marks -/

lemma firstMarks?_cons (marks : Text) (c : Char) (rest : Text) : firstMarks? marks (c :: rest) =
    if marks.isPrefixOf (c :: rest) then some 0 else (firstMarks? marks rest).map (· + 1) := by
  rw [firstMarks?, List.length_cons, List.range_succ_eq_map, List.find?_cons, List.find?_map,
    List.drop_zero]
  cases marks.isPrefixOf (c :: rest) <;> rfl

/-- **A literal in three marks** is read up to the first three marks. -/
lemma length_closeBlock (mark : Char) (content : Text) :
    (closeBlock mark content).1.length = reachOfMarks [mark, mark, mark] content := by
  fun_induction closeBlock mark content with
  | case1 => rfl
  | case2 c rest hmarks =>
      rw [reachOfMarks, firstMarks?_cons, if_pos hmarks]
      rfl
  | case3 c rest hmarks body after heq ih =>
      rw [heq] at ih
      rw [List.length_cons, ih, reachOfMarks, reachOfMarks, firstMarks?_cons, if_neg hmarks]
      cases firstMarks? [mark, mark, mark] rest with
      | some i => exact Nat.add_right_comm ..
      | none => rfl

/-- Behind marks nothing is escaped. -/
lemma not_isEscaped_of_marks (hmark : Text.isQuote mark = true) {content : Text} {i : Nat}
    (hmarks : [mark, mark, mark].isPrefixOf (content.drop i) = true)
    (hlength : content.length = i + 3) : isEscaped content = false := by
  have hdrop : [mark, mark, mark] = content.drop i :=
    (List.isPrefixOf_iff_prefix.mp hmarks).eq_of_length (by rw [List.length_drop, hlength]; simp)
  have hcontent : content = content.take i ++ [mark, mark] ++ [mark] := by
    rw [List.append_assoc]
    exact (List.take_append_drop i content).symm.trans (congrArg _ hdrop.symm)
  rw [hcontent, isEscaped_concat (ne_backslash_of_isQuote hmark)]

/-- **When three marks are read by the rule**: the first ones are not escaped. -/
lemma reach_eq_reachOfMarks_iff (hmark : Text.isQuote mark = true) (content : Text) :
    reach [mark, mark, mark] content = reachOfMarks [mark, mark, mark] content ↔
      EndsByMarks [mark, mark, mark] content := by
  have hends (i : Nat) : endsAt [mark, mark, mark] content i =
      (!isEscaped (content.take i) && [mark, mark, mark].isPrefixOf (content.drop i)) := by
    rw [endsAt]
    exact congrArg _ (Bool.or_false _)
  have hfits {i : Nat} (hi : [mark, mark, mark].isPrefixOf (content.drop i) = true) :
      3 ≤ content.length - i := by
    have hlength := (List.isPrefixOf_iff_prefix.mp hi).length_le
    rwa [List.length_drop] at hlength
  rw [reachOfMarks, EndsByMarks, reach]
  cases hfirst : firstMarks? [mark, mark, mark] content with
  | none =>
      have hnone : (List.range content.length).find? (endsAt [mark, mark, mark] content) = none := by
        refine List.find?_range_eq_none.mpr fun i hi => ?_
        have hno := List.find?_range_eq_none.mp hfirst i hi
        rw [hends, Bool.not_and, hno, Bool.or_true]
      rw [hnone]
      cases isEscaped content <;> simp
  | some i =>
      obtain ⟨hmarks, hi, hbefore⟩ := List.find?_range_eq_some.mp hfirst
      have hlast := hfits hmarks
      dsimp only
      cases hescaped : isEscaped (content.take i) with
      | false =>
          have hsome :
              (List.range content.length).find? (endsAt [mark, mark, mark] content) = some i := by
            refine List.find?_range_eq_some.mpr ⟨?_, hi, fun j hj => ?_⟩
            · rw [hends, hescaped, hmarks]
              rfl
            · rw [hends, Bool.not_and, hbefore j hj, Bool.or_true]
          rw [hsome]
          exact iff_of_true rfl (Or.inl rfl)
      | true =>
          rw [Bool.true_eq_false, false_or]
          cases hend : (List.range content.length).find? (endsAt [mark, mark, mark] content) with
          | some j =>
              -- the marks that end the literal stand further on
              obtain ⟨hj, -, -⟩ := List.find?_range_eq_some.mp hend
              rw [hends, Bool.and_eq_true, Bool.not_eq_true'] at hj
              have hne : j ≠ i := by
                rintro rfl
                cases hescaped.symm.trans hj.1
              have hle : i ≤ j := Nat.not_lt.mp fun hlt => by
                have hno := hbefore j hlt
                rw [hj.2] at hno
                cases hno
              have hfit := hfits hj.2
              show j + 3 = i + 3 ↔ content.length = i + 3
              omega
          | none =>
              constructor
              · intro hreach
                have hle := Nat.le_of_eq hreach
                dsimp only [List.length_cons, List.length_nil] at hle ⊢
                omega
              · intro hlength
                rw [hlength, not_isEscaped_of_marks hmark hmarks hlength]
                rfl

/-! ## The literals of a text -/

/-- A literal in one mark is read by the rule, and one in three marks up to the first three. -/
lemma closeLiteral_reaches (hmark : Text.isQuote mark = true) (rest : Text) :
    ∃ marks content, opening? (mark :: rest) = some (marks, content) ∧
      1 + (closeLiteral mark rest).1.length + (if (closeLiteral mark rest).2.2 then 1 else 0) =
        marks.length + (if marks.length = 1 then reach marks content else reachOfMarks marks content) ∧
      (1 + (closeLiteral mark rest).1.length + (if (closeLiteral mark rest).2.2 then 1 else 0) =
        marks.length + reach marks content ↔ (marks.length = 3 → EndsByMarks marks content)) := by
  by_cases hblock : [mark, mark].isPrefixOf rest = true
  · obtain ⟨content, rfl⟩ := List.isPrefixOf_iff_prefix.mp hblock
    refine ⟨[mark, mark, mark], content, ?_, ?_⟩
    · rw [opening?, if_pos hmark, if_pos hblock]
      rfl
    · have hlength : 1 + (mark :: mark :: (closeBlock mark content).1).length + 0 =
          3 + reachOfMarks [mark, mark, mark] content := by
        rw [← length_closeBlock, List.length_cons, List.length_cons]
        omega
      rw [List.cons_append, List.cons_append, List.nil_append, closeLiteral_block]
      refine ⟨hlength, ?_⟩
      rw [if_neg Bool.false_ne_true, hlength]
      exact (Nat.add_left_cancel_iff.trans eq_comm).trans
        ((reach_eq_reachOfMarks_iff hmark content).trans (imp_iff_right rfl).symm)
  · refine ⟨[mark], rest, ?_, ?_⟩
    · rw [opening?, if_pos hmark, if_neg hblock]
    · have hlength := (Nat.add_assoc 1 ..).trans (congrArg (1 + ·) (length_closeLine hmark rest))
      rw [closeLiteral_line hblock]
      exact ⟨hlength, iff_of_true hlength fun hthree => absurd hthree (by simp)⟩

/-- Behind a literal that is read by the rule, the rule goes on with what is read behind it. -/
lemma spansFrom_drop {rest : Text} {stop : Nat} (hstop : 1 + (closeLiteral mark rest).1.length +
    (if (closeLiteral mark rest).2.2 then 1 else 0) = stop) (start : Nat) :
    Lexical.spansFrom (start + stop) (rest.drop (stop - 1)) =
      Lexical.spansFrom (start + ((closeLiteral mark rest).1.length + 1))
        (closeLiteral mark rest).2.1 := by
  have happend := closeLiteral_append mark rest
  have hcut := @closeLiteral_of_cut mark rest
  rcases hclose : closeLiteral mark rest with ⟨body, after, cut⟩
  rw [hclose] at happend hstop hcut
  dsimp only at happend hstop hcut ⊢
  subst hstop happend
  cases cut with
  | false =>
      have hstop : 1 + body.length + 0 - 1 = body.length := by omega
      rw [if_neg Bool.false_ne_true, hstop, List.drop_left, Nat.add_zero, Nat.add_comm 1]
  | true =>
      rw [hcut rfl, List.append_nil, List.drop_of_length_le (by rw [if_pos rfl]; omega),
        Lexical.spansFrom, Lexical.spansFrom]

/-- What is known of the literals of a text that begins behind another one. -/
lemma spansFrom_ofText (lead t : Text) :
    (∀ span ∈ FormulaCube.spansFrom lead.length (ofText t), IsRead (lead ++ t) span) ∧
      (FormulaCube.spansFrom lead.length (ofText t) = Lexical.spansFrom lead.length t ↔
        ∀ span ∈ FormulaCube.spansFrom lead.length (ofText t), IsUnescaped (lead ++ t) span) := by
  fun_induction ofText t generalizing lead with
  | case1 =>
      rw [Lexical.spansFrom]
      exact ⟨List.forall_mem_nil _, iff_of_true rfl (List.forall_mem_nil _)⟩
  | case2 rest ih =>
      have ih := ih (lead ++ '#' :: rest.takeWhile inComment)
      rw [List.append_assoc, List.cons_append, List.takeWhile_append_dropWhile,
        List.length_append] at ih
      rw [Lexical.spansFrom, if_pos rfl]
      exact ih
  | case3 c rest hhash hquote ih =>
      have ih := ih (lead ++ c :: (closeLiteral c rest).1)
      rw [List.append_assoc, List.cons_append, closeLiteral_append, List.length_append,
        List.length_cons] at ih
      obtain ⟨marks, content, hopen, hread, hrule⟩ := closeLiteral_reaches hquote rest
      have hfirst : (lead ++ c :: rest).drop lead.length = c :: rest := List.drop_left
      have hstop : lead.length + ((closeLiteral c rest).1.length + 1) +
          (if (closeLiteral c rest).2.2 then 1 else 0) = lead.length + (1 +
            (closeLiteral c rest).1.length + if (closeLiteral c rest).2.2 then 1 else 0) := by omega
      rw [Lexical.spansFrom, if_neg hhash, hopen]
      rw [FormulaCube.spansFrom, List.length_cons, hstop, List.forall_mem_cons, List.forall_mem_cons]
      refine ⟨⟨⟨marks, content, hfirst.symm ▸ hopen, congrArg _ hread⟩, ih.1⟩, ?_⟩
      have hhead : IsUnescaped (lead ++ c :: rest) (lead.length, lead.length + (1 +
          (closeLiteral c rest).1.length + if (closeLiteral c rest).2.2 then 1 else 0)) ↔
            (marks.length = 3 → EndsByMarks marks content) := by
        rw [IsUnescaped, hfirst, hopen]
        exact ⟨fun h => h marks content rfl, fun h _ _ heq => by
          obtain ⟨rfl, rfl⟩ := Prod.mk.inj (Option.some.inj heq)
          exact h⟩
      dsimp only
      rw [hhead, ← hrule, ← ih.2, List.cons.injEq, Prod.mk.injEq, Nat.add_left_cancel_iff]
      refine (and_congr_left' (and_iff_right rfl)).trans (and_congr_right fun heq => ?_)
      rw [spansFrom_drop heq]
  | case4 c rest hhash hquote ih =>
      have ih := ih (lead ++ [c])
      rw [List.append_assoc, List.singleton_append, List.length_append] at ih
      rw [Lexical.spansFrom, if_neg hhash, opening?, if_neg hquote]
      exact ih

/-- **Where literals end.** A literal in one mark ends where its mark stands again or its line ends, and
no backslash escapes that. A literal in three marks ends past the first three marks behind those with
which it begins. The literals of a text are those by the rule exactly if these marks are never escaped,
except at the end of the text, and if a literal in three marks that is not closed does not end behind a
backslash that escapes. -/
theorem stringSpans_lexical (t : Text) : (∀ span ∈ stringSpans t, IsRead t span) ∧
    (stringSpans t = Lexical.spans t ↔ ∀ span ∈ stringSpans t, IsUnescaped t span) :=
  spansFrom_ofText [] t

/-- Of the four marks behind a backslash the first is escaped, and the other three close the literal. -/
theorem stringSpans_escaped_marks : stringSpans "'''\\''''".toList = [(0, 7), (7, 8)] ∧
    Lexical.spans "'''\\''''".toList = [(0, 8)] := by
  decide +kernel

end

end FormulaCube
