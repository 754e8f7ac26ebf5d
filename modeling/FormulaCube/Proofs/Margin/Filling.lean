import FormulaCube.Proofs.Calls.Naming
import FormulaCube.Proofs.Margin.Lines

/-!
# Names filled in, and margins

A source gets its margin before the number of the compilation is filled in. Where the number holds no
newline and nothing that begins, ends or escapes a literal or begins a comment, it could as well get the
margin afterwards.

* `Respelled` — the same text in other letters; `Respelled.literalLines_eq` — its literals lie in the
  same lines.
* `fillPlaceholders_indent` — filling in names, and putting a margin in front.
-/

namespace FormulaCube

/-! ## The same text in other letters -/

/-- The character is no newline, and it begins, ends or escapes no literal and no comment. -/
def isQuiet (c : Char) : Bool :=
  c != '#' && !Text.isQuote c && c != '\n' && c != Text.backslash

/-- Nothing but quiet characters, and at least one. -/
def isQuietRun (t : Text) : Bool := !t.isEmpty && t.all isQuiet

/-- Both texts are the same but for runs of quiet characters. -/
inductive Respelled : Text → Text → Prop
  | nil : Respelled [] []
  | keep {t u : Text} (c : Char) : Respelled t u → Respelled (c :: t) (c :: u)
  | run {a b t u : Text} : isQuietRun a = true → isQuietRun b = true → Respelled t u →
      Respelled (a ++ t) (b ++ u)

lemma of_isQuiet {c : Char} (h : isQuiet c = true) :
    c ≠ '#' ∧ Text.isQuote c = false ∧ c ≠ '\n' ∧ c ≠ Text.backslash := by
  rw [isQuiet, Bool.and_eq_true, Bool.and_eq_true, Bool.and_eq_true, bne_iff_ne, Bool.not_eq_true',
    bne_iff_ne, bne_iff_ne] at h
  exact ⟨h.1.1.1, h.1.1.2, h.1.2, h.2⟩

lemma isLineCode_of_isQuiet {t : Text} (h : ∀ c ∈ t, isQuiet c = true) : isLineCode t = true := by
  refine List.all_eq_true.mpr fun c hc => ?_
  obtain ⟨hhash, hquote, hline, -⟩ := of_isQuiet (h c hc)
  rw [hquote, Bool.not_false, Bool.and_true, Bool.and_eq_true, bne_iff_ne, bne_iff_ne]
  exact ⟨hhash, hline⟩

lemma exists_eq_of_isQuietRun {a : Text} (h : isQuietRun a = true) :
    ∃ c t, a = c :: t ∧ ∀ d ∈ c :: t, isQuiet d = true := by
  rw [isQuietRun, Bool.and_eq_true] at h
  cases a with
  | nil => cases h.1
  | cons c t => exact ⟨c, t, rfl, List.all_eq_true.mp h.2⟩

lemma length_lt_append (c : Char) (a t : Text) : t.length < (c :: a ++ t).length := by
  rw [List.cons_append, List.length_cons, List.length_append]
  exact Nat.lt_succ_of_le (Nat.le_add_left _ _)

lemma ne_of_isQuiet {c mark : Char} (h : isQuiet c = true) (hmark : Text.isQuote mark = true) :
    c ≠ mark := by
  rintro rfl
  cases (of_isQuiet h).2.1.symm.trans hmark

/-! ## Ends of lines -/

/-- How many newlines the text holds, and whether it ends with one. -/
def lineEnds (t : Text) : Nat × Option Bool := (t.count '\n', t.getLast?.map (· == '\n'))

lemma lineEnds_append {a a' b b' : Text} (ha : lineEnds a' = lineEnds a)
    (hb : lineEnds b' = lineEnds b) : lineEnds (a' ++ b') = lineEnds (a ++ b) := by
  obtain ⟨hcount, hlast⟩ := Prod.mk.inj ha
  obtain ⟨hcount', hlast'⟩ := Prod.mk.inj hb
  rw [lineEnds, lineEnds, List.count_append, List.count_append, hcount, hcount', List.getLast?_append,
    List.getLast?_append, Option.map_or, Option.map_or, hlast, hlast']

lemma lineEnds_of_isQuiet {c : Char} {t : Text} (h : ∀ d ∈ c :: t, isQuiet d = true) :
    lineEnds (c :: t) = (0, some false) := by
  have hnone : '\n' ∉ c :: t := fun hmem => (of_isQuiet (h _ hmem)).2.2.1 rfl
  have hne := List.cons_ne_nil c t
  have hlast := List.getLast_mem hne
  rw [lineEnds, List.count_eq_zero_of_not_mem hnone, List.getLast?_eq_some_getLast hne, Option.map_some,
    beq_eq_false_iff_ne.mpr (of_isQuiet (h _ hlast)).2.2.1]

lemma lineEnds_run {a b : Text} (ha : isQuietRun a = true) (hb : isQuietRun b = true) :
    lineEnds b = lineEnds a := by
  obtain ⟨c, t, rfl, ht⟩ := exists_eq_of_isQuietRun ha
  obtain ⟨d, u, rfl, hu⟩ := exists_eq_of_isQuietRun hb
  rw [lineEnds_of_isQuiet ht, lineEnds_of_isQuiet hu]

lemma count_dropLast_of_lineEnds {t u : Text} (h : lineEnds u = lineEnds t) :
    u.dropLast.count '\n' = t.dropLast.count '\n' := by
  have hcount (t : Text) : t.dropLast.count '\n' =
      (lineEnds t).1 - (if (lineEnds t).2 = some true then 1 else 0) := by
    rcases t.eq_nil_or_concat with rfl | ⟨s, c, rfl⟩
    · rfl
    · simp only [List.concat_eq_append, lineEnds, List.dropLast_concat, List.count_append,
        List.getLast?_concat, Option.map_some, Option.some.injEq, List.count_singleton]
      split <;> omega
  rw [hcount, hcount, h]

/-! ## Literals of respelled texts -/

/-- Two literals of respelled texts, with what follows them and whether they are cut. -/
structure ClosedAlike (r r' : Text × Text × Bool) : Prop where
  lineEnds_eq : lineEnds r'.1 = lineEnds r.1
  after : Respelled r.2.1 r'.2.1
  cut_eq : r'.2.2 = r.2.2

lemma ClosedAlike.append {a a' : Text} {r r' : Text × Text × Bool} (h : ClosedAlike r r')
    (ha : lineEnds a' = lineEnds a) : ClosedAlike (a ++ r.1, r.2) (a' ++ r'.1, r'.2) :=
  ⟨lineEnds_append ha h.lineEnds_eq, h.after, h.cut_eq⟩

variable {mark : Char} {a t u : Text}

lemma closeLine_escape (c : Char) (t : Text) : Piece.closeLine mark (Text.backslash :: c :: t) =
    ([Text.backslash, c] ++ (Piece.closeLine mark t).1, (Piece.closeLine mark t).2) := by
  rw [Piece.closeLine, if_pos rfl]
  rfl

lemma closeLine_cons {c : Char} (hslash : c ≠ Text.backslash) (t : Text) :
    Piece.closeLine mark (c :: t) =
      if c = mark || c = '\n' then ([c], t, false)
      else ([c] ++ (Piece.closeLine mark t).1, (Piece.closeLine mark t).2) := by
  rw [Piece.closeLine.eq_def]
  exact if_neg hslash

lemma closeLine_quiet (hmark : Text.isQuote mark = true) (ha : ∀ c ∈ a, isQuiet c = true) (t : Text) :
    Piece.closeLine mark (a ++ t) =
      (a ++ (Piece.closeLine mark t).1, (Piece.closeLine mark t).2) := by
  induction a with
  | nil => rfl
  | cons c a ih =>
      have hc := ha c List.mem_cons_self
      obtain ⟨-, -, hline, hslash⟩ := of_isQuiet hc
      rw [List.cons_append, closeLine_cons hslash, ih fun d hd => ha d (List.mem_cons_of_mem _ hd),
        decide_eq_false (ne_of_isQuiet hc hmark), decide_eq_false hline]
      rfl

lemma closeBlock_marks (mark : Char) (k : Text) :
    Piece.closeBlock mark (List.replicate 3 mark ++ k) = (List.replicate 3 mark, k) := by
  have hmarks : [mark, mark, mark].isPrefixOf (mark :: mark :: mark :: k) = true := by
    simp [List.isPrefixOf]
  show Piece.closeBlock mark (mark :: mark :: mark :: k) = _
  rw [Piece.closeBlock, if_pos hmarks]
  rfl

lemma closeBlock_cons {c : Char} {t : Text} (h : (List.replicate 3 mark).isPrefixOf (c :: t) = false) :
    Piece.closeBlock mark (c :: t) =
      ([c] ++ (Piece.closeBlock mark t).1, (Piece.closeBlock mark t).2) := by
  have h : [mark, mark, mark].isPrefixOf (c :: t) = false := h
  rw [Piece.closeBlock, if_neg (Bool.eq_false_iff.mp h)]
  rfl

lemma closeBlock_quiet (hmark : Text.isQuote mark = true) (ha : ∀ c ∈ a, isQuiet c = true) (t : Text) :
    Piece.closeBlock mark (a ++ t) =
      (a ++ (Piece.closeBlock mark t).1, (Piece.closeBlock mark t).2) := by
  induction a with
  | nil => rfl
  | cons c a ih =>
      have hne : (mark == c) = false :=
        beq_eq_false_iff_ne.mpr (ne_of_isQuiet (ha c List.mem_cons_self) hmark).symm
      rw [List.cons_append, closeBlock_cons (by rw [List.replicate_succ, List.isPrefixOf, hne]; rfl),
        ih fun d hd => ha d (List.mem_cons_of_mem _ hd)]
      rfl

namespace Respelled

lemma lineEnds_eq (h : Respelled t u) : lineEnds u = lineEnds t := by
  induction h with
  | nil => rfl
  | keep c _ ih => exact lineEnds_append (a := [c]) rfl ih
  | run ha hb _ ih => exact lineEnds_append (lineEnds_run ha hb) ih

/-- Both texts begin with the same marks. -/
lemma marks (hmark : Text.isQuote mark = true) (h : Respelled t u) (n : Nat) :
    (∃ k k', t = List.replicate n mark ++ k ∧ u = List.replicate n mark ++ k' ∧ Respelled k k') ∨
      (List.replicate n mark).isPrefixOf t = false ∧ (List.replicate n mark).isPrefixOf u = false := by
  induction n generalizing t u with
  | zero => exact .inl ⟨t, u, rfl, rfl, h⟩
  | succ n ih =>
      have hother {c : Char} (hc : c ≠ mark) (t : Text) :
          (List.replicate (n + 1) mark).isPrefixOf (c :: t) = false := by
        rw [List.replicate_succ, List.isPrefixOf, beq_eq_false_iff_ne.mpr hc.symm, Bool.false_and]
      cases h with
      | nil => exact .inr ⟨rfl, rfl⟩
      | @keep t u c h =>
          by_cases hc : c = mark
          · subst hc
            rcases ih h with ⟨k, k', rfl, rfl, hk⟩ | ⟨ht, hu⟩
            · exact .inl ⟨k, k', rfl, rfl, hk⟩
            · rw [List.replicate_succ, List.isPrefixOf, List.isPrefixOf, ht, hu, Bool.and_false]
              exact .inr ⟨rfl, rfl⟩
          · exact .inr ⟨hother hc t, hother hc u⟩
      | run ha hb h =>
          obtain ⟨c, a, rfl, hc⟩ := exists_eq_of_isQuietRun ha
          obtain ⟨d, b, rfl, hd⟩ := exists_eq_of_isQuietRun hb
          exact .inr ⟨hother (ne_of_isQuiet (hc c List.mem_cons_self) hmark) _,
            hother (ne_of_isQuiet (hd d List.mem_cons_self) hmark) _⟩

lemma closeLine (hmark : Text.isQuote mark = true) (h : Respelled t u) :
    ClosedAlike (Piece.closeLine mark t) (Piece.closeLine mark u) := by
  obtain ⟨n, hn⟩ : ∃ n, t.length = n := ⟨_, rfl⟩
  induction n using Nat.strongRecOn generalizing t u with
  | _ n ih =>
      subst hn
      cases h with
      | nil => exact ⟨rfl, .nil, rfl⟩
      | run ha hb h =>
          have hends := lineEnds_run ha hb
          obtain ⟨c, a, rfl, hc⟩ := exists_eq_of_isQuietRun ha
          obtain ⟨d, b, rfl, hd⟩ := exists_eq_of_isQuietRun hb
          rw [closeLine_quiet hmark hc, closeLine_quiet hmark hd]
          exact (ih _ (length_lt_append c a _) h rfl).append hends
      | @keep t u c h =>
          by_cases hslash : c = Text.backslash
          · subst hslash
            -- a run of quiet characters may lose its first one to the backslash
            cases h with
            | nil => exact ⟨rfl, .nil, rfl⟩
            | keep d h =>
                rw [closeLine_escape, closeLine_escape]
                exact (ih _ (Nat.lt_succ_of_lt (Nat.lt_succ_self _)) h rfl).append rfl
            | run ha hb h =>
                have hends := lineEnds_run ha hb
                obtain ⟨c, a, rfl, hc⟩ := exists_eq_of_isQuietRun ha
                obtain ⟨d, b, rfl, hd⟩ := exists_eq_of_isQuietRun hb
                rw [List.cons_append, List.cons_append, closeLine_escape, closeLine_escape,
                  closeLine_quiet hmark fun e he => hc e (List.mem_cons_of_mem _ he),
                  closeLine_quiet hmark fun e he => hd e (List.mem_cons_of_mem _ he),
                  ← List.append_assoc, ← List.append_assoc]
                have hends : lineEnds ([Text.backslash] ++ d :: b) =
                    lineEnds ([Text.backslash] ++ c :: a) := lineEnds_append rfl hends
                exact (ih _ (Nat.lt_succ_of_lt (length_lt_append c a _)) h rfl).append hends
          · rw [closeLine_cons hslash, closeLine_cons hslash]
            split
            · exact ⟨rfl, h, rfl⟩
            · exact (ih _ (Nat.lt_succ_self _) h rfl).append rfl

lemma closeBlock (hmark : Text.isQuote mark = true) (h : Respelled t u) :
    ClosedAlike ((Piece.closeBlock mark t).1, (Piece.closeBlock mark t).2, false)
      ((Piece.closeBlock mark u).1, (Piece.closeBlock mark u).2, false) := by
  induction h with
  | nil => exact ⟨rfl, .nil, rfl⟩
  | run ha hb _ ih =>
      have hends := lineEnds_run ha hb
      obtain ⟨c, a, rfl, hc⟩ := exists_eq_of_isQuietRun ha
      obtain ⟨d, b, rfl, hd⟩ := exists_eq_of_isQuietRun hb
      rw [closeBlock_quiet hmark hc, closeBlock_quiet hmark hd]
      exact ih.append hends
  | keep c h ih =>
      rcases (Respelled.keep c h).marks hmark 3 with ⟨k, k', ht, hu, hk⟩ | ⟨ht, hu⟩
      · rw [ht, hu, closeBlock_marks, closeBlock_marks]
        exact ⟨rfl, hk, rfl⟩
      · rw [closeBlock_cons ht, closeBlock_cons hu]
        exact ih.append (a := [c]) rfl

lemma closeLiteral (hmark : Text.isQuote mark = true) (h : Respelled t u) :
    ClosedAlike (Piece.closeLiteral mark t) (Piece.closeLiteral mark u) := by
  rw [Piece.closeLiteral, Piece.closeLiteral]
  rcases h.marks hmark 2 with ⟨k, k', rfl, rfl, hk⟩ | ⟨ht, hu⟩
  · have hopen (k : Text) : [mark, mark].isPrefixOf (List.replicate 2 mark ++ k) = true := by
      simp [List.isPrefixOf]
    rw [if_pos (hopen k), if_pos (hopen k')]
    exact (hk.closeBlock hmark).append (a := [mark, mark]) rfl
  · have ht : [mark, mark].isPrefixOf t = false := ht
    have hu : [mark, mark].isPrefixOf u = false := hu
    rw [if_neg (Bool.eq_false_iff.mp ht), if_neg (Bool.eq_false_iff.mp hu)]
    exact h.closeLine hmark

/-- What is behind a comment. -/
lemma dropWhile_inComment (h : Respelled t u) :
    Respelled (t.dropWhile Piece.inComment) (u.dropWhile Piece.inComment) := by
  have hquiet {a : Text} (ha : isQuietRun a = true) (t : Text) :
      (a ++ t).dropWhile Piece.inComment = t.dropWhile Piece.inComment := by
    obtain ⟨c, a, rfl, hc⟩ := exists_eq_of_isQuietRun ha
    exact List.dropWhile_append_of_pos fun d hd => bne_iff_ne.mpr (of_isQuiet (hc d hd)).2.2.1
  induction h with
  | nil => exact .nil
  | keep c h ih =>
      rw [List.dropWhile_cons, List.dropWhile_cons]
      split
      · exact ih
      · exact .keep c h
  | run ha hb _ ih => rwa [hquiet ha, hquiet hb]

lemma lineSpansFrom_eq (h : Respelled t u) (n : Nat) :
    lineSpansFrom n (Piece.ofText u) = lineSpansFrom n (Piece.ofText t) := by
  obtain ⟨m, hm⟩ : ∃ m, t.length = m := ⟨_, rfl⟩
  induction m using Nat.strongRecOn generalizing t u n with
  | _ m ih =>
      subst hm
      cases h with
      | nil => rfl
      | run ha hb h =>
          obtain ⟨c, a, rfl, hc⟩ := exists_eq_of_isQuietRun ha
          obtain ⟨d, b, rfl, hd⟩ := exists_eq_of_isQuietRun hb
          rw [lineSpansFrom_lineCode (isLineCode_of_isQuiet hc),
            lineSpansFrom_lineCode (isLineCode_of_isQuiet hd)]
          exact ih _ (length_lt_append c a _) h n rfl
      | @keep t u c h =>
          rw [Piece.ofText, Piece.ofText]
          split
          · rename_i hhash
            have hbody (t : Text) : '\n' ∉ (Piece.comment (c :: t.takeWhile Piece.inComment)).text := by
              intro hmem
              rcases List.mem_cons.mp hmem with heq | hmem
              · cases heq.trans hhash
              · cases List.all_eq_true.mp List.all_takeWhile _ hmem
            rw [lineSpansFrom_cons rfl (hbody t), lineSpansFrom_cons rfl (hbody u)]
            refine ih _ ?_ h.dropWhile_inComment n rfl
            exact Nat.lt_succ_of_le (List.dropWhile_sublist Piece.inComment).length_le
          · split
            · rename_i hquote
              have hclose := h.closeLiteral hquote
              have hends := lineEnds_append (a := [c]) rfl hclose.lineEnds_eq
              have hcount := congrArg Prod.fst hends
              have hlast := count_dropLast_of_lineEnds hends
              have hrest := ih _ (Nat.lt_succ_of_le (Piece.closeLiteral_length c t)) hclose.after
              simp only [lineSpansFrom, lineEnds, List.singleton_append] at hcount hlast ⊢
              rw [hcount, hclose.cut_eq, hrest _ rfl]
              split
              · rw [hcount]
              · rw [hlast]
            · exact ih _ (Nat.lt_succ_self _) h _ rfl

/-- **Both texts have their literals in the same lines.** -/
lemma literalLines_eq (h : Respelled t u) : literalLines u = literalLines t := by
  rw [FormulaCube.literalLines_eq, FormulaCube.literalLines_eq, h.lineSpansFrom_eq]

end Respelled

/-! ## Filling in names -/

lemma isQuiet_of_isAsciiWord {c : Char} (h : Text.isAsciiWord c = true) : isQuiet c = true := by
  rw [isQuiet, Bool.and_eq_true, Bool.and_eq_true, Bool.and_eq_true, bne_iff_ne, Bool.not_eq_true',
    bne_iff_ne, bne_iff_ne]
  refine ⟨⟨⟨?_, ?_⟩, ?_⟩, ?_⟩
  · rintro rfl
    cases h
  · rw [Text.isQuote, Bool.or_eq_false_iff, decide_eq_false_iff_not, decide_eq_false_iff_not]
    constructor <;>
      · rintro rfl
        cases h
  · rintro rfl
    cases h
  · rintro rfl
    cases h

lemma placeholder?_of_ne {c : Char} (hc : c ≠ '~') (t : Text) : placeholder? (c :: t) = none := by
  unfold placeholder?
  split
  · rename_i heq
    exact absurd (List.cons.inj heq).1 hc
  · rfl

/-- A name between tildes is one of ASCII characters, and not empty. -/
lemma placeholder?_name {t name after : Text} (h : placeholder? t = some (name, after)) :
    ∃ c rest, name = c :: rest ∧ ∀ d ∈ c :: rest, Text.isAsciiWord d = true := by
  unfold placeholder? at h
  split at h
  · split at h
    · rename_i c word after' hword hafter
      cases h
      refine ⟨c, word, rfl, fun d hd => ?_⟩
      rw [← hword] at hd
      exact List.all_eq_true.mp List.all_takeWhile d hd
    · cases h
  · cases h

/-- The character belongs to no name between tildes. -/
def isOutsideName (c : Char) : Bool := !Text.isAsciiWord c && c != '~'

/-- A name between tildes does not go on behind such a character. -/
lemma placeholder?_append {c : Char} (hc : isOutsideName c = true) (t k : Text) :
    placeholder? (t ++ c :: k) = (placeholder? t).map fun found => (found.1, found.2 ++ c :: k) := by
  rw [isOutsideName, Bool.and_eq_true, Bool.not_eq_true', bne_iff_ne] at hc
  obtain ⟨hword, htilde⟩ := hc
  have htake (t : Text) :
      (t ++ c :: k).takeWhile Text.isAsciiWord = t.takeWhile Text.isAsciiWord := by
    induction t with
    | nil => simp [hword]
    | cons d t ih => rw [List.cons_append, List.takeWhile_cons, List.takeWhile_cons, ih]
  have hdrop (t : Text) :
      (t ++ c :: k).dropWhile Text.isAsciiWord = t.dropWhile Text.isAsciiWord ++ c :: k := by
    induction t with
    | nil => simp [hword]
    | cons d t ih =>
        rw [List.cons_append, List.dropWhile_cons, List.dropWhile_cons, ih]
        split <;> rfl
  cases t with
  | nil => exact placeholder?_of_ne htilde k
  | cons d t =>
      by_cases hd : d = '~'
      · subst hd
        simp only [List.cons_append, placeholder?, htake, hdrop]
        cases t.takeWhile Text.isAsciiWord with
        | nil => rfl
        | cons e name =>
            cases t.dropWhile Text.isAsciiWord with
            | nil => simp [htilde]
            | cons f after =>
                by_cases hf : f = '~'
                · subst hf
                  rfl
                · simp [hf]
      · rw [List.cons_append, placeholder?_of_ne hd, placeholder?_of_ne hd]
        rfl

variable {number : Text}

/-- **A quiet number changes no literal and no comment.** -/
lemma respelled_fillPlaceholders (hnumber : number.all isQuiet = true) (t : Text) :
    Respelled t (fillPlaceholders number t) := by
  fun_induction fillPlaceholders number t with
  | case1 t name after h ih =>
      obtain ⟨c, rest, rfl, hname⟩ := placeholder?_name h
      have hquiet : (c :: rest).all isQuiet = true :=
        List.all_eq_true.mpr fun d hd => isQuiet_of_isAsciiWord (hname d hd)
      have htext : t = ('~' :: (c :: rest ++ ['~'])) ++ after := by
        rw [placeholder?_text h]
        simp
      rw [htext]
      refine .run ?_ ?_ ih
      · rw [isQuietRun, List.all_cons, List.all_append, hquiet]
        rfl
      · rw [isQuietRun, List.all_append, hquiet, hnumber]
        rfl
  | case2 h => exact .nil
  | case3 c rest h ih => exact .keep c ih

/-- Names are filled in before and behind such a character. -/
lemma fillPlaceholders_append {c : Char} (hc : isOutsideName c = true) (number t k : Text) :
    fillPlaceholders number (t ++ c :: k) =
      fillPlaceholders number t ++ c :: fillPlaceholders number k := by
  have hnext (k : Text) : fillPlaceholders number (c :: k) = c :: fillPlaceholders number k :=
    fillPlaceholders_of_none (placeholder?_append hc [] k)
  fun_induction fillPlaceholders number t with
  | case1 t name after h ih =>
      rw [fillPlaceholders_of_some ((placeholder?_append hc t k).trans (congrArg _ h)), ih]
      exact (List.append_assoc _ _ _).symm
  | case2 h => exact hnext k
  | case3 d rest h ih =>
      have hnone := (placeholder?_append hc (d :: rest) k).trans (congrArg _ h)
      rw [List.cons_append] at hnone ⊢
      rw [fillPlaceholders_of_none hnone, ih]
      rfl

/-- Names are filled in line by line. -/
lemma fillPlaceholders_join (number : Text) (parts : List Text) :
    fillPlaceholders number (Text.join ['\n'] parts) =
      Text.join ['\n'] (parts.map (fillPlaceholders number)) := by
  induction parts with
  | nil => exact fillPlaceholders_nil number
  | cons part parts ih =>
      cases parts with
      | nil => rfl
      | cons other parts =>
          rw [join_cons _ _ (List.cons_ne_nil _ _), List.singleton_append, fillPlaceholders_append rfl, ih,
            List.map_cons, List.map_cons, List.map_cons, join_cons _ _ (List.cons_ne_nil _ _)]
          rfl

lemma fillPlaceholders_blanks (number : Text) (width : Nat) (t : Text) :
    fillPlaceholders number (blanks width ++ t) = blanks width ++ fillPlaceholders number t := by
  induction width with
  | zero => rfl
  | succ width ih =>
      have hcons (t : Text) : blanks (width + 1) ++ t = ' ' :: (blanks width ++ t) := rfl
      rw [hcons, hcons, fillPlaceholders_of_none (placeholder?_of_ne (by decide) _), ih]

lemma isBlankText_fillPlaceholders (number t : Text) :
    (fillPlaceholders number t).isBlankText = t.isBlankText := by
  fun_induction fillPlaceholders number t with
  | case1 t name after h ih =>
      obtain ⟨c, rest, rfl, hname⟩ := placeholder?_name h
      have hblank : Text.isBlank c = false := 
        not_isBlank_of_isNamePart (isNamePart_of_isAsciiWord (hname c List.mem_cons_self))
      rw [placeholder?_text h, List.cons_append, List.cons_append, Text.isBlankText, Text.isBlankText,
        List.all_cons, List.all_cons, hblank]
      rfl
  | case2 h => rfl
  | case3 c rest h ih => exact congrArg (Text.isBlank c && ·) ih

lemma newline_notMem_fillPlaceholders (hnumber : number.all isQuiet = true) {t : Text} (h : '\n' ∉ t) :
    '\n' ∉ fillPlaceholders number t := by
  have hcount := (Prod.mk.inj (respelled_fillPlaceholders hnumber t).lineEnds_eq).1
  rw [List.count_eq_zero_of_not_mem h] at hcount
  exact List.count_eq_zero.mp hcount

lemma splitOn_fillPlaceholders (hnumber : number.all isQuiet = true) (t : Text) :
    Text.splitOn '\n' (fillPlaceholders number t) =
      (Text.splitOn '\n' t).map (fillPlaceholders number) := by
  obtain ⟨part, parts, hparts⟩ := splitOn_eq '\n' t
  conv => lhs; rw [← join_splitOn '\n' t, fillPlaceholders_join]
  refine splitOn_join (by rw [hparts]; exact List.cons_ne_nil _ _) fun line hline => ?_
  obtain ⟨line, hmem, rfl⟩ := List.mem_map.mp hline
  exact newline_notMem_fillPlaceholders hnumber (notMem_of_mem_splitOn hmem)

lemma markedLines_fillPlaceholders (hnumber : number.all isQuiet = true) (t : Text) :
    markedLines (fillPlaceholders number t) =
      (markedLines t).map fun line => (fillPlaceholders number line.1, line.2) := by
  rw [markedLines, markedLines, (respelled_fillPlaceholders hnumber t).literalLines_eq,
    splitOn_fillPlaceholders hnumber, List.zipIdx_map, List.map_map, List.map_map]
  rfl

lemma indentLine_fillPlaceholders (number : Text) (width : Nat) (line : Text × Bool) :
    indentLine (blanks width) (fillPlaceholders number line.1, line.2) =
      fillPlaceholders number (indentLine (blanks width) line) := by
  rw [indentLine, indentLine, isBlankText_fillPlaceholders]
  split
  · rfl
  · exact (fillPlaceholders_blanks number width line.1).symm

lemma fillPlaceholders_indent_of_isQuiet (hnumber : number.all isQuiet = true) (width : Nat)
    (t : Text) :
    fillPlaceholders number (indent (blanks width) t) =
      indent (blanks width) (fillPlaceholders number t) := by
  show fillPlaceholders number (Text.join ['\n'] ((markedLines t).map (indentLine (blanks width)))) =
    Text.join ['\n'] ((markedLines (fillPlaceholders number t)).map (indentLine (blanks width)))
  rw [fillPlaceholders_join, markedLines_fillPlaceholders hnumber, List.map_map, List.map_map]
  refine congrArg (Text.join ['\n']) (List.map_congr_left fun line _ => ?_)
  exact (indentLine_fillPlaceholders number width line).symm

/-! ## Sources without names between tildes -/

lemma fillPlaceholders_of_forall_token {t : Text} (h : ∀ name, .token name ∉ placeholderParts t) :
    fillPlaceholders number t = t := by
  have hwritten : (placeholderParts t).flatMap (PlaceholderPart.filled number) =
      (placeholderParts t).flatMap PlaceholderPart.written := by
    rw [List.flatMap_def, List.flatMap_def]
    refine congrArg List.flatten (List.map_congr_left fun part hpart => ?_)
    cases part with
    | plain c => rfl
    | token name => exact absurd hpart (h name)
  rw [fillPlaceholders_eq, hwritten, flatMap_written_placeholderParts]

/-- With nothing filled in the tildes are missing. -/
lemma length_fillPlaceholders_nil_le (t : Text) : (fillPlaceholders [] t).length ≤ t.length := by
  fun_induction fillPlaceholders [] t with
  | case1 t name after hsome ih =>
      rw [placeholder?_text hsome]
      simp only [List.length_append, List.length_cons, List.length_nil]
      omega
  | case2 _ => exact Nat.le_refl _
  | case3 c rest _ ih => exact Nat.succ_le_succ ih

/-- A text that stays the same with nothing filled in has no name between tildes. -/
lemma fillPlaceholders_eq_self {t : Text} (h : fillPlaceholders [] t = t) :
    fillPlaceholders number t = t := by
  fun_induction fillPlaceholders number t with
  | case1 t name after hsome ih =>
      have hshort := length_fillPlaceholders_nil_le after
      have heq := congrArg List.length h
      rw [fillPlaceholders_of_some hsome, placeholder?_text hsome] at heq
      simp only [List.length_append, List.length_cons, List.length_nil] at heq
      omega
  | case2 _ => rfl
  | case3 c rest hnone ih =>
      rw [fillPlaceholders_of_none hnone] at h
      rw [ih (List.cons.inj h).2]

/-- **Names may be filled in before or after a margin is put in front.** -/
theorem fillPlaceholders_indent {t : Text}
    (h : number.all isQuiet = true ∨ ∀ name, .token name ∉ placeholderParts t) (width : Nat) :
    fillPlaceholders number (indent (blanks width) t) =
      indent (blanks width) (fillPlaceholders number t) := by
  rcases h with hnumber | htoken
  · exact fillPlaceholders_indent_of_isQuiet hnumber width t
  · have hmargin : fillPlaceholders [] (indent (blanks width) t) = indent (blanks width) t := by
      rw [fillPlaceholders_indent_of_isQuiet rfl, fillPlaceholders_of_forall_token htoken]
    rw [fillPlaceholders_eq_self hmargin, fillPlaceholders_of_forall_token htoken]

end FormulaCube
