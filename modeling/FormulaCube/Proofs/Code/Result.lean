import FormulaCube.Code.Result
import FormulaCube.Proofs.Cutting
import Mathlib

/-!
# A body keeps its text

The result of a body is put before its last statement, at a place that the reader of programs gives as
a line and a number of bytes in it, if that is an expression. The reader ends lines at newlines and carriage
returns only, and `Code.withResultAt` cuts the body at every line boundary of Unicode.

* `Text.lines_unifyNewlines`, `Text.join_lines` — what cutting and joining keep.
* `Code.join_modify_returnFrom` — where both agree on the lines, the word that returns a value is put at
  the place, and nothing else changes.
* `Code.withResult_inserts_iff` — they agree exactly if there is no other line break in the body, whatever
  reader gives the place.
* `Code.withResult_formFeed` — where they do not, the text of a literal is lost.
-/

namespace FormulaCube

/-! ## Lines -/

namespace Text

variable {a b t : Text} {c d : Char}

/-- The text without a newline at its end. -/
def withoutFinalNewline (t : Text) : Text := if t.getLast? = some '\n' then t.dropLast else t

/-- The line breaks of the text are newlines and carriage returns. -/
def HasPlainBreaks (t : Text) : Prop := ∀ c ∈ t, isLineBreak c = true → c = '\n' ∨ c = '\r'

instance : DecidablePred HasPlainBreaks := fun t =>
  decidable_of_iff (t.all (fun c => !isLineBreak c || c = '\n' || c = '\r') = true) (by
    simp only [HasPlainBreaks, List.all_eq_true, Bool.or_eq_true, Bool.not_eq_true',
      decide_eq_true_eq, or_assoc, ← Bool.not_eq_true, imp_iff_not_or])

lemma withoutFinalNewline_append (h : b ≠ []) :
    withoutFinalNewline (a ++ b) = a ++ withoutFinalNewline b := by
  rw [withoutFinalNewline, withoutFinalNewline, List.getLast?_append_of_ne_nil _ h]
  split
  · exact List.dropLast_append_of_ne_nil h
  · rfl

lemma mem_withoutFinalNewline (h : c ∈ t) (hc : c ≠ '\n') : c ∈ withoutFinalNewline t := by
  rw [withoutFinalNewline]
  split
  · rename_i hlast
    rw [← List.dropLast_append_getLast? '\n' hlast] at h
    exact (List.mem_append.mp h).resolve_right fun h' => hc (List.mem_singleton.mp h')
  · exact h

lemma lines_break (hc : isLineBreak c = true)
    (hnot : ∀ rest, c = '\r' → t = '\n' :: rest → False) : lines (c :: t) = [] :: t.lines := by
  rw [lines, brokenLines.eq_3 c t hnot, if_pos hc, List.map_cons]
  rfl

lemma lines_cons_newline (t : Text) : lines ('\n' :: t) = [] :: t.lines := rfl

/-- A character that breaks no line stands at the beginning of the line after it. -/
lemma lines_cons (hc : isLineBreak c = false) (t : Text) :
    lines (c :: t) = (c :: t.lines.headD []) :: t.lines.tail := by
  have hnot : ∀ rest, c = '\r' → t = '\n' :: rest → False := by
    rintro rest rfl -
    cases hc
  rw [lines, lines, brokenLines.eq_3 c t hnot, if_neg (by rw [hc]; exact Bool.false_ne_true)]
  cases brokenLines t with
  | nil => rfl
  | cons line lines => rfl

lemma lines_ne_nil (h : t ≠ []) : t.lines ≠ [] := by
  rw [lines, Ne, List.map_eq_nil_iff]
  fun_cases brokenLines t with
  | case1 => exact absurd rfl h
  | _ => exact List.cons_ne_nil _ _

/-- Characters that break no line stand at the beginning of the line after them. -/
lemma lines_append (ha : ∀ c ∈ a, isLineBreak c = false) (ht : t ≠ []) :
    lines (a ++ t) = (a ++ t.lines.headD []) :: t.lines.tail := by
  induction a with
  | nil =>
      obtain ⟨line, lines, hsplit⟩ := List.exists_cons_of_ne_nil (lines_ne_nil ht)
      rw [List.nil_append, List.nil_append, hsplit]
      rfl
  | cons c a ih =>
      rw [List.cons_append, lines_cons (ha c List.mem_cons_self),
        ih fun d hd => ha d (List.mem_cons_of_mem c hd)]
      rfl

/-- What ends lines in programs also ends lines of texts. -/
lemma lines_unifyNewlines (t : Text) : t.unifyNewlines.lines = t.lines := by
  fun_induction unifyNewlines t with
  | case1 => rfl
  | case2 rest ih =>
      rw [lines_cons_newline, ih]
      rfl
  | case3 c rest hnot ih =>
      by_cases hr : c = '\r'
      · rw [if_pos hr, lines_cons_newline, ih, lines_break (hr ▸ rfl) hnot]
      · rw [if_neg hr]
        cases hc : isLineBreak c with
        | true => rw [lines_break hc fun _ h => absurd h hr, lines_break hc hnot, ih]
        | false => rw [lines_cons hc, lines_cons hc, ih]

lemma mem_unifyNewlines (hn : c ≠ '\n') (hr : c ≠ '\r') : c ∈ t.unifyNewlines ↔ c ∈ t := by
  fun_induction unifyNewlines t with
  | case1 => rfl
  | case2 rest ih =>
      rw [List.mem_cons, List.mem_cons, List.mem_cons, ih]
      simp only [hn, hr, false_or]
  | case3 d rest hnot ih =>
      rw [List.mem_cons, List.mem_cons, ih]
      split
      · rename_i hd
        simp only [hd, hn, hr]
      · rfl

lemma return_notMem_unifyNewlines (t : Text) : '\r' ∉ t.unifyNewlines := by
  fun_induction unifyNewlines t with
  | case1 => exact List.not_mem_nil
  | case2 rest ih => exact List.not_mem_cons_of_ne_of_not_mem (by decide) ih
  | case3 d rest hnot ih =>
      refine List.not_mem_cons_of_ne_of_not_mem ?_ ih
      split
      · decide
      · rename_i hd
        exact Ne.symm hd

/-- No line has a line break in it. -/
lemma isLineBreak_of_mem_brokenLines {broken : Text × Text} (h : broken ∈ brokenLines t)
    (hc : c ∈ broken.1) : isLineBreak c = false := by
  fun_induction brokenLines t generalizing broken with
  | case1 => cases h
  | case2 rest ih | case3 d rest hnot hd ih =>
      rcases List.mem_cons.mp h with rfl | h
      · cases hc
      · exact ih h hc
  | case4 d rest hnot hd hrest ih =>
      rw [List.mem_singleton.mp h] at hc
      rw [List.mem_singleton.mp hc]
      exact Bool.eq_false_iff.mpr hd
  | case5 d rest hnot hd line ending lines hrest ih =>
      rw [hrest] at ih
      rcases List.mem_cons.mp h with rfl | h
      · rcases List.mem_cons.mp hc with rfl | hc
        · exact Bool.eq_false_iff.mpr hd
        · exact ih List.mem_cons_self hc
      · exact ih (List.mem_cons_of_mem _ h) hc

/-- **Where newlines are the only line breaks, the lines put together are the text.** -/
lemma join_lines (h : ∀ c ∈ t, isLineBreak c = true → c = '\n') :
    join ['\n'] t.lines = withoutFinalNewline t := by
  induction t with
  | nil => rfl
  | cons c t ih =>
      have ih := ih fun d hd => h d (List.mem_cons_of_mem c hd)
      by_cases ht : t = []
      · subst ht
        cases hc : isLineBreak c with
        | true => rw [h c List.mem_cons_self hc]; rfl
        | false =>
            have hne : c ≠ '\n' := by
              rintro rfl
              cases hc
            rw [lines_cons hc, withoutFinalNewline, if_neg (by simpa using hne)]
            rfl
      · have hlines : lines t ≠ [] := lines_ne_nil ht
        have hwhole : withoutFinalNewline (c :: t) = c :: withoutFinalNewline t :=
          withoutFinalNewline_append (a := [c]) ht
        cases hc : isLineBreak c with
        | true =>
            rw [h c List.mem_cons_self hc, lines_cons_newline, join_nil_cons _ hlines, ih]
            exact (h c List.mem_cons_self hc ▸ hwhole).symm
        | false =>
            rw [lines_cons hc, hwhole, ← ih]
            obtain ⟨line, lines, hsplit⟩ := List.exists_cons_of_ne_nil hlines
            rw [hsplit]
            exact join_append_cons _ [c] line lines

end Text

namespace Code

open Text

variable {line column : Nat} {p before rest t : Text} {c : Char}

/-! ## The place -/

/-- The bytes of characters. -/
def byteLength (t : Text) : Nat := t.foldr (·.utf8Size + ·) 0

lemma byteLength_concat (p : Text) (d : Char) : byteLength (p ++ [d]) = byteLength p + d.utf8Size := by
  induction p with
  | nil => exact Nat.add_comm _ _
  | cons c p ih => exact (congrArg (c.utf8Size + ·) ih).trans (Nat.add_assoc _ _ _).symm

lemma charsWithin_append (p t : Text) : charsWithin (byteLength p) (p ++ t) = p.length := by
  induction p with
  | nil =>
      cases t with
      | nil => rfl
      | cons c t => exact if_neg (Nat.not_le.mpr c.utf8Size_pos)
  | cons c p ih =>
      rw [byteLength, List.foldr_cons, List.cons_append, charsWithin,
        if_pos (Nat.le_add_right _ _), Nat.add_sub_cancel_left]
      exact congrArg (· + 1) ih

lemma returnFrom_append (p t : Text) :
    returnFrom (byteLength p) (p ++ t) = p ++ ("return ".toList ++ t) := by
  rw [returnFrom, charsWithin_append, List.take_left, List.drop_left, List.append_assoc]

lemma placeAfter_cons_newline (line column : Nat) (t : Text) :
    placeAfter line column ('\n' :: t) = placeAfter (line + 1) 0 t := rfl

lemma placeAfter_cons (hc : c ≠ '\n') (line column : Nat) (t : Text) :
    placeAfter line column (c :: t) = placeAfter line (column + c.utf8Size) t := by
  rw [placeAfter, List.foldl_cons]
  exact congrArg (List.foldl _ · t) (if_neg hc)

lemma le_fst_placeAfter (line column : Nat) (t : Text) : line ≤ (placeAfter line column t).1 := by
  induction t generalizing line column with
  | nil => exact Nat.le_refl _
  | cons c t ih =>
      by_cases hc : c = '\n'
      · rw [hc, placeAfter_cons_newline]
        exact Nat.le_trans (Nat.le_succ line) (ih _ _)
      · rw [placeAfter_cons hc]
        exact ih _ _

/-- **The word is put at the place.** The characters of the line before those that are passed over are
`p`. -/
lemma join_modify_returnFrom (line : Nat) (p : Text)
    (h : ∀ x ∈ before ++ c :: rest, isLineBreak x = true → x = '\n')
    (hp : ∀ x ∈ p, isLineBreak x = false) :
    join ['\n'] ((p ++ (before ++ c :: rest)).lines.modify
        ((placeAfter line (byteLength p) before).1 - line)
        (returnFrom (placeAfter line (byteLength p) before).2)) =
      withoutFinalNewline (p ++ (before ++ ("return ".toList ++ c :: rest))) := by
  induction before generalizing p line with
  | nil =>
      have hne : c :: rest ≠ [] := List.cons_ne_nil c rest
      obtain ⟨first, others, hsplit⟩ := List.exists_cons_of_ne_nil (lines_ne_nil hne)
      rw [placeAfter, List.foldl_nil, Nat.sub_self, List.nil_append, List.nil_append,
        lines_append hp hne, hsplit, List.modify_zero_cons, List.headD_cons, List.tail_cons,
        returnFrom_append, join_append_cons, join_append_cons, ← hsplit, join_lines (t := c :: rest) h,
        withoutFinalNewline_append (List.append_ne_nil_of_right_ne_nil _ hne),
        withoutFinalNewline_append hne]
  | cons d before ih =>
      have hrest : ∀ x ∈ before ++ c :: rest, isLineBreak x = true → x = '\n' :=
        fun x hx => h x (List.mem_cons_of_mem d hx)
      cases hd : isLineBreak d with
      | true =>
          obtain rfl : d = '\n' := h d List.mem_cons_self hd
          -- the line of `p` ends here, and the place is in a later one
          have hlater := le_fst_placeAfter (line + 1) 0 before
          have hsub : (placeAfter (line + 1) 0 before).1 - line =
              (placeAfter (line + 1) 0 before).1 - (line + 1) + 1 := by omega
          have htail := ih (line + 1) [] hrest nofun
          rw [List.nil_append, List.nil_append] at htail
          have hlines : (lines (before ++ c :: rest)).modify ((placeAfter (line + 1) 0 before).1 -
              (line + 1)) (returnFrom (placeAfter (line + 1) 0 before).2) ≠ [] := by
            rw [Ne, List.modify_eq_nil_iff]
            exact lines_ne_nil (List.append_ne_nil_of_right_ne_nil _ (List.cons_ne_nil _ _))
          have hwhole := withoutFinalNewline_append (a := p ++ ['\n'])
            (b := before ++ ("return ".toList ++ c :: rest)) (by simp)
          rw [List.append_assoc, List.append_assoc] at hwhole
          rw [placeAfter_cons_newline, hsub, List.cons_append, List.cons_append,
            lines_append hp (List.cons_ne_nil _ _), lines_cons_newline, List.headD_cons,
            List.append_nil, List.tail_cons, List.modify_succ_cons, join_cons _ _ hlines]
          exact (congrArg (fun u => p ++ (['\n'] ++ u)) htail).trans hwhole.symm
      | false =>
          have hne : d ≠ '\n' := by
            rintro rfl
            cases hd
          have hlonger := ih line (p ++ [d]) hrest fun x hx =>
            (List.mem_append.mp hx).elim (hp x) fun hx => List.mem_singleton.mp hx ▸ hd
          rw [placeAfter_cons hne, ← byteLength_concat]
          rw [List.append_assoc, List.append_assoc] at hlonger
          exact hlonger

/-! ## Bodies -/

lemma withResultAt_eq (place? : Option (Nat × Nat)) (hblank : t.isBlankText = false)
    (hnull : '\x00' ∉ t) : withResultAt place? t = match place? with
      | some (line, column) => .ok (join ['\n'] (t.lines.modify (line - 1) (returnFrom column)))
      | none => .ok t := by
  have hcontains : t.contains '\x00' = false := by
    rw [Bool.eq_false_iff, Ne, List.contains_iff_mem]
    exact hnull
  unfold withResultAt
  rw [hblank, hcontains]
  rfl

/-- No line break but a newline comes out of lines that are put together. -/
lemma eq_newline_of_mem_join {lines : List Text} (h : ∀ line ∈ lines, ∀ c ∈ line,
    isLineBreak c = false) (hc : c ∈ join ['\n'] lines) (hbreak : isLineBreak c = true) :
    c = '\n' := by
  induction lines with
  | nil => cases hc
  | cons line lines ih =>
      have hline : c ∉ line := by
        intro hmem
        rw [h line List.mem_cons_self c hmem] at hbreak
        cases hbreak
      by_cases hlines : lines = []
      · rw [hlines] at hc
        exact absurd hc hline
      · rw [join_cons _ _ hlines] at hc
        rcases List.mem_append.mp hc with hc | hc
        · exact absurd hc hline
        · rcases List.mem_append.mp hc with hc | hc
          · exact List.mem_singleton.mp hc
          · exact ih (fun l hl => h l (List.mem_cons_of_mem _ hl)) hc

lemma mem_of_mem_returnFrom {line : Text} (h : c ∈ returnFrom column line) :
    c ∈ line ∨ c ∈ "return ".toList := by
  rcases List.mem_append.mp h with h | h
  · rcases List.mem_append.mp h with h | h
    · exact .inl (List.mem_of_mem_take h)
    · exact .inr h
  · exact .inl (List.mem_of_mem_drop h)

lemma isLineBreak_of_mem_modify {n : Nat} {line : Text}
    (hline : line ∈ t.lines.modify n (returnFrom column)) (hc : c ∈ line) :
    isLineBreak c = false := by
  have hlines : ∀ line ∈ t.lines, ∀ c ∈ line, isLineBreak c = false := by
    intro line hline c hc
    obtain ⟨broken, hbroken, rfl⟩ := List.mem_map.mp hline
    exact isLineBreak_of_mem_brokenLines hbroken hc
  have hword : "return ".toList.all (fun c => !isLineBreak c) = true := by decide
  obtain ⟨i, hi⟩ := List.mem_iff_getElem?.mp hline
  rw [List.getElem?_modify] at hi
  obtain ⟨old, hold, rfl⟩ := Option.map_eq_some_iff.mp hi
  have hmem := List.mem_of_getElem? hold
  split at hc
  · rcases mem_of_mem_returnFrom hc with hc | hc
    · exact hlines old hmem c hc
    · exact (Bool.not_eq_true' _).mp (List.all_eq_true.mp hword c hc)
  · exact hlines old hmem c hc

/-- **A body keeps its text exactly if newlines and carriage returns are its only line breaks.** A reader of
programs, ours or any other, gives the place of the last statement of a body, if that is an expression. A
body that is not blank stays as it is, where no place is given, and otherwise has the word that returns a
value put at the place. `before` is what stands before the statement, whose line and column are those that
the reader gives. -/
theorem withResult_inserts_iff (t : Text) (hblank : t.isBlankText = false) (hnull : '\x00' ∉ t) :
    withResult t = withResultAt (finalExpression? t) t ∧
    ∀ place?, (place? = none → withResultAt place? t = .ok t) ∧
      ∀ (before : Text) (c : Char) (rest : Text), t.unifyNewlines = before ++ c :: rest →
        place? = some (placeAfter 1 0 before) →
        (withResultAt place? t = .ok (withoutFinalNewline (before ++ ("return ".toList ++ c :: rest))) ↔
          t.HasPlainBreaks) := by
  refine ⟨rfl, fun place? => ?_⟩
  have hresult := withResultAt_eq place? hblank hnull
  refine ⟨fun hnone => by rw [hresult, hnone], fun before c rest htext hplace => ?_⟩
  rw [hresult, hplace, ← lines_unifyNewlines, Except.ok.injEq]
  constructor
  · intro heq x hx hbreak
    by_contra hplain
    rw [not_or] at hplain
    have hmem : x ∈ withoutFinalNewline (before ++ ("return ".toList ++ c :: rest)) := by
      have hthere := (mem_unifyNewlines hplain.1 hplain.2).mpr hx
      rw [htext] at hthere
      refine mem_withoutFinalNewline ?_ hplain.1
      rcases List.mem_append.mp hthere with h | h
      · exact List.mem_append_left _ h
      · exact List.mem_append_right _ (List.mem_append_right _ h)
    rw [← heq] at hmem
    exact hplain.1
      (eq_newline_of_mem_join (fun _ hline _ hc => isLineBreak_of_mem_modify hline hc) hmem hbreak)
  · intro hplain
    rw [htext]
    refine join_modify_returnFrom 1 [] (fun x hx hbreak => ?_) nofun
    by_contra hn
    rw [← htext] at hx
    by_cases hr : x = '\r'
    · exact return_notMem_unifyNewlines t (hr ▸ hx)
    · exact hr ((hplain x ((mem_unifyNewlines hn hr).mp hx) hbreak).resolve_left hn)

/-- Both kinds of body: one that ends with an assignment, and one with a final expression after a
semicolon, whose lines end in two ways. -/
theorem withResult_inserts_iff_bodies :
    withResult "x = 1".toList = .ok "x = 1".toList ∧
    withResult "x = 'ä'\r\ny = 2; x + 'é'\n".toList =
      .ok "x = 'ä'\ny = 2; return x + 'é'".toList := by
  refine ⟨((withResult_inserts_iff "x = 1".toList rfl (by decide +kernel)).2 _).1
    (by decide +kernel), ?_⟩
  have hplain : HasPlainBreaks "x = 'ä'\r\ny = 2; x + 'é'\n".toList := by decide +kernel
  exact (((withResult_inserts_iff "x = 'ä'\r\ny = 2; x + 'é'\n".toList rfl (by decide +kernel)).2
    _).2 "x = 'ä'\ny = 2; ".toList 'x' " + 'é'\n".toList (by decide +kernel)
      (by decide +kernel)).mpr hplain

/-- **A form feed in a literal is lost.** The body is one literal, and what is made of it is no program
any more: the literal is not closed in its line. -/
theorem withResult_formFeed :
    finalExpression? ['\'', '\x0c', '\''] = some (1, 0) ∧
    withResult ['\'', '\x0c', '\''] = .ok "return '\n'".toList ∧
    finalExpression? "return '\n'".toList = none := by
  have hfinal : finalExpression? ['\'', '\x0c', '\''] = some (1, 0) := by decide +kernel
  refine ⟨hfinal, ?_, by decide +kernel⟩
  rw [withResult, hfinal, withResultAt_eq _ rfl (by decide)]
  rfl

end Code

end FormulaCube
