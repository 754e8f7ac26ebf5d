import FormulaCube.Proofs.Pieces.Reading
import FormulaCube.Proofs.Shortcut.Tame

/-!
# Scanning by position

Cell source is scanned from a position on, one character, literal or comment after the other, and a
stack may be kept on the way. Here the scanners are written so: a character is looked up by its
position and a stack by its top, and it is a fault if there is none. No scanner ever has one, and
each finds what the walk over the pieces of the text finds.

* `Scan.skipLiteral`, `Scan.skipComment` — where a literal or a comment ends.
* `Scanner.run` — a scan of a text; `Scanner.overPieces` — the same walk over pieces.
* `Scanner.run_eq` — the scan of a text is the walk over its pieces.
* `Scan.spans_run`, `Scan.uncommented_run`, `Scan.closing_run`, `Scan.parts_run` — the four scanners.
-/

namespace FormulaCube

namespace Scan

/-! ## Looking up -/

/-- The character at the position; it is a fault if there is none. -/
def charAt (t : Text) (i : Nat) : Except Fault Char :=
  match t[i]? with
  | some c => .ok c
  | none => .error (.indexRange "string".toList)

/-- Where the first `needle` at the position or behind it begins. -/
def find? (needle t : Text) (i : Nat) : Option Nat :=
  (pastFirst? needle i (t.drop i)).map (· - needle.length)

/-- The characters from one position to before another. -/
def slice (t : Text) (i j : Nat) : Text := (t.drop i).take (j - i)

variable {t rest : Text} {i : Nat} {c mark : Char}

lemma lt_length (h : t.drop i = c :: rest) : i < t.length := by
  rcases Nat.lt_or_ge i t.length with hlt | hle
  · exact hlt
  · rw [List.drop_eq_nil_of_le hle] at h
    cases h

lemma charAt_eq (h : t.drop i = c :: rest) : charAt t i = .ok c := by
  have hat : t[i]? = some c := by
    rw [← Nat.add_zero i, ← List.getElem?_drop, h]
    rfl
  rw [charAt, hat]

lemma drop_succ (h : t.drop i = c :: rest) : t.drop (i + 1) = rest := by
  rw [← List.drop_drop, h]
  rfl

/-- What is cut out from a position on, and what follows. -/
lemma drop_add {a b : Text} (h : t.drop i = a ++ b) : t.drop (i + a.length) = b := by
  rw [← List.drop_drop, h, List.drop_left]

lemma length_eq {a : Text} (h : t.drop i = a) (hi : i ≤ t.length) : t.length = i + a.length := by
  rw [← h, List.length_drop]
  omega

/-! ## Literals -/

/-- The position behind a literal in one mark, of which the first `i` characters of the text have
been read. -/
def skipLine (t : Text) (mark : Char) (i : Nat) : Except Fault Nat :=
  if i < t.length then do
    let c ← charAt t i
    if c = Text.backslash then skipLine t mark (i + 2)
    else if c = mark || c = '\n' then .ok (i + 1)
    else skipLine t mark (i + 1)
  else .ok i
termination_by t.length - i

/-- The position behind the literal that begins at the given one. -/
def skipLiteral (t : Text) (i : Nat) : Except Fault Nat := do
  let mark ← charAt t i
  if [mark, mark, mark].isPrefixOf (t.drop i) then
    match find? [mark, mark, mark] t (i + 3) with
    | some stop => .ok (stop + 3)
    | none => .ok t.length
  else skipLine t mark (i + 1)

/-- A literal that is cut off reaches one position past the end of the text. -/
def past (cut : Bool) : Nat := if cut then 1 else 0

lemma skipLine_eq (t : Text) (mark : Char) (i : Nat) :
    skipLine t mark i = .ok (i + (Piece.closeLine mark (t.drop i)).1.length +
      past (Piece.closeLine mark (t.drop i)).2.2) := by
  generalize hrest : t.drop i = rest
  fun_induction Piece.closeLine mark rest generalizing i with
  | case1 =>
      rw [skipLine, if_neg (by rw [List.drop_eq_nil_iff] at hrest; omega)]
      rfl
  | case2 =>
      have hlt := lt_length hrest
      have hdrop := drop_succ hrest
      rw [List.drop_eq_nil_iff] at hdrop
      rw [skipLine, if_pos hlt, charAt_eq hrest]
      show skipLine t mark (i + 2) = _
      rw [skipLine, if_neg (by omega)]
      rfl
  | case3 d more body after cut heq ih =>
      have hdrop : t.drop (i + 2) = more := drop_succ (drop_succ hrest)
      rw [skipLine, if_pos (lt_length hrest), charAt_eq hrest]
      show skipLine t mark (i + 2) = _
      rw [ih _ hdrop, heq]
      simp only [List.length_cons]
      congr 1
      omega
  | case4 c rest hback hmark =>
      rw [skipLine, if_pos (lt_length hrest), charAt_eq hrest]
      show (if _ then _ else _) = _
      rw [if_neg hback, if_pos hmark]
      rfl
  | case5 c rest hback hmark body after cut heq ih =>
      rw [skipLine, if_pos (lt_length hrest), charAt_eq hrest]
      show (if _ then _ else _) = _
      rw [if_neg hback, if_neg hmark, ih _ (drop_succ hrest), heq]
      simp only [List.length_cons]
      congr 1
      omega

/-- Three marks that close a literal are found where the literal ends. -/
lemma pastFirst?_marks (mark : Char) (start : Nat) (rest : Text) :
    (pastFirst? [mark, mark, mark] start rest).getD (start + rest.length) =
        start + (Piece.closeBlock mark rest).1.length ∧
      ∀ stop ∈ pastFirst? [mark, mark, mark] start rest, 3 ≤ stop := by
  fun_induction Piece.closeBlock mark rest generalizing start with
  | case1 => exact ⟨rfl, fun stop hstop => absurd hstop (Option.not_mem_none stop)⟩
  | case2 c rest hmarks =>
      rw [pastFirst?, if_pos hmarks]
      refine ⟨rfl, fun stop hstop => ?_⟩
      rw [← Option.some_inj.mp hstop]
      exact Nat.le_add_left 3 start
  | case3 c rest hmarks body after heq ih =>
      rw [heq] at ih
      rw [pastFirst?, if_neg hmarks, List.length_cons, List.length_cons]
      have hstart : start + (rest.length + 1) = start + 1 + rest.length := by omega
      refine ⟨?_, (ih (start + 1)).2⟩
      rw [hstart, (ih (start + 1)).1]
      show start + 1 + body.length = start + (body.length + 1)
      omega

/-- **Where a literal ends**, by its position and by its characters. -/
lemma skipLiteral_eq (h : t.drop i = mark :: rest) :
    skipLiteral t i = .ok (i + (mark :: (Piece.closeLiteral mark rest).1).length +
      past (Piece.closeLiteral mark rest).2.2) := by
  have hmarks : [mark, mark, mark].isPrefixOf (t.drop i) = [mark, mark].isPrefixOf rest := by
    rw [h, List.isPrefixOf_cons_cons, beq_self_eq_true, Bool.true_and]
  rw [skipLiteral, charAt_eq h]
  show (if _ then _ else _) = _
  rw [hmarks, Piece.closeLiteral]
  split
  · rename_i hopen
    obtain ⟨block, rfl⟩ := List.isPrefixOf_iff_prefix.mp hopen
    have hdrop : t.drop (i + 3) = block := drop_succ (drop_succ (drop_succ h))
    have hlength := length_eq h (Nat.le_of_lt (lt_length h))
    obtain ⟨hends, hpast⟩ := pastFirst?_marks mark (i + 3) block
    simp only [List.length_cons, List.length_append, List.length_nil] at hlength
    show _ = Except.ok (i + (mark :: mark :: mark :: (Piece.closeBlock mark block).1).length + 0)
    rw [find?, hdrop]
    simp only [List.length_cons]
    cases hfound : pastFirst? [mark, mark, mark] (i + 3) block with
    | none =>
        rw [hfound, Option.getD_none] at hends
        refine congrArg Except.ok ?_
        omega
    | some stop =>
        have hstop := hpast stop hfound
        rw [hfound, Option.getD_some] at hends
        refine congrArg Except.ok ?_
        show stop - 3 + 3 = _
        omega
  · rw [skipLine_eq, drop_succ h, List.length_cons]
    congr 2
    omega

/-! ## Comments -/

/-- The position of the line end behind the comment that begins at the given position, or of the end
of the text. -/
def skipComment (t : Text) (i : Nat) : Nat := (find? ['\n'] t i).getD t.length

/-- The first line end is found behind the comment. -/
lemma pastFirst?_lineEnd (start : Nat) (rest : Text) :
    ((pastFirst? ['\n'] start rest).map (· - 1)).getD (start + rest.length) =
      start + (rest.takeWhile Piece.inComment).length := by
  induction rest generalizing start with
  | nil => rfl
  | cons c rest ih =>
      rw [pastFirst?, List.isPrefixOf_cons_cons, List.isPrefixOf_nil_left, Bool.and_true,
        List.takeWhile_cons]
      by_cases hc : c = '\n'
      · rw [if_pos (by rw [hc]; rfl), hc]
        rfl
      · have hin : Piece.inComment c = true := bne_iff_ne.mpr hc
        have hstart : start + (c :: rest).length = start + 1 + rest.length := by
          rw [List.length_cons]
          omega
        rw [if_neg (by simpa using Ne.symm hc), if_pos hin, hstart, ih, List.length_cons]
        omega

/-- **Where a comment ends**, by its position and by its characters. -/
lemma skipComment_eq (h : t.drop i = '#' :: rest) :
    skipComment t i = i + ('#' :: rest.takeWhile Piece.inComment).length := by
  have hlength := length_eq h (Nat.le_of_lt (lt_length h))
  rw [skipComment, find?, h, hlength]
  exact pastFirst?_lineEnd i ('#' :: rest)

end Scan

/-! ## Scanners -/

/-- What is done with what a scan comes by. A scanner keeps a state and gives a result at the end of
the text, or at a character. -/
structure Scanner (σ ρ : Type) where
  /-- The state behind a literal between the two positions. -/
  literal : σ → Nat → Nat → σ
  /-- The state behind a comment between the two positions. -/
  comment : σ → Nat → Nat → σ
  /-- The state behind a character of code at the position, or the result. -/
  code : σ → Nat → Char → Except Fault (σ ⊕ ρ)
  /-- The result at the end of the text. -/
  finish : σ → ρ

namespace Scanner

variable {σ ρ : Type} {t rest : Text} {i : Nat} {c : Char}

lemma exists_drop_eq (h : Scan.charAt t i = .ok c) : ∃ rest, t.drop i = c :: rest := by
  rw [Scan.charAt] at h
  split at h
  · rename_i d hd
    obtain rfl := Except.ok.inj h
    obtain ⟨hi, hget⟩ := List.getElem?_eq_some_iff.mp hd
    exact ⟨t.drop (i + 1), by rw [List.drop_eq_getElem_cons hi, hget]⟩
  · cases h

lemma lt_skipLiteral {stop : Nat} (h : Scan.charAt t i = .ok c)
    (hstop : Scan.skipLiteral t i = .ok stop) : i < stop := by
  obtain ⟨rest, hrest⟩ := exists_drop_eq h
  rw [Scan.skipLiteral_eq hrest, List.length_cons] at hstop
  have := Except.ok.inj hstop
  omega

lemma lt_skipComment (h : Scan.charAt t i = .ok '#') : i < Scan.skipComment t i := by
  obtain ⟨rest, hrest⟩ := exists_drop_eq h
  rw [Scan.skipComment_eq hrest, List.length_cons]
  omega

/-- The scan of a text from a position on. -/
def run (scanner : Scanner σ ρ) (t : Text) (i : Nat) (state : σ) : Except Fault ρ :=
  if _hi : i < t.length then
    match _hc : Scan.charAt t i with
    | .error f => .error f
    | .ok c =>
      if Text.isQuote c then
        match _hstop : Scan.skipLiteral t i with
        | .error f => .error f
        | .ok stop => scanner.run t stop (scanner.literal state i stop)
      else if _hhash : c = '#' then
        scanner.run t (Scan.skipComment t i) (scanner.comment state i (Scan.skipComment t i))
      else
        match scanner.code state i c with
        | .error f => .error f
        | .ok (.inl next) => scanner.run t (i + 1) next
        | .ok (.inr result) => .ok result
  else .ok (scanner.finish state)
termination_by t.length - i
decreasing_by
  · have := lt_skipLiteral _hc _hstop
    omega
  · have := lt_skipComment (_hhash ▸ _hc)
    omega
  · omega

/-- The same over pieces that begin at position `i`. -/
def overPieces (scanner : Scanner σ ρ) : (i : Nat) → (state : σ) → List Piece → Except Fault ρ
  | _, state, [] => .ok (scanner.finish state)
  | i, state, .literal body cut :: pieces =>
    scanner.overPieces (i + body.length)
      (scanner.literal state i (i + body.length + Scan.past cut)) pieces
  | i, state, .comment body :: pieces =>
    scanner.overPieces (i + body.length) (scanner.comment state i (i + body.length)) pieces
  | i, state, .code c :: pieces =>
    match scanner.code state i c with
    | .error f => .error f
    | .ok (.inl next) => scanner.overPieces (i + 1) next pieces
    | .ok (.inr result) => .ok result

/-! ## Steps of a scan -/

section

variable {scanner : Scanner σ ρ} {state : σ}

lemma run_end (h : t.drop i = []) : scanner.run t i state = .ok (scanner.finish state) := by
  rw [run, dif_neg]
  rw [List.drop_eq_nil_iff] at h
  omega

lemma run_literal {mark : Char} (h : t.drop i = mark :: rest) (hquote : Text.isQuote mark = true)
    {stop : Nat} (hstop : Scan.skipLiteral t i = .ok stop) :
    scanner.run t i state = scanner.run t stop (scanner.literal state i stop) := by
  rw [run, dif_pos (Scan.lt_length h)]
  split
  · rename_i hc
    rw [Scan.charAt_eq h] at hc
    cases hc
  · rename_i hc
    rw [Scan.charAt_eq h] at hc
    obtain rfl := Except.ok.inj hc
    rw [if_pos hquote]
    split
    · rename_i hfault
      rw [hstop] at hfault
      cases hfault
    · rename_i found
      rw [hstop] at found
      rw [Except.ok.inj found]

lemma run_comment (h : t.drop i = '#' :: rest) : scanner.run t i state =
    scanner.run t (Scan.skipComment t i) (scanner.comment state i (Scan.skipComment t i)) := by
  rw [run, dif_pos (Scan.lt_length h)]
  split
  · rename_i hc
    rw [Scan.charAt_eq h] at hc
    cases hc
  · rename_i hc
    rw [Scan.charAt_eq h] at hc
    obtain rfl := Except.ok.inj hc
    rw [if_neg (by decide), dif_pos rfl]

lemma run_code (h : t.drop i = c :: rest) (hhash : ¬ c = '#') (hquote : ¬ Text.isQuote c = true) :
    scanner.run t i state =
      match scanner.code state i c with
      | .error f => .error f
      | .ok (.inl next) => scanner.run t (i + 1) next
      | .ok (.inr result) => .ok result := by
  rw [run, dif_pos (Scan.lt_length h)]
  split
  · rename_i hc
    rw [Scan.charAt_eq h] at hc
    cases hc
  · rename_i hc
    rw [Scan.charAt_eq h] at hc
    obtain rfl := Except.ok.inj hc
    rw [if_neg hquote, dif_neg hhash]

end

/-- **The scan of a text is the walk over its pieces.** -/
theorem run_eq (scanner : Scanner σ ρ) (t : Text) (i : Nat) (state : σ) :
    scanner.run t i state = scanner.overPieces i state (Piece.ofText (t.drop i)) := by
  generalize hrest : t.drop i = rest
  fun_induction Piece.ofText rest generalizing i state with
  | case1 => exact run_end hrest
  | case2 rest ih =>
      have hstop := Scan.skipComment_eq hrest
      have htext : t.drop i = ('#' :: rest.takeWhile Piece.inComment) ++
          rest.dropWhile Piece.inComment := by
        rw [hrest, List.cons_append, List.takeWhile_append_dropWhile]
      rw [run_comment hrest, hstop]
      exact ih _ _ (Scan.drop_add htext)
  | case3 mark rest hhash hquote ih =>
      have htext : t.drop i = (mark :: (Piece.closeLiteral mark rest).1) ++
          (Piece.closeLiteral mark rest).2.1 := by
        rw [hrest, List.cons_append, Piece.closeLiteral_append]
      rw [run_literal hrest hquote (Scan.skipLiteral_eq hrest), overPieces]
      cases hcut : (Piece.closeLiteral mark rest).2.2 with
      | false => exact ih _ _ (Scan.drop_add htext)
      | true =>
          -- a literal that is cut off is the last piece
          have hafter := Piece.closeLiteral_of_cut hcut
          have hend := Scan.drop_add htext
          rw [hafter, List.drop_eq_nil_iff] at hend
          rw [hafter, run_end (List.drop_eq_nil_iff.mpr (Nat.le_add_right_of_le hend)), Piece.ofText]
          rfl
  | case4 c rest hhash hquote ih =>
      rw [run_code hrest hhash hquote, overPieces]
      cases scanner.code state i c with
      | error f => rfl
      | ok next =>
          cases next with
          | inl next => exact ih _ _ (Scan.drop_succ hrest)
          | inr result => rfl

end Scanner

/-! ## The four scanners -/

namespace Scan

variable {t : Text} {i last : Nat}

/-- Notes where the literals lie. -/
def spans : Scanner (List (Nat × Nat)) (List (Nat × Nat)) where
  literal found i stop := found ++ [(i, stop)]
  comment found _ _ := found
  code found _ _ := .ok (.inl found)
  finish found := found

lemma spans_overPieces (i : Nat) (found : List (Nat × Nat)) (ps : List Piece) :
    spans.overPieces i found ps = .ok (found ++ spansFrom i ps) := by
  induction ps generalizing i found with
  | nil => exact congrArg Except.ok (List.append_nil found).symm
  | cons x ps ih =>
      cases x with
      | code c => exact ih (i + 1) found
      | comment body => exact ih (i + body.length) found
      | literal body cut =>
          refine (ih (i + body.length) _).trans (congrArg Except.ok ?_)
          exact List.append_assoc found [(i, i + body.length + past cut)] _

/-- **The search for literals.** -/
theorem spans_run (t : Text) : spans.run t 0 [] = .ok (stringSpans t) := by
  rw [Scanner.run_eq, spans_overPieces]
  rfl

lemma slice_append {a b : Text} (hlast : last ≤ i) (h : t.drop i = a ++ b) :
    slice t last (i + a.length) = slice t last i ++ a := by
  have hcut : i + a.length - last = (i - last) + a.length := by omega
  have hdrop : (t.drop last).drop (i - last) = a ++ b := by
    rw [List.drop_drop, Nat.add_sub_of_le hlast, h]
  rw [slice, slice, hcut, List.take_add, hdrop, List.take_left]

lemma slice_append_drop (hlast : last ≤ i) : slice t last i ++ t.drop i = t.drop last := by
  have hdrop : t.drop i = (t.drop last).drop (i - last) := by
    rw [List.drop_drop, Nat.add_sub_of_le hlast]
  rw [slice, hdrop, List.take_append_drop]

lemma slice_self (t : Text) (i : Nat) : slice t i i = [] := by
  rw [slice, Nat.sub_self, List.take_zero]

/-- Collects the text between comments. The state is what is collected and where the last comment
ends. -/
def uncommented (t : Text) : Scanner (Text × Nat) Text where
  literal state _ _ := state
  comment state i stop := (state.1 ++ slice t state.2 i, stop)
  code state _ _ := .ok (.inl state)
  finish state := state.1 ++ t.drop state.2

lemma uncommented_overPieces {out : Text} {ps : List Piece} (hlast : last ≤ i)
    (hps : t.drop i = ps.flatMap Piece.text) : (uncommented t).overPieces i (out, last) ps =
      .ok (out ++ slice t last i ++ ps.flatMap Piece.uncommented) := by
  induction ps generalizing i last out with
  | nil =>
      refine congrArg Except.ok ?_
      show out ++ t.drop last = _
      have hend : t.drop i = [] := hps
      rw [← slice_append_drop hlast, hend]
      simp only [List.append_nil, List.flatMap_nil]
  | cons x ps ih =>
      rw [List.flatMap_cons] at hps
      have hkeep : slice t last (i + x.text.length) = slice t last i ++ x.text :=
        slice_append hlast hps
      have hdrop := drop_add hps
      rw [List.flatMap_cons]
      cases x with
      | code c =>
          refine (ih (Nat.le_add_right_of_le hlast) hdrop).trans (congrArg Except.ok ?_)
          rw [hkeep]
          simp only [List.append_assoc]
          rfl
      | literal body cut =>
          refine (ih (Nat.le_add_right_of_le hlast) hdrop).trans (congrArg Except.ok ?_)
          rw [hkeep]
          simp only [List.append_assoc]
          rfl
      | comment body =>
          refine (ih (Nat.le_refl _) hdrop).trans (congrArg Except.ok ?_)
          rw [slice_self, List.append_nil]
          rfl

/-- **The removal of comments.** -/
theorem uncommented_run (t : Text) : (uncommented t).run t 0 ([], 0) = .ok (withoutComments t) := by
  rw [Scanner.run_eq, uncommented_overPieces (Nat.le_refl 0) (Piece.flatMap_text_ofText _).symm,
    slice_self]
  rfl

/-- Looks for the closing bracket. The state is the stack of the expected brackets, the last one
first; it is a fault to look at the top of an empty stack. -/
def closing : Scanner Text (Option Nat) where
  literal expected _ _ := expected
  comment expected _ _ := expected
  code expected i c :=
    match closer? c with
    | some close => .ok (.inl (close :: expected))
    | none =>
      if isCloser c then
        match expected with
        | [] => .error (.indexRange "list".toList)
        | top :: below =>
          if c ≠ top then .ok (.inr none)
          else if below.isEmpty then .ok (.inr (some i))
          else .ok (.inl below)
      else .ok (.inl expected)
  finish _ := none

/-- The stack is empty only when the search is over. -/
lemma closing_overPieces {expected : Text} (h : expected ≠ []) (i : Nat) (ps : List Piece) :
    closing.overPieces i expected ps = .ok (closingFrom expected i ps) := by
  fun_induction closingFrom expected i ps with
  | case1 => rfl
  | case2 expected i c ps close hopen ih =>
      rw [Scanner.overPieces]
      simp only [closing, hopen]
      exact ih (List.cons_ne_nil _ _)
  | case3 => exact absurd rfl h
  | case4 i ps top hopen hclose =>
      rw [Scanner.overPieces]
      simp only [closing, hopen, hclose, if_true, ne_eq, not_true_eq_false, if_false,
        List.isEmpty_nil]
  | case5 i c ps hopen hclose top htop =>
      rw [Scanner.overPieces]
      simp only [closing, hopen, hclose, if_true, ne_eq, htop, not_false_eq_true]
  | case6 i ps top below hbelow hopen hclose ih =>
      have hne : below.isEmpty = false := List.isEmpty_eq_false_iff.mpr hbelow
      rw [Scanner.overPieces]
      simp only [closing, hopen, hclose, if_true, ne_eq, not_true_eq_false, if_false, hne,
        Bool.false_eq_true]
      exact ih hbelow
  | case7 i c ps hopen hclose top below hbelow htop =>
      rw [Scanner.overPieces]
      simp only [closing, hopen, hclose, if_true, ne_eq, htop, not_false_eq_true]
  | case8 expected i c ps hopen hclose ih =>
      rw [Scanner.overPieces]
      simp only [closing, hopen, hclose, Bool.false_eq_true, if_false]
      exact ih h
  | case9 expected i piece ps hpiece ih =>
      cases piece with
      | code c => exact absurd rfl (hpiece c)
      | literal body cut => exact ih h
      | comment body => exact ih h

/-- **The search for the closing parenthesis** of one that was opened just before the position. -/
theorem closing_run (t : Text) (i : Nat) :
    closing.run t i [')'] = .ok ((closingParen? (t.drop i)).map (· + i)) := by
  rw [Scanner.run_eq, closing_overPieces (List.cons_ne_nil _ _), closingParen?, ← closingFrom_add,
    Nat.zero_add]

/-- Cuts at separators. The state is the parts so far, the depth, and where the last of them ends. -/
def parts (sep : Char) (t : Text) : Scanner (List Text × Int × Nat) (List Text) where
  literal state _ _ := state
  comment state _ _ := state
  code state i c :=
    if (closer? c).isSome then .ok (.inl (state.1, state.2.1 + 1, state.2.2))
    else if isCloser c then .ok (.inl (state.1, state.2.1 - 1, state.2.2))
    else if c = sep && state.2.1 = 0 then
      .ok (.inl (state.1 ++ [slice t state.2.2 i], state.2.1, i + 1))
    else .ok (.inl state)
  finish state := state.1 ++ [t.drop state.2.2]

/-- A piece at which the text is not cut belongs to the part that is being read. -/
lemma parts_keep {sep : Char} {depth depth' : Int} {done : List Text} {x : Piece} {ps : List Piece}
    (hlast : last ≤ i) (hps : t.drop i = x.text ++ ps.flatMap Piece.text)
    (hstep : (parts sep t).overPieces i (done, depth, last) (x :: ps) =
      (parts sep t).overPieces (i + x.text.length) (done, depth', last) ps)
    (hrest : (parts sep t).overPieces (i + x.text.length) (done, depth', last) ps =
      .ok (done ++ prepend (slice t last (i + x.text.length)) (splitPieces sep depth' ps))) :
    (parts sep t).overPieces i (done, depth, last) (x :: ps) =
      .ok (done ++ prepend (slice t last i) (prepend x.text (splitPieces sep depth' ps))) := by
  rw [hstep, hrest, slice_append hlast hps, prepend_append]

lemma parts_overPieces {sep : Char} {depth : Int} {done : List Text} {ps : List Piece}
    (hlast : last ≤ i) (hps : t.drop i = ps.flatMap Piece.text) :
    (parts sep t).overPieces i (done, depth, last) ps =
      .ok (done ++ prepend (slice t last i) (splitPieces sep depth ps)) := by
  fun_induction splitPieces sep depth ps generalizing i last done with
  | case1 depth =>
      refine congrArg (fun part => Except.ok (done ++ [part])) ?_
      have hend : t.drop i = [] := hps
      rw [← slice_append_drop hlast, hend]
  | case2 depth c ps hopen ih =>
      refine parts_keep hlast hps ?_ (ih (Nat.le_succ_of_le hlast) (drop_succ hps))
      rw [Scanner.overPieces]
      simp only [parts, hopen, if_true]
      rfl
  | case3 depth c ps hopen hclose ih =>
      refine parts_keep hlast hps ?_ (ih (Nat.le_succ_of_le hlast) (drop_succ hps))
      rw [Scanner.overPieces]
      simp only [parts, hopen, hclose, Bool.false_eq_true, if_true, if_false]
      rfl
  | case4 depth c ps hopen hclose hsep ih =>
      rw [Scanner.overPieces]
      simp only [parts, hopen, hclose, hsep, Bool.false_eq_true, if_true, if_false]
      refine (ih (Nat.le_refl _) (drop_succ hps)).trans (congrArg Except.ok ?_)
      rw [slice_self, prepend_nil (splitPieces_ne_nil _ _ _), List.append_assoc, prepend,
        List.append_nil]
      rfl
  | case5 depth c ps hopen hclose hsep ih =>
      refine parts_keep hlast hps ?_ (ih (Nat.le_succ_of_le hlast) (drop_succ hps))
      rw [Scanner.overPieces]
      simp only [parts, hopen, hclose, hsep, Bool.false_eq_true, if_false]
      rfl
  | case6 depth piece ps hpiece ih =>
      cases piece with
      | code c => exact absurd rfl (hpiece c)
      | literal body cut =>
          exact parts_keep hlast hps rfl (ih (Nat.le_add_right_of_le hlast) (drop_add hps))
      | comment body =>
          exact parts_keep hlast hps rfl (ih (Nat.le_add_right_of_le hlast) (drop_add hps))

/-- **The cutting at separators.** -/
theorem parts_run (sep : Char) (t : Text) :
    (parts sep t).run t 0 ([], 0, 0) = .ok (splitTopLevel sep t) := by
  rw [Scanner.run_eq, parts_overPieces (Nat.le_refl 0) (Piece.flatMap_text_ofText _).symm,
    slice_self, prepend_nil (splitPieces_ne_nil _ _ _)]
  rfl

end Scan

end FormulaCube
