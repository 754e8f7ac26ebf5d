import FormulaCube.Proofs.Hoisting.Calm
import FormulaCube.Proofs.Margin.Generation
import FormulaCube.Proofs.Source.Lines

/-!
# Statements, and what stands between them

A text that is laid out in statements, with nothing between them that begins an import, is read statement
by statement, wherever it stands between lines.

* `Laid` — the layout; `Rests`, `Closed`, `Whole` — what the texts in it are like, which can be computed.
* `Still.inside_of_beginsImport` — where an import begins in a text between statements.
* `Laid.statementsFrom_append`, `Laid.imports_eq` — the statements are what is read.
* `Laid.trimNewlines` — newlines at the ends do not matter.
-/

namespace FormulaCube

/-! ## Statements and what stands between them -/

/-- A text that consists of statements and of texts between them, with its statements. A text between
them rests, where a line begins with it or not; statements are whole. -/
inductive Laid (rests : Bool → Text → Prop) (whole : Text → Prop) : Text → List Text → Prop
  /-- Lines without a statement. -/
  | other {t : Text} (h : rests true t) : Laid rests whole t []
  /-- A statement up to the end of its line. -/
  | statement {t s : Text} (h : whole t)
      (hread : ∀ k, AtLineEnd k → importHere? (t ++ k) = some (s, k.drop 1)) : Laid rests whole t [s]
  /-- A statement and other code behind it, in the same line at first. -/
  | followed {t s u : Text} (h : whole t) (hends : Piece.ofText (t ++ [';']) = Piece.ofText t ++ [.code ';'])
      (hread : ∀ k, importHere? (t ++ ';' :: k) = some (s, k.dropWhile isSpaceOrTab))
      (hrests : rests false u) : Laid rests whole (t ++ ';' :: u) [s]
  /-- One below the other. -/
  | lines {a b : Text} {ss ss' : List Text} (ha : Laid rests whole a ss) (hb : Laid rests whole b ss') :
      Laid rests whole (a ++ '\n' :: b) (ss ++ ss')

/-- No import begins in the text outside literals. -/
def Rests (rules : List Rule) (fresh : Bool) (t : Text) : Prop :=
  Still (Piece.IsStill rules) t ∧ (fresh = true → ¬ BeginsImport t)

/-- All literals of the text are closed. -/
def Closed (t : Text) : Prop := Tidy (fun _ => True) (Piece.ofText t)

/-- The text consists of whole literals and comments, and its last line does not end. -/
def Whole (t : Text) : Prop := Closed t ∧ t.getLast? ≠ some '\n'

section

variable {rules : List Rule} {p : Piece → Prop} {a b k t u v : Text} {c : Char} {ss : List Text}

lemma Still.closed (h : Still p t) : Closed t := by
  obtain ⟨ps, rfl, htidy, -⟩ := h
  rw [Closed, htidy.ofText_textOf]
  exact htidy.imp fun _ _ => trivial

/-- What is settled can be computed. -/
lemma tidy_iff_isSettled : Tidy (Piece.IsInert rules) (Piece.ofText t) ↔ isSettled rules t = true := by
  refine ⟨fun htidy => List.all_eq_true.mpr fun x hx => ?_, tidy_of_isSettled⟩
  obtain ⟨hwhole, hinert⟩ := htidy.mem hx
  have hnone (body : Text) (h : ∀ rule ∈ rules, rule.findHead none body = none) :
      (rules.all fun rule => (rule.findHead none body).isNone) = true :=
    List.all_eq_true.mpr fun rule hrule => Option.isNone_iff_eq_none.mpr (h rule hrule)
  cases x with
  | code c => rfl
  | comment body => exact hnone body hinert
  | literal body cut =>
      rw [Piece.isSettled, hwhole.1, hwhole.2, hnone body hinert]
      rfl

lemma closed_iff_isSettled : Closed t ↔ isSettled [] t = true :=
  Iff.trans ⟨fun h => h.imp fun x _ => by cases x <;> first | trivial | nofun,
    fun h => h.imp fun _ _ => trivial⟩ tidy_iff_isSettled

instance : DecidablePred Closed := fun _ => decidable_of_iff _ closed_iff_isSettled.symm

instance : DecidablePred Whole := fun t => inferInstanceAs (Decidable (Closed t ∧ t.getLast? ≠ some '\n'))

lemma rests_iff {fresh : Bool} : Rests rules fresh t ↔ (isSettled rules t = true ∧
    (∀ x ∈ Piece.ofText t, x.OpensNoList) ∧ Calm (Piece.ofText t)) ∧
      (fresh = true → ¬ BeginsImport t) := by
  refine and_congr_left fun _ => ⟨?_, fun ⟨hsettled, hlists, hcalm⟩ => ?_⟩
  · rintro ⟨ps, rfl, htidy, hcalm⟩
    rw [← tidy_iff_isSettled, htidy.ofText_textOf]
    exact ⟨htidy.imp fun _ h => h.1, fun x hx => (htidy.mem hx).2.2, hcalm⟩
  · have htidy := tidy_of_isSettled hsettled
    refine ⟨_, (textOf_ofText t).symm, .of_reread htidy.reread fun x hx => ?_, hcalm⟩
    exact ⟨(htidy.mem hx).1, (htidy.mem hx).2, hlists x hx⟩

instance (fresh : Bool) : DecidablePred (Rests rules fresh) := fun _ => decidable_of_iff _ rests_iff.symm

/-- What follows a character of code is read apart. -/
lemma ofText_append_code (h : Piece.ofText (t ++ [c]) = Piece.ofText t ++ [.code c]) (k : Text) :
    Piece.ofText (t ++ c :: k) = Piece.ofText t ++ .code c :: Piece.ofText k := by
  have hreread := reread_ofText (t ++ [c])
  rw [h] at hreread
  have htext := (hreread.behind_code k).ofText_textOf
  rwa [textOf_append, textOf_cons, textOf_ofText, textOf_ofText] at htext

/-- Behind whole literals and comments the end of a line is one of code. -/
lemma Closed.ofText_append_newline (h : Closed a) (b : Text) :
    Piece.ofText (a ++ '\n' :: b) = Piece.ofText a ++ .code '\n' :: Piece.ofText b := by
  refine ofText_append_code ?_ b
  have hline : Tidy (fun _ => True) [Piece.code '\n'] := ⟨⟨by decide, rfl⟩, trivial, nofun, trivial⟩
  have htidy := h.append hline fun x hx c hc => ?_
  · have htext := htidy.ofText_textOf
    rwa [textOf_append, textOf_ofText] at htext
  · obtain rfl : '\n' = c := by simpa [textOf, Piece.text] using hc
    have hwhole := (h.mem (List.mem_of_getLast? hx)).1
    cases hcomment : x.isComment with
    | false => exact hwhole.readBefore_nil.endsBefore_of_not_isQuote hcomment rfl
    | true =>
        cases x with
        | comment body => rfl
        | _ => cases hcomment

lemma closed_iff_of_append (h : Piece.ofText (t ++ c :: u) = Piece.ofText t ++ .code c :: Piece.ofText u) :
    Closed (t ++ c :: u) ↔ Closed t ∧ Closed u := by
  have hreread := reread_ofText (t ++ c :: u)
  rw [Closed, h] at *
  constructor
  · intro htidy
    exact ⟨htidy.of_append.1, htidy.of_append.2.2.2.2⟩
  · rintro ⟨ht, hu⟩
    have hc := (hreread.of_append.2).1.isWhole nofun
    refine .of_reread hreread fun x hx => ⟨?_, trivial⟩
    rcases List.mem_append.mp hx with hx | hx
    · exact (ht.mem hx).1
    · rcases List.mem_cons.mp hx with rfl | hx
      · exact hc
      · exact (hu.mem hx).1

lemma Laid.closed (h : Laid (Rests rules) Whole t ss) : Closed t := by
  induction h with
  | other h => exact h.1.closed
  | statement h _ => exact h.1
  | followed h hends _ hrests =>
      exact (closed_iff_of_append (ofText_append_code hends _)).mpr ⟨h.1, hrests.1.closed⟩
  | lines _ _ iha ihb => exact (closed_iff_of_append (iha.ofText_append_newline _)).mpr ⟨iha, ihb⟩

/-! ## Reading lines without a statement -/

/-- A piece that ends a line is the end of a line of code. -/
lemma Piece.IsWhole.eq_newline {x : Piece} (h : x.IsWhole) (hline : x.EndsLine) : x = .code '\n' := by
  cases x with
  | code c =>
      obtain rfl : c = '\n' := Option.some_inj.mp hline
      rfl
  | comment body =>
      obtain ⟨t, rfl, ht⟩ := h
      have hmem : '\n' ∈ '#' :: t := List.mem_of_getLast? hline
      simp [ht] at hmem
  | literal body cut =>
      obtain ⟨mark, rest, rfl, hmark⟩ := exists_eq_of_isClosedLiteral h.2
      have hline : (mark :: rest ++ [mark]).getLast? = some '\n' := hline
      rw [List.getLast?_concat] at hline
      rw [Option.some_inj.mp hline] at hmark
      cases hmark

/-- A position inside of a literal divides it. -/
lemma exists_of_inside {ps : List Piece} {n : Nat} (h : inside ps n = true) :
    ∃ us body cut ws e f, ps = us ++ .literal body cut :: ws ∧ body = e ++ f ∧ e ≠ [] ∧ f ≠ [] ∧
      (textOf us ++ e).length = n := by
  induction ps generalizing n with
  | nil => cases h
  | cons x ps ih =>
      rw [inside] at h
      split at h
      · rename_i hlt
        rw [Bool.and_eq_true, decide_eq_true_eq] at h
        obtain ⟨body, cut, rfl⟩ := Piece.exists_eq_literal h.1
        have hlt : n < body.length := hlt
        refine ⟨[], body, cut, ps, body.take n, body.drop n, rfl, (List.take_append_drop n body).symm,
          ?_, ?_, ?_⟩
        · exact List.ne_nil_of_length_pos (by rw [List.length_take]; omega)
        · exact List.ne_nil_of_length_pos (by rw [List.length_drop]; omega)
        · rw [show textOf [] = [] from rfl, List.nil_append, List.length_take]
          omega
      · rename_i hle
        obtain ⟨us, body, cut, ws, e, f, rfl, hbody, he, hf, hlength⟩ := ih h
        refine ⟨x :: us, body, cut, ws, e, f, rfl, hbody, he, hf, ?_⟩
        rw [textOf_cons, List.append_assoc, List.length_append, hlength]
        exact Nat.add_sub_cancel' (Nat.not_lt.mp hle)

/-- A mark is no part of what opens a list. -/
lemma OpensList.of_append (h : OpensList (a ++ k)) (hc : c ∈ a) (hquote : Text.isQuote c = true) :
    OpensList a := by
  obtain ⟨head, blanks, rest, hhead, hblanks, heq⟩ := h
  have hopens : head ++ (blanks ++ '(' :: rest) = (head ++ (blanks ++ ['('])) ++ rest := by simp
  rw [hopens] at heq
  rcases List.append_eq_append_iff.mp heq.symm with ⟨more, rfl, -⟩ | ⟨more, hmore, -⟩
  · exact ⟨head, blanks, more, hhead, hblanks, by simp⟩
  · exfalso
    have hmem : c ∈ head ++ (blanks ++ ['(']) := hmore ▸ List.mem_append_left _ hc
    have hmark : isSpaceOrTab c = false ∧ isModulePart c = false ∧ c ≠ '(' := by
      rw [Text.isQuote, Bool.or_eq_true, decide_eq_true_eq, decide_eq_true_eq] at hquote
      rcases hquote with rfl | rfl <;> decide
    simp only [List.mem_append, List.mem_singleton] at hmem
    rcases hmem with hmem | hmem | hmem
    · rcases (ImportHead.forall_mem (.inr hhead)) c hmem with h | h
      · rw [hmark.1] at h
        cases h
      · rw [hmark.2.1] at h
        cases h
    · rw [hblanks.2 c hmem] at hmark
      cases hmark.1
    · exact hmark.2.2 hmem

/-- **A line of a still text that begins an import lies within a literal**, and opens no list. -/
lemma Still.inside_of_beginsImport (h : Still (Piece.IsStill rules) (a ++ b)) (ha : AtLineStart a)
    (hne : a ≠ []) (himport : BeginsImport b) :
    inside (Piece.ofText (a ++ b)) a.length = true ∧ ∀ k, ¬ OpensList (b ++ k) := by
  obtain ⟨ps, htext, htidy, hcalm⟩ := h
  rw [htext, htidy.ofText_textOf]
  cases hinside : inside ps a.length with
  | false =>
      exfalso
      obtain ⟨us, ws, rfl, rfl⟩ := htidy.reread.exists_append htext.symm ha hinside
      rw [textOf_append] at htext
      obtain rfl := List.append_cancel_left htext
      obtain ⟨us, x, rfl⟩ := (List.eq_nil_or_concat' us).resolve_left fun hnil => hne (by rw [hnil]; rfl)
      have hx := (htidy.of_append.1.mem (List.mem_append_right us List.mem_cons_self)).1
      obtain ⟨e, c, hlast⟩ := hx.readBefore_nil.exists_text_eq_concat
      rw [textOf_append, textOf_cons, hlast] at ha
      have hline : x.EndsLine := by
        rw [Piece.EndsLine, hlast, List.getLast?_concat, ha c (by simp [textOf])]
      rw [List.append_assoc] at hcalm
      exact hcalm.right.1 (hx.eq_newline hline) himport
  | true =>
      refine ⟨rfl, fun k hlist => ?_⟩
      obtain ⟨us, body, cut, ws, e, f, rfl, rfl, he, hf, hlength⟩ := exists_of_inside hinside
      have hx := htidy.mem (x := .literal (e ++ f) cut) (by simp)
      rw [textOf_append, textOf_cons, Piece.text, List.append_assoc, ← List.append_assoc] at htext
      obtain ⟨rfl, rfl⟩ := List.append_inj htext hlength.symm
      obtain ⟨e, rfl⟩ : ∃ e', e = e' ++ ['\n'] := by
        obtain ⟨e', c, rfl⟩ := (List.eq_nil_or_concat' e).resolve_left he
        rw [ha c (by rw [← List.append_assoc, List.getLast?_concat]; rfl)]
        exact ⟨e', rfl⟩
      -- the literal ends with a mark behind the line
      obtain ⟨mark, rest, hbody, hmark⟩ := exists_eq_of_isClosedLiteral hx.1.2
      obtain ⟨f, c, rfl⟩ := (List.eq_nil_or_concat' f).resolve_left hf
      rw [← List.append_assoc, ← List.cons_append] at hbody
      obtain ⟨-, hlast⟩ := List.append_inj' hbody rfl
      rw [← List.singleton_inj.mp hlast] at hmark
      rw [List.append_assoc] at hlist
      exact hx.2.2 e (f ++ [c]) (by simp) (hlist.of_append (by simp) hmark)

/-! ## Reading statements -/

/-- The statements that are taken out from a position on. -/
def statementsFrom (inLiteral : Nat → Bool) (lineStart : Bool) (position : Nat) (t : Text) : List Text :=
  (importPartsFrom inLiteral lineStart position t).filterMap ImportPart.statement?

lemma AtLineEnd.exists_append (h : AtLineEnd k) :
    ∃ e, k = e ++ k.drop 1 ∧ (e = [] ∧ k = [] ∨ e = ['\n']) := by
  rcases h.eq with rfl | ⟨rest, rfl⟩
  · exact ⟨[], rfl, .inl ⟨rfl, rfl⟩⟩
  · exact ⟨['\n'], rfl, .inr rfl⟩

variable {inLiteral : Nat → Bool} {position : Nat} {lineStart : Bool}

/-- With the end of its line a text ends, and the next line begins. -/
lemma statementsFrom_behind (lineStart : Bool) {e : Text} (he : e = [] ∧ k = [] ∨ e = ['\n']) :
    statementsFrom inLiteral (lineStartBehind lineStart (t ++ e)) (position + (t ++ e).length)
        (k.drop 1) =
      statementsFrom inLiteral true (position + t.length + 1) (k.drop 1) := by
  rcases he with ⟨rfl, rfl⟩ | rfl
  · simp [statementsFrom, importPartsFrom]
  · rw [lineStartBehind_concat, decide_eq_true rfl, List.length_append]
    rfl

lemma beginsImport_of_end {e : Text} (he : e = [] ∧ k = [] ∨ e = ['\n']) (h : BeginsImport (b ++ e)) :
    BeginsImport b := by
  rcases he with ⟨rfl, -⟩ | rfl
  · rwa [List.append_nil] at h
  · exact h.of_line

lemma not_beginsImport_nil : ¬ BeginsImport [] := by
  rw [← isSome_importHere?_iff]
  decide

/-- **From a still text nothing is taken out**, up to the end of its last line. -/
lemma Still.statementsFrom_append (h : Still (Piece.IsStill rules) t)
    (hfirst : lineStart = true → ¬ BeginsImport t) (hlit : LiteralsOf inLiteral position t)
    (hk : AtLineEnd k) : statementsFrom inLiteral lineStart position (t ++ k) =
      statementsFrom inLiteral true (position + t.length + 1) (k.drop 1) := by
  obtain ⟨e, hke, he⟩ := hk.exists_append
  rw [← statementsFrom_behind lineStart he]
  conv => lhs; rw [hke, ← List.append_assoc]
  rw [statementsFrom, importPartsFrom_append_of_stays, List.filterMap_append, List.filterMap_map]
  · exact congrArg (· ++ _) (List.filterMap_eq_nil_iff.mpr fun _ _ => rfl)
  · rcases he with ⟨-, rfl⟩ | rfl
    · exact .inl rfl
    · exact .inr (by rw [lineStartBehind_concat]; rfl)
  · intro a b hab hb hline himport
    -- the line that begins an import does so within the text
    obtain ⟨b, rfl, rfl⟩ : ∃ b', t = a ++ b' ∧ b = b' ++ e := by
      rcases List.append_eq_append_iff.mp hab with ⟨a', rfl, rfl⟩ | ⟨b', rfl, rfl⟩
      · exfalso
        rcases he with ⟨heq, -⟩ | heq
        · exact hb (List.append_eq_nil_iff.mp heq).2
        · cases a' with
          | nil =>
              rw [List.nil_append] at heq
              exact not_beginsImport_nil (BeginsImport.of_line (k := []) (heq ▸ himport))
          | cons d a' =>
              exact hb (List.append_eq_nil_iff.mp (List.cons.inj heq).2).2
      · exact ⟨b', rfl, rfl⟩
    have himport := beginsImport_of_end he himport
    have hb : b ≠ [] := fun hnil => not_beginsImport_nil (hnil ▸ himport)
    by_cases ha : a = []
    · subst ha
      exact absurd himport (hfirst hline)
    · obtain ⟨hinside, hlist⟩ :=
        h.inside_of_beginsImport (atLineStart_of_lineStartBehind hline) ha himport
      refine ⟨?_, .inr (hlist e)⟩
      rw [hlit _ (by rw [List.length_append]; exact Nat.lt_add_of_pos_right (List.length_pos_iff.mpr hb))]
      exact hinside

/-- No literal begins before the text. -/
lemma LiteralsOf.first (h : LiteralsOf inLiteral position t) (ht : t ≠ []) :
    inLiteral position = false := by
  have hfirst := h 0 (List.length_pos_iff.mpr ht)
  rw [Nat.add_zero] at hfirst
  rw [hfirst]
  cases hps : Piece.ofText t with
  | nil => rfl
  | cons x ps =>
      have hx := reread_ofText t
      rw [hps] at hx
      obtain ⟨c, rest, htext⟩ := hx.1.exists_text_eq
      rw [inside, if_pos (by rw [Piece.length, htext]; exact Nat.succ_pos _), decide_eq_false (by simp),
        Bool.and_false]

/-- Before and behind a character of code. -/
lemma LiteralsOf.of_append_code
    (hcut : Piece.ofText (t ++ c :: u) = Piece.ofText t ++ .code c :: Piece.ofText u)
    (h : LiteralsOf inLiteral position (t ++ c :: u)) :
    LiteralsOf inLiteral position t ∧ LiteralsOf inLiteral (position + t.length + 1) u := by
  constructor
  · intro y hy
    rw [h y (by rw [List.length_append]; exact Nat.lt_add_right _ hy), hcut]
    exact inside_append_of_lt (by rwa [textOf_ofText]) _
  · intro y hy
    have hadd := inside_append_add (Piece.ofText t) (.code c :: Piece.ofText u) (y + 1)
    rw [textOf_ofText] at hadd
    rw [Nat.add_assoc, Nat.add_assoc, Nat.add_comm 1 y, h _ (by simp; omega), hcut, hadd]
    exact if_neg (Nat.not_lt.mpr (Nat.le_add_left 1 y))

/-- The statement that begins a text is taken out. -/
lemma statementsFrom_of_importHere? {extent after s : Text} (hne : extent ≠ [])
    (hread : importHere? (extent ++ after) = some (s, after)) (hout : inLiteral position = false) :
    statementsFrom inLiteral true position (extent ++ after) =
      s :: statementsFrom inLiteral (lineStartBehind true extent) (position + extent.length) after := by
  rw [statementsFrom, importPartsFrom_of_importHere? hne hread, List.filterMap_append,
    statements_statementParts, hout]
  rfl

lemma importHere?_nil : importHere? [] = none := rfl

lemma dropWhile_append_of_atLineEnd (hk : AtLineEnd k) (u : Text) :
    (u ++ k).dropWhile isSpaceOrTab = u.dropWhile isSpaceOrTab ++ k := by
  induction u with
  | nil =>
      rcases hk.eq with rfl | ⟨rest, rfl⟩
      · rfl
      · exact List.dropWhile_cons_of_neg (by decide)
  | cons c u ih =>
      rw [List.cons_append, List.dropWhile_cons, List.dropWhile_cons, ih]
      split <;> rfl

lemma isLineCode_of_isSpaceOrTab (h : ∀ c ∈ a, isSpaceOrTab c = true) : isLineCode a = true :=
  List.all_eq_true.mpr fun c hc => by
    have hc := h c hc
    rw [isSpaceOrTab, Bool.or_eq_true, decide_eq_true_eq, decide_eq_true_eq] at hc
    rcases hc with rfl | rfl <;> rfl

/-- Blanks behind a semicolon are passed over, and no line begins behind them. -/
lemma Still.statementsFrom_dropWhile (h : Still (Piece.IsStill rules) u)
    (hlit : LiteralsOf inLiteral position u) (hk : AtLineEnd k) :
    statementsFrom inLiteral false (position + (u.takeWhile isSpaceOrTab).length)
        (u.dropWhile isSpaceOrTab ++ k) =
      statementsFrom inLiteral true (position + u.length + 1) (k.drop 1) := by
  have hcode : isLineCode (u.takeWhile isSpaceOrTab) = true :=
    isLineCode_of_isSpaceOrTab fun c hc => List.all_eq_true.mp List.all_takeWhile c hc
  have hsplit : u.takeWhile isSpaceOrTab ++ u.dropWhile isSpaceOrTab = u :=
    List.takeWhile_append_dropWhile
  have hcut : Piece.ofText (u.takeWhile isSpaceOrTab ++ u.dropWhile isSpaceOrTab) =
      Piece.ofText (u.takeWhile isSpaceOrTab) ++ Piece.ofText (u.dropWhile isSpaceOrTab) := by
    have hself := ofText_lineCode hcode []
    rw [List.append_nil] at hself
    rw [ofText_lineCode hcode, hself, Piece.ofText, List.append_nil]
  have hrest := LiteralsOf.right hcut (hsplit.symm ▸ hlit)
  have hstill : Still (Piece.IsStill rules) (u.dropWhile isSpaceOrTab) := .of_codes hcode (hsplit.symm ▸ h)
  have hbehind : statementsFrom inLiteral false _ (_ ++ k) = _ :=
    hstill.statementsFrom_append (absurd · Bool.false_ne_true) hrest hk
  rwa [Nat.add_assoc position, ← List.length_append, hsplit] at hbehind

/-- **The statements of a text are read in their order**, and nothing else up to the end of its last
line. -/
theorem Laid.statementsFrom_append (h : Laid (Rests rules) Whole t ss)
    (hlit : LiteralsOf inLiteral position t) (hk : AtLineEnd k) :
    statementsFrom inLiteral true position (t ++ k) =
      ss ++ statementsFrom inLiteral true (position + t.length + 1) (k.drop 1) := by
  induction h generalizing position k with
  | other h => exact h.1.statementsFrom_append h.2 hlit hk
  | @statement t s h hread =>
      have ht : t ≠ [] := by
        rintro rfl
        cases importHere?_nil.symm.trans (hread [] nofun)
      obtain ⟨e, hke, he⟩ := hk.exists_append
      have hread : importHere? ((t ++ e) ++ k.drop 1) = some (s, k.drop 1) := by
        rw [List.append_assoc, ← hke]
        exact hread k hk
      have hextent := List.append_ne_nil_of_left_ne_nil ht e
      conv => lhs; rw [hke, ← List.append_assoc]
      rw [statementsFrom_of_importHere? hextent hread (hlit.first ht), statementsFrom_behind true he]
      rfl
  | @followed t s u h hends hread hrests =>
      have hrest := (hlit.of_append_code (ofText_append_code hends u)).2
      have hfirst := hlit.first (by simp)
      generalize hblanks : u.takeWhile isSpaceOrTab = blanks
      have hsplit : u = blanks ++ u.dropWhile isSpaceOrTab := by
        rw [← hblanks, List.takeWhile_append_dropWhile]
      have hbehind := hrests.1.statementsFrom_dropWhile hrest hk
      rw [hblanks] at hbehind
      have htext : t ++ ';' :: u ++ k = (t ++ ';' :: blanks) ++ (u.dropWhile isSpaceOrTab ++ k) := by
        conv => lhs; rw [hsplit]
        simp
      have hread : importHere? ((t ++ ';' :: blanks) ++ (u.dropWhile isSpaceOrTab ++ k)) =
          some (s, u.dropWhile isSpaceOrTab ++ k) := by
        rw [← htext, List.append_assoc, List.cons_append, hread, dropWhile_append_of_atLineEnd hk]
      -- no line begins behind the semicolon
      have hline : lineStartBehind true (t ++ ';' :: blanks) = false := by
        rw [← Bool.not_eq_true, lineStartBehind_true_iff]
        intro hstart
        have hmem := hstart.of_append.newline_mem (List.cons_ne_nil _ _)
        have hnot : '\n' ∉ blanks := newline_notMem_of_isSpaceOrTab fun c hc =>
          List.all_eq_true.mp List.all_takeWhile c (hblanks ▸ hc)
        simp [hnot] at hmem
      have hextent : t ++ ';' :: blanks ≠ [] := by simp
      have hposition : position + (t ++ ';' :: blanks).length = position + t.length + 1 + blanks.length := by
        simp only [List.length_append, List.length_cons]
        omega
      have hend : position + (t ++ ';' :: u).length = position + t.length + 1 + u.length := by
        simp only [List.length_append, List.length_cons]
        omega
      rw [htext, statementsFrom_of_importHere? hextent hread hfirst, hline, hposition, hbehind, hend]
      rfl
  | @lines a b ss ss' ha hb iha ihb =>
      obtain ⟨hlita, hlitb⟩ := hlit.of_append_code (ha.closed.ofText_append_newline b)
      have hline : AtLineEnd ('\n' :: (b ++ k)) := by
        rintro c ⟨⟩
        rfl
      have hposition : position + a.length + 1 + b.length = position + (a ++ '\n' :: b).length := by
        simp only [List.length_append, List.length_cons]
        omega
      rw [List.append_assoc, List.cons_append, iha hlita hline, List.drop_one, List.tail_cons,
        ihb hlitb hk, hposition, List.append_assoc]

/-- **The imports of a text are its statements**, each once. -/
theorem Laid.imports_eq (h : Laid (Rests rules) Whole t ss) :
    (extractImports t).imports = ss.eraseDups := by
  have hread := h.statementsFrom_append (literalsOf_stringSpans t) (k := []) nofun
  have hend : statementsFrom (insideSpan (stringSpans t)) true (0 + t.length + 1) [] = [] := by
    simp [statementsFrom, importPartsFrom]
  rw [List.append_nil, List.drop_nil, hend, List.append_nil] at hread
  rw [extractImports_eq]
  exact congrArg List.eraseDups hread

/-! ## Newlines at the ends -/

lemma Rests.of_cons_newline {fresh : Bool} (h : Rests rules fresh ('\n' :: t)) : Rests rules true t := by
  obtain ⟨⟨ps, heq, htidy, hcalm⟩, -⟩ := h
  have hps : ps = .code '\n' :: Piece.ofText t := by
    rw [← htidy.ofText_textOf, ← heq, ofText_code (by decide) rfl]
  rw [hps] at htidy hcalm
  refine ⟨⟨_, (textOf_ofText t).symm, htidy.2.2.2, hcalm.2⟩, fun _ himport => hcalm.1 rfl ?_⟩
  rwa [textOf_ofText]

lemma Rests.of_concat_newline {fresh : Bool} (h : Rests rules fresh (t ++ ['\n'])) :
    Rests rules fresh t := by
  obtain ⟨⟨ps, heq, htidy, hcalm⟩, hfirst⟩ := h
  refine ⟨?_, fun hfresh himport => hfirst hfresh (himport.append _)⟩
  obtain ⟨ps, x, rfl⟩ := (List.eq_nil_or_concat' ps).resolve_left fun hnil => by
    rw [hnil] at heq
    cases (List.append_eq_nil_iff.mp heq).2
  have hx := htidy.of_append.2.1
  obtain ⟨u, c, hlast⟩ := hx.readBefore_nil.exists_text_eq_concat
  have htext : t ++ ['\n'] = (textOf ps ++ u) ++ [c] := by
    rw [heq, textOf_append, textOf_cons, hlast, List.append_assoc]
    simp [textOf]
  obtain ⟨ht, hc⟩ := List.append_inj' htext rfl
  have hline : x = .code '\n' := hx.eq_newline (by
    rw [Piece.EndsLine, hlast, List.getLast?_concat, ← List.singleton_inj.mp hc])
  rw [hline] at hlast
  have hlast : [] ++ ['\n'] = u ++ [c] := hlast
  obtain ⟨hu, -⟩ := List.append_inj' hlast rfl
  rw [← hu, List.append_nil] at ht
  exact ⟨ps, ht, htidy.of_append.1, hcalm.left⟩

/-- The characters cut off at the end of a text. -/
lemma Text.exists_dropTailWhile (c : Char) (t : Text) :
    ∃ n, t = Text.dropTailWhile (· == c) t ++ List.replicate n c := by
  induction t with
  | nil => exact ⟨0, rfl⟩
  | cons d t ih =>
      obtain ⟨n, hn⟩ := ih
      rw [Text.dropTailWhile]
      split
      · rename_i hnil
        rw [hnil, List.nil_append] at hn
        split
        · rename_i hd
          exact ⟨n + 1, by rw [beq_iff_eq.mp hd, hn, List.nil_append, List.replicate_succ]⟩
        · exact ⟨n, by rw [hn]; rfl⟩
      · rename_i e kept heq
        exact ⟨n, by rw [heq] at hn; rw [hn]; rfl⟩

namespace Laid

/-- Without a character there is no statement. -/
lemma eq_nil {rests : Bool → Text → Prop} {whole : Text → Prop} (h : Laid rests whole [] ss) : ss = [] := by
  generalize ht : [] = t at h
  cases h with
  | other h => rfl
  | statement h hread =>
      subst ht
      cases importHere?_nil.symm.trans (hread [] nofun)
  | followed h hends hread hrests => cases (List.append_eq_nil_iff.mp ht.symm).2
  | lines ha hb => cases (List.append_eq_nil_iff.mp ht.symm).2

lemma of_cons_newline (h : Laid (Rests rules) Whole ('\n' :: t) ss) : Laid (Rests rules) Whole t ss := by
  have hnone (k : Text) (s after : Text) : importHere? ('\n' :: k) ≠ some (s, after) := nofun
  generalize ht : '\n' :: t = u at h
  induction h generalizing t with
  | other h => exact .other (ht ▸ h).of_cons_newline
  | @statement u s h hread =>
      subst ht
      exact absurd (hread [] nofun) (hnone _ _ _)
  | @followed u s v h hends hread hrests =>
      cases u with
      | nil => cases (List.cons.inj ht).1
      | cons c u =>
          obtain rfl : '\n' = c := (List.cons.inj ht).1
          exact absurd (hread []) (hnone _ _ _)
  | @lines a b ss ss' ha hb iha ihb =>
      cases a with
      | nil =>
          rw [ha.eq_nil, (List.cons.inj ht).2]
          exact hb
      | cons c a =>
          obtain ⟨rfl, rfl⟩ := List.cons.inj ht
          exact .lines (iha rfl) hb

lemma of_concat_newline (h : Laid (Rests rules) Whole (t ++ ['\n']) ss) :
    Laid (Rests rules) Whole t ss := by
  generalize ht : t ++ ['\n'] = u at h
  induction h generalizing t with
  | other h => exact .other (ht ▸ h).of_concat_newline
  | @statement u s h hread =>
      subst ht
      exact absurd List.getLast?_concat h.2
  | @followed u s v h hends hread hrests =>
      rcases List.eq_nil_or_concat' v with rfl | ⟨v, c, rfl⟩
      · cases List.singleton_inj.mp (List.append_inj' ht rfl).2
      · rw [← List.cons_append, ← List.append_assoc] at ht
        obtain ⟨rfl, hc⟩ := List.append_inj' ht rfl
        rw [← hc] at hrests
        exact .followed h hends hread hrests.of_concat_newline
  | @lines a b ss ss' ha hb iha ihb =>
      rcases List.eq_nil_or_concat' b with rfl | ⟨b, c, rfl⟩
      · rw [hb.eq_nil, List.append_nil, (List.append_inj' ht rfl).1]
        exact ha
      · rw [← List.cons_append, ← List.append_assoc] at ht
        obtain ⟨rfl, hc⟩ := List.append_inj' ht rfl
        exact .lines ha (ihb (by rw [hc]))

/-- **Newlines at the ends hold no statement.** -/
lemma trimNewlines (h : Laid (Rests rules) Whole t ss) : Laid (Rests rules) Whole t.trimNewlines ss := by
  have hlead {t : Text} (h : Laid (Rests rules) Whole t ss) :
      Laid (Rests rules) Whole (t.dropWhile (· == '\n')) ss := by
    induction t with
    | nil => exact h
    | cons c t ih =>
        rw [List.dropWhile_cons]
        split
        · rename_i hc
          rw [beq_iff_eq.mp hc] at h
          exact ih h.of_cons_newline
        · exact h
  have htail {t : Text} (n : Nat) (h : Laid (Rests rules) Whole (t ++ List.replicate n '\n') ss) :
      Laid (Rests rules) Whole t ss := by
    induction n with
    | zero => rwa [List.replicate_zero, List.append_nil] at h
    | succ n ih =>
        rw [List.replicate_succ', ← List.append_assoc] at h
        exact ih h.of_concat_newline
  obtain ⟨n, hn⟩ := Text.exists_dropTailWhile '\n' (t.dropWhile (· == '\n'))
  exact htail n (hn ▸ hlead h)

end Laid

end

end FormulaCube
