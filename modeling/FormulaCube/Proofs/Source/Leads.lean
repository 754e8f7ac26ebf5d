import FormulaCube.Proofs.Source.Extraction

/-!
# What an import begins with

An import begins with a head, that is `import` or `from module import`, then blanks, and then at least one
character that may stand among names. So whether a text begins an import is known once that character is
read, and until then only the characters of words and blanks were read.

* `ImportHead`, `BeginsImport` — what imports begin with; `isSome_importHere?_iff`.
* `OpensList` — the names stand in parentheses, and may go on beyond the line.
* `importHere?_append` — any other statement ends with its line.
* `importPartsFrom_append_of_stays` — lines from which nothing is taken out.
-/

namespace FormulaCube

/-- A text of such characters, which is not empty. -/
def IsRun (p : Char → Bool) (t : Text) : Prop := t ≠ [] ∧ ∀ c ∈ t, p c = true

/-- What `from module import names` begins with. -/
def FromHead (head : Text) : Prop := ∃ b module b', IsRun isSpaceOrTab b ∧ IsRun isModulePart module ∧
  IsRun isSpaceOrTab b' ∧ head = "from".toList ++ (b ++ (module ++ (b' ++ "import".toList)))

/-- What an import begins with. -/
def ImportHead (head : Text) : Prop := head = "import".toList ∨ FromHead head

/-- An import statement begins the text. -/
def BeginsImport (t : Text) : Prop := ∃ head blanks c rest, ImportHead head ∧ IsRun isSpaceOrTab blanks ∧
  isImportPart c = true ∧ t = head ++ (blanks ++ c :: rest)

/-- The text begins with `from module import` and an opening parenthesis. -/
def OpensList (t : Text) : Prop := ∃ head blanks rest, FromHead head ∧ IsRun isSpaceOrTab blanks ∧
  t = head ++ (blanks ++ '(' :: rest)

/-! ## Reading a head -/

section

variable {p : Char → Bool} {a b k t : Text}

lemma takeWhile_append_run (ha : ∀ c ∈ a, p c = true) (hk : ∀ c ∈ k.head?, p c = false) :
    (a ++ k).takeWhile p = a := by
  rw [List.takeWhile_append_of_pos ha]
  cases k with
  | nil => simp
  | cons c k => simp [hk c rfl]

lemma dropWhile_append_run (ha : ∀ c ∈ a, p c = true) (hk : ∀ c ∈ k.head?, p c = false) :
    (a ++ k).dropWhile p = k := by
  rw [List.dropWhile_append_of_pos ha]
  cases k with
  | nil => simp
  | cons c k => simp [hk c rfl]

namespace LineReader

lemma run_append (ha : IsRun p a) (hk : ∀ c ∈ k.head?, p c = false) : run p (a ++ k) = some (a, k) := by
  rw [run, takeWhile_append_run ha.2 hk, dropWhile_append_run ha.2 hk]
  simp [ha.1]

lemma isRun_of_run {rest : Text} (h : run p t = some (a, rest)) : IsRun p a ∧ t = a ++ rest := by
  rw [run] at h
  split at h
  · cases h
  · rename_i hempty
    obtain ⟨rfl, rfl⟩ := Prod.mk.inj (Option.some_inj.mp h)
    refine ⟨⟨by simpa using hempty, fun c hc => ?_⟩, List.takeWhile_append_dropWhile.symm⟩
    exact List.all_eq_true.mp List.all_takeWhile c hc

lemma eq_takeWhile_of_run {rest : Text} (h : run p t = some (a, rest)) : a = t.takeWhile p := by
  rw [run] at h
  split at h
  · cases h
  · exact (Prod.mk.inj (Option.some_inj.mp h)).1.symm

lemma after?_self_append (w k : Text) : Text.after? w (w ++ k) = some k := by
  induction w with
  | nil => rfl
  | cons c w ih => simp [Text.after?, ih]

lemma word_append (w k : Text) : word w (w ++ k) = some (w, k) := by
  rw [word, after?_self_append]
  rfl

lemma eq_of_word {w rest : Text} (h : word w t = some (a, rest)) : a = w ∧ t = w ++ rest := by
  obtain ⟨rest', hrest, heq⟩ := Option.map_eq_some_iff.mp h
  obtain ⟨rfl, rfl⟩ := Prod.mk.inj heq
  exact ⟨rfl, eq_append_of_after? hrest⟩

lemma all_cons {f : LineReader} {fs : List LineReader} (hf : f t = some (a, k)) {rest : Text}
    (hfs : all fs k = some (b, rest)) : all (f :: fs) t = some (a ++ b, rest) := by
  simp [all, hf, hfs]

end LineReader

end

open LineReader

lemma isModulePart_of_isSpaceOrTab {c : Char} (h : isSpaceOrTab c = true) : isModulePart c = false := by
  rw [isSpaceOrTab, Bool.or_eq_true, decide_eq_true_eq, decide_eq_true_eq] at h
  rcases h with rfl | rfl <;> rfl

lemma isImportPart_of_isSpaceOrTab {c : Char} (h : isSpaceOrTab c = true) : isImportPart c = true := by
  rw [isSpaceOrTab, Bool.or_eq_true, decide_eq_true_eq, decide_eq_true_eq] at h
  rcases h with rfl | rfl <;> rfl

/-- The first character of a run decides where another run before it ends. -/
lemma IsRun.head? {p q : Char → Bool} {a k : Text} (ha : IsRun p a) (h : ∀ c, p c = true → q c = false) :
    ∀ c ∈ (a ++ k).head?, q c = false := by
  obtain ⟨hne, hall⟩ := ha
  cases a with
  | nil => exact absurd rfl hne
  | cons d a =>
      intro c hc
      obtain rfl : d = c := by simpa using hc
      exact h d (hall d List.mem_cons_self)

lemma all_plainHead (k : Text) : all plainHead ("import".toList ++ k) = some ("import".toList, k) :=
  all_cons (word_append _ _) rfl

lemma all_fromHead {head : Text} (h : FromHead head) (k : Text) :
    all fromHead (head ++ k) = some (head, k) := by
  obtain ⟨b, module, b', hb, hmodule, hb', rfl⟩ := h
  have hword : ∀ c ∈ ("import".toList ++ k).head?, isSpaceOrTab c = false := by
    rintro c ⟨⟩
    rfl
  have hblank : ∀ c ∈ (module ++ (b' ++ ("import".toList ++ k))).head?, isSpaceOrTab c = false :=
    hmodule.head? fun c hc => Bool.eq_false_iff.mpr fun hspace => by
      rw [isModulePart_of_isSpaceOrTab hspace] at hc
      cases hc
  simp only [List.append_assoc]
  exact all_cons (word_append _ _) (all_cons (run_append hb hblank)
    (all_cons (run_append hmodule (hb'.head? fun _ => isModulePart_of_isSpaceOrTab))
      (all_cons (run_append hb' hword) (all_plainHead k))))

lemma eq_of_all_plainHead {t lead rest : Text} (h : all plainHead t = some (lead, rest)) :
    lead = "import".toList := by
  obtain ⟨a, b, middle, ha, hb, rfl⟩ := exists_of_all_cons h
  obtain ⟨rfl, -⟩ := eq_of_word ha
  obtain ⟨rfl, -⟩ := Prod.mk.inj (Option.some_inj.mp hb)
  exact List.append_nil _

lemma fromHead_of_all {t lead rest : Text} (h : all fromHead t = some (lead, rest)) : FromHead lead := by
  obtain ⟨w, lead₁, t₁, hw, h₁, hlead⟩ := exists_of_all_cons h
  obtain ⟨b, lead₂, t₂, hb, h₂, hlead₁⟩ := exists_of_all_cons h₁
  obtain ⟨module, lead₃, t₃, hmodule, h₃, hlead₂⟩ := exists_of_all_cons h₂
  obtain ⟨b', lead₄, t₄, hb', h₄, hlead₃⟩ := exists_of_all_cons h₃
  refine ⟨b, module, b', (isRun_of_run hb).1, (isRun_of_run hmodule).1, (isRun_of_run hb').1, ?_⟩
  rw [hlead, (eq_of_word hw).1, hlead₁, hlead₂, hlead₃, eq_of_all_plainHead h₄]

/-- Heads consist of blanks and of what names of modules consist of. -/
lemma ImportHead.forall_mem {head : Text} (h : ImportHead head) :
    ∀ c ∈ head, isSpaceOrTab c = true ∨ isModulePart c = true := by
  have hword {w : Text} (hw : w.all isModulePart = true) (c : Char) (hc : c ∈ w) :
      isSpaceOrTab c = true ∨ isModulePart c = true := .inr (List.all_eq_true.mp hw c hc)
  rcases h with rfl | ⟨b, module, b', hb, hmodule, hb', rfl⟩
  · exact hword (by decide)
  · intro c hc
    simp only [List.mem_append] at hc
    rcases hc with hc | hc | hc | hc | hc
    · exact hword (by decide) c hc
    · exact .inl (hb.2 c hc)
    · exact .inr (hmodule.2 c hc)
    · exact .inl (hb'.2 c hc)
    · exact hword (by decide) c hc

/-! ## Where an import begins -/

section

variable {head : List LineReader} {names? : Text → LineReader} {t : Text}

lemma IsRun.concat_iff {p : Char → Bool} {b : Text} {c : Char} :
    IsRun p (b ++ [c]) ↔ (∀ d ∈ b, p d = true) ∧ p c = true := by
  simp [IsRun, or_imp, forall_and]

/-- Names are read if one character of them is, or if several blanks stand before them. -/
lemma exists_of_namesAfter? {blanks k : Text} (hblanks : IsRun isSpaceOrTab blanks)
    (h : (namesAfter? blanks k).isSome = true) :
    ∃ b c rest, IsRun isSpaceOrTab b ∧ isImportPart c = true ∧ blanks ++ k = b ++ c :: rest := by
  rw [isSome_namesAfter?, Bool.not_eq_true', Bool.and_eq_false_iff] at h
  rcases h with h | h
  · cases k with
    | nil => cases h
    | cons c k =>
        refine ⟨blanks, c, k, hblanks, ?_, rfl⟩
        cases hc : isImportPart c with
        | true => rfl
        | false => simp [hc] at h
  · -- the last of several blanks counts as a name
    have hlength : 2 ≤ blanks.length := Nat.not_lt.mp (of_decide_eq_false h)
    obtain ⟨b, c, rfl⟩ : ∃ b c, blanks = b ++ [c] :=
      ⟨_, _, (List.dropLast_concat_getLast hblanks.1).symm⟩
    obtain ⟨hb, hc⟩ := IsRun.concat_iff.mp hblanks
    refine ⟨b, c, k, ⟨?_, hb⟩, isImportPart_of_isSpaceOrTab hc, by simp⟩
    rintro rfl
    simp at hlength

lemma isSome_namesAfter?_of_run {b k blanks rest : Text} {c : Char} (hb : IsRun isSpaceOrTab b)
    (hc : isImportPart c = true) (h : run isSpaceOrTab (b ++ c :: k) = some (blanks, rest)) :
    (namesAfter? blanks rest).isSome = true := by
  rw [isSome_namesAfter?]
  cases hspace : isSpaceOrTab c with
  | true =>
      have hblanks : (b ++ c :: k).takeWhile isSpaceOrTab = b ++ c :: k.takeWhile isSpaceOrTab := by
        rw [List.takeWhile_append_of_pos hb.2, List.takeWhile_cons_of_pos hspace]
      have hlength : 2 ≤ blanks.length := by
        have hpos := List.length_pos_iff.mpr hb.1
        rw [eq_takeWhile_of_run h, hblanks, List.length_append, List.length_cons]
        omega
      simp [Nat.not_lt.mpr hlength]
  | false =>
      rw [run_append hb (by rintro _ ⟨⟩; exact hspace)] at h
      obtain ⟨rfl, rfl⟩ := Prod.mk.inj (Option.some_inj.mp h)
      simp [hc]

/-- The statement may be read if an import with this head begins the text. -/
lemma isSome_statement?_iff
    (hnames : ∀ blanks t, (names? blanks t).isSome = (namesAfter? blanks t).isSome) :
    (statement? head names? t).isSome = true ↔ ∃ lead b c k, all head t = some (lead, b ++ c :: k) ∧
      IsRun isSpaceOrTab b ∧ isImportPart c = true := by
  constructor
  · intro h
    obtain ⟨⟨statement, after⟩, h⟩ := Option.isSome_iff_exists.mp h
    obtain ⟨lead, rest, blanks, rest', names, hlead, hblanks, h, -⟩ := statement?_eq_some_iff.mp h
    obtain ⟨hrun, hrest⟩ := isRun_of_run hblanks
    obtain ⟨b, c, k, hb, hc, heq⟩ := exists_of_namesAfter? hrun (by rw [← hnames, h]; rfl)
    exact ⟨lead, b, c, k, by rw [hlead, hrest, heq], hb, hc⟩
  · rintro ⟨lead, b, c, k, hlead, hb, hc⟩
    obtain ⟨⟨blanks, rest⟩, hblanks⟩ : ∃ r, run isSpaceOrTab (b ++ c :: k) = some r := by
      obtain ⟨d, b, rfl⟩ := List.exists_cons_of_ne_nil hb.1
      simp [run, hb.2 d]
    have hsome := isSome_namesAfter?_of_run hb hc hblanks
    rw [← hnames] at hsome
    obtain ⟨⟨names, after⟩, h⟩ := Option.isSome_iff_exists.mp hsome
    rw [statement?_eq_some_iff.mpr ⟨lead, _, blanks, rest, names, hlead, hblanks, h, rfl⟩]
    rfl

end

/-- **An import is read where an import begins.** -/
lemma isSome_importHere?_iff {t : Text} : (importHere? t).isSome = true ↔ BeginsImport t := by
  rw [importHere?, Option.isSome_map, Option.isSome_or, Bool.or_eq_true, fromImport?_eq, plainImport?_eq,
    isSome_statement?_iff isSome_namesOrList?, isSome_statement?_iff fun _ _ => rfl]
  constructor
  · rintro (⟨lead, b, c, k, h, hb, hc⟩ | ⟨lead, b, c, k, h, hb, hc⟩)
    · exact ⟨lead, b, c, k, .inr (fromHead_of_all h), hb, hc, (inLine_all inLine_fromHead).eq_append h⟩
    · exact ⟨lead, b, c, k, .inl (eq_of_all_plainHead h), hb, hc,
        (inLine_all inLine_plainHead).eq_append h⟩
  · rintro ⟨head, b, c, k, rfl | hhead, hb, hc, rfl⟩
    · exact .inr ⟨_, b, c, k, all_plainHead _, hb, hc⟩
    · exact .inl ⟨_, b, c, k, all_fromHead hhead _, hb, hc⟩

instance : DecidablePred BeginsImport := fun _ => decidable_of_iff _ isSome_importHere?_iff

/-- What follows the head and the blanks. -/
lemma opensList_iff {t : Text} : OpensList t ↔
    ((all fromHead t).bind fun r => (run isSpaceOrTab r.2).bind fun r => r.2.head?) = some '(' := by
  constructor
  · rintro ⟨head, blanks, rest, hhead, hblanks, rfl⟩
    have hend : ∀ c ∈ ('(' :: rest : Text).head?, isSpaceOrTab c = false := by
      rintro c ⟨⟩
      rfl
    rw [all_fromHead hhead, Option.bind_some, run_append hblanks hend]
    rfl
  · intro h
    obtain ⟨⟨head, after⟩, hhead, h⟩ := Option.bind_eq_some_iff.mp h
    obtain ⟨⟨blanks, names⟩, hblanks, h⟩ := Option.bind_eq_some_iff.mp h
    obtain ⟨rest, rfl⟩ := List.head?_eq_some_iff.mp h
    obtain ⟨hrun, rfl⟩ := isRun_of_run hblanks
    exact ⟨head, blanks, rest, fromHead_of_all hhead, hrun, (inLine_all inLine_fromHead).eq_append hhead⟩

instance : DecidablePred OpensList := fun _ => decidable_of_iff _ opensList_iff.symm

/-! ## Statements that end with their line -/

lemma behindComment_append {t : Text} (ht : '\n' ∈ t) (x : Text) :
    behindComment (t ++ x) = behindComment t ++ x ∧ '\n' ∈ behindComment t := by
  obtain ⟨c, t, rfl⟩ := List.exists_cons_of_ne_nil (List.ne_nil_of_mem ht)
  by_cases hc : c = '#'
  · subst hc
    have ht : '\n' ∈ t := by simpa using ht
    exact ⟨dropWhile_append_of_mem (by decide) ht x, newline_mem_dropWhile (by decide) ht⟩
  · have hsame (k : Text) : behindComment (c :: k) = c :: k := by
      unfold behindComment
      split
      · rename_i heq
        exact absurd (List.cons.inj heq).1 hc
      · rfl
    rw [List.cons_append, hsame, hsame]
    exact ⟨rfl, ht⟩

lemma behindEnd?_append {t : Text} (ht : '\n' ∈ t) (x : Text) :
    behindEnd? (t ++ x) = (behindEnd? t).map (· ++ x) := by
  obtain ⟨c, t, rfl⟩ := List.exists_cons_of_ne_nil (List.ne_nil_of_mem ht)
  by_cases hc : c = ';'
  · subst hc
    have ht : '\n' ∈ t := by simpa using ht
    exact congrArg some (dropWhile_append_of_mem (by decide) ht x)
  · by_cases hnewline : c = '\n'
    · subst hnewline
      rfl
    · simp [behindEnd?, hc, hnewline]

lemma afterStatement?_append {t : Text} (ht : '\n' ∈ t) (x : Text) :
    afterStatement? (t ++ x) = (afterStatement? t).map (· ++ x) := by
  have ht := newline_mem_dropWhile (p := isSpaceOrTab) (by decide) ht
  obtain ⟨hcomment, hmem⟩ := behindComment_append ht x
  rw [afterStatement?_eq, afterStatement?_eq, dropWhile_append_of_mem (by decide) (by assumption),
    hcomment, behindEnd?_append hmem]

lemma namesAfter?_append {t : Text} (ht : '\n' ∈ t) (blanks x : Text) :
    namesAfter? blanks (t ++ x) = (namesAfter? blanks t).map fun (names, after) => (names, after ++ x) := by
  have hdrop := newline_mem_dropWhile (p := isImportPart) (by decide) ht
  rw [namesAfter?, namesAfter?, takeWhile_append_of_mem (by decide) ht,
    dropWhile_append_of_mem (by decide) ht, afterStatement?_append hdrop]
  split
  · rfl
  · simp [Option.map_map, Function.comp_def]

lemma namesInParens?_of_head? {t : Text} (h : t.head? ≠ some '(') : namesInParens? t = none := by
  unfold namesInParens?
  split
  · exact absurd rfl h
  · rfl

lemma statement?_append {head : List LineReader} {names? : Text → LineReader}
    (hhead : ∀ f ∈ head, f.InLine) {t : Text} (ht : '\n' ∈ t) (x : Text)
    (hnames : ∀ lead blanks k, all head t = some (lead, blanks ++ k) → IsRun isSpaceOrTab blanks →
      '\n' ∈ k → names? blanks (k ++ x) = (names? blanks k).map fun (names, after) => (names, after ++ x)) :
    statement? head names? (t ++ x) =
      (statement? head names? t).map fun (statement, after) => (statement, after ++ x) := by
  have hall := inLine_all hhead
  have hrun := inLine_run (p := isSpaceOrTab) rfl
  rw [statement?, statement?, hall.append ht]
  cases hlead : all head t with
  | none => rfl
  | some r =>
      obtain ⟨lead, rest⟩ := r
      have hrest := hall.newline_mem ht hlead
      simp only [Option.map_some, Option.bind_some, hrun.append hrest]
      cases hblanks : run isSpaceOrTab rest with
      | none => rfl
      | some r =>
          obtain ⟨blanks, k⟩ := r
          obtain ⟨hblanks', rfl⟩ := isRun_of_run hblanks
          have hk := hrun.newline_mem hrest hblanks
          simp [hnames lead blanks k hlead hblanks' hk, Option.map_map, Function.comp_def]

/-- **A statement ends with its line, unless it opens a list in parentheses.** -/
lemma importHere?_append {t : Text} (ht : '\n' ∈ t) (hlist : ¬ OpensList t) (x : Text) :
    importHere? (t ++ x) = (importHere? t).map fun (statement, after) => (statement, after ++ x) := by
  have hfrom : fromImport? (t ++ x) =
      (fromImport? t).map fun (statement, after) => (statement, after ++ x) := by
    rw [fromImport?_eq]
    refine statement?_append inLine_fromHead ht x fun lead blanks k hlead hblanks hk => ?_
    have hparen : k.head? ≠ some '(' := by
      intro hhead
      obtain ⟨rest, rfl⟩ := List.head?_eq_some_iff.mp hhead
      exact hlist ⟨lead, blanks, rest, fromHead_of_all hlead, hblanks,
        (inLine_all inLine_fromHead).eq_append hlead⟩
    have hparen' : (k ++ x).head? ≠ some '(' := by
      obtain ⟨c, k, rfl⟩ := List.exists_cons_of_ne_nil (List.ne_nil_of_mem hk)
      exact hparen
    rw [namesOrList?, namesOrList?, namesInParens?_of_head? hparen, namesInParens?_of_head? hparen']
    exact namesAfter?_append hk blanks x
  have hplain : plainImport? (t ++ x) =
      (plainImport? t).map fun (statement, after) => (statement, after ++ x) := by
    rw [plainImport?_eq]
    exact statement?_append inLine_plainHead ht x fun _ blanks k _ _ hk => namesAfter?_append hk blanks x
  rw [importHere?, importHere?, hfrom, hplain]
  cases fromImport? t with
  | some r => rfl
  | none => simp [Option.map_map, Function.comp_def]

/-! ## Lines from which nothing is taken out -/

lemma lineStartBehind_append (lineStart : Bool) (a b : Text) :
    lineStartBehind lineStart (a ++ b) = lineStartBehind (lineStartBehind lineStart a) b :=
  List.foldl_append

/-- The statement at the beginning of lines that end before `x`. -/
lemma exists_of_importHere?_append {k x statement after : Text} (hend : x = [] ∨ '\n' ∈ k)
    (hlist : x = [] ∨ ¬ OpensList k) (h : importHere? (k ++ x) = some (statement, after)) :
    ∃ extent rest, extent ≠ [] ∧ k = extent ++ rest ∧ after = rest ++ x := by
  by_cases hx : x = []
  · subst hx
    rw [List.append_nil] at h
    obtain ⟨extent, hne, hk⟩ := exists_append_of_importHere? h
    exact ⟨extent, after, hne, hk, (List.append_nil after).symm⟩
  · rw [importHere?_append (hend.resolve_left hx) (hlist.resolve_left hx)] at h
    obtain ⟨⟨statement', rest⟩, hk, heq⟩ := Option.map_eq_some_iff.mp h
    obtain ⟨rfl, rfl⟩ := Prod.mk.inj heq
    obtain ⟨extent, hne, hk⟩ := exists_append_of_importHere? hk
    exact ⟨extent, rest, hne, hk, rfl⟩

lemma importPartsFrom_of_importHere? {inLiteral : Nat → Bool} {position : Nat}
    {statement extent after : Text} (hne : extent ≠ [])
    (h : importHere? (extent ++ after) = some (statement, after)) :
    importPartsFrom inLiteral true position (extent ++ after) =
      statementParts (inLiteral position) statement extent ++
        importPartsFrom inLiteral (lineStartBehind true extent) (position + extent.length) after := by
  have htake : (extent ++ after).take ((extent ++ after).length - after.length) = extent := by
    rw [List.length_append, Nat.add_sub_cancel, List.take_left]
  obtain ⟨c, extent, rfl⟩ := List.exists_cons_of_ne_nil hne
  rw [List.cons_append] at h htake ⊢
  rw [importPartsFrom, statementHere?, if_pos rfl]
  split
  · rename_i hsome
    rw [h] at hsome
    obtain ⟨rfl, rfl⟩ := Prod.mk.inj (Option.some_inj.mp hsome)
    simp only [htake]
  · rename_i hnone
    rw [h] at hnone
    cases hnone

/-- **Lines stay if every import in them lies within a literal and ends with its line.** `x` is what
follows the lines. -/
lemma importPartsFrom_append_of_stays {inLiteral : Nat → Bool} {x : Text} {lineStart : Bool}
    {position : Nat} {k : Text} (hend : x = [] ∨ lineStartBehind lineStart k = true)
    (h : ∀ a b, k = a ++ b → b ≠ [] → lineStartBehind lineStart a = true → BeginsImport b →
      inLiteral (position + a.length) = true ∧ (x = [] ∨ ¬ OpensList b)) :
    importPartsFrom inLiteral lineStart position (k ++ x) = k.map .kept ++
      importPartsFrom inLiteral (lineStartBehind lineStart k) (position + k.length) x := by
  -- by induction on the length, since the characters of a statement are passed over together
  induction hn : k.length using Nat.strongRecOn generalizing k lineStart position with
  | ind n ih =>
      subst hn
      cases k with
      | nil => rfl
      | cons c k =>
          have hshift {e rest : Text} (hk : c :: k = e ++ rest) (hne : e ≠ []) :
              importPartsFrom inLiteral (lineStartBehind lineStart e) (position + e.length) (rest ++ x) =
                rest.map .kept ++ importPartsFrom inLiteral (lineStartBehind lineStart (c :: k))
                  (position + (c :: k).length) x := by
            rw [hk, lineStartBehind_append, List.length_append, ← Nat.add_assoc]
            have hpos := List.length_pos_iff.mpr hne
            refine ih _ (by rw [hk, List.length_append]; omega) ?_ (fun a b hab hb hline himport => ?_) rfl
            · rwa [hk, lineStartBehind_append] at hend
            · have h := h (e ++ a) b (by rw [hk, hab, List.append_assoc]) hb
                (by rwa [lineStartBehind_append]) himport
              rwa [List.length_append, ← Nat.add_assoc] at h
          rw [List.cons_append, importPartsFrom]
          split
          · rename_i statement after hsome
            obtain ⟨hline, -⟩ := exists_of_statementHere? hsome
            rw [statementHere?, if_pos hline] at hsome
            have hnewline : x = [] ∨ '\n' ∈ c :: k := hend.imp id fun hstart =>
              (atLineStart_of_lineStartBehind hstart).newline_mem (List.cons_ne_nil c k)
            have himport : BeginsImport (c :: k) := by
              refine isSome_importHere?_iff.mp ?_
              rcases hnewline with rfl | hmem
              · rw [← List.append_nil (c :: k), List.cons_append, hsome]
                rfl
              · rw [← isSome_importHere?_append hmem x, List.cons_append, hsome]
                rfl
            obtain ⟨hin, hlist⟩ := h [] (c :: k) rfl (List.cons_ne_nil c k) hline himport
            rw [← List.cons_append] at hsome
            obtain ⟨extent, rest, hne, hk, rfl⟩ := exists_of_importHere?_append hnewline hlist hsome
            have hextent : (c :: (k ++ x)).take ((c :: (k ++ x)).length - (rest ++ x).length) = extent := by
              rw [← List.cons_append, hk, List.append_assoc, List.length_append, Nat.add_sub_cancel,
                List.take_left]
            have hposition : inLiteral position = true := hin
            simp only [hextent, hposition, statementParts, if_true, hshift hk hne]
            rw [hk, List.map_append, List.append_assoc]
          · exact congrArg (.kept c :: ·) (hshift (e := [c]) rfl (List.cons_ne_nil c []))

end FormulaCube
