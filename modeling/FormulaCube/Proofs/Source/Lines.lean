import FormulaCube.Proofs.Cutting
import FormulaCube.Proofs.Source.Leads

/-!
# Extraction by lines

A source that consists of import lines and of other lines is extracted line by line.

* `ImportLine` — `import names` or `from module import names`, perhaps with a comment.
* `SourceLine`, `PlacedLine` — lines, and where they stand in a source.
* `extractImports_lines` — the statements of the import lines that do not begin in a literal are
  collected, and exactly those lines are taken out.
-/

namespace FormulaCube

open LineReader

/-! ## Lines -/

/-- A line that is an import statement. -/
structure ImportLine where
  /-- `import`, or `from module import`. -/
  head : Text
  /-- What stands between the head and the names. -/
  blanks : Text
  /-- The names, with commas, blanks and whatever else may stand among them. -/
  names : Text
  /-- A comment, or nothing. -/
  comment : Text
  isHead : ImportHead head
  isRun_blanks : IsRun isSpaceOrTab blanks
  isImportPart_of_mem : ∀ c ∈ names, isImportPart c = true
  /-- The names begin behind the blanks, and with no parenthesis. -/
  begins : ∃ c rest, names = c :: rest ∧ isSpaceOrTab c = false ∧ c ≠ '('
  isComment : comment = [] ∨ ∃ t, comment = '#' :: t ∧ '\n' ∉ t

namespace ImportLine

variable (line : ImportLine)

/-- The line in a source. -/
def text : Text := line.head ++ (line.blanks ++ (line.names ++ line.comment))

/-- The statement, without the comment and without blanks at its end. -/
def statement : Text := (line.head ++ (line.blanks ++ line.names)).trimRight

end ImportLine

/-- A line of a source, without its newline. -/
inductive SourceLine where
  /-- An import statement. -/
  | statement (line : ImportLine)
  /-- Any other line. -/
  | other (text : Text) (h : '\n' ∉ text)

/-- The text of a line. -/
def SourceLine.text : SourceLine → Text
  | statement line => line.text
  | other text _ => text

/-- The line begins with the word `import` or `from` and a blank. -/
def looksLikeImport (t : Text) : Bool := ["import".toList, "from".toList].any fun word =>
  ((Text.after? word t).bind List.head?).any isSpaceOrTab

/-- A line where it stands in a source. -/
structure PlacedLine where
  /-- Where it begins. -/
  position : Nat
  /-- The line. -/
  line : SourceLine
  /-- No newline follows it. -/
  isLast : Bool

/-- Lines, with newlines between them, from a position on. -/
def placeLines : (position : Nat) → List SourceLine → List PlacedLine
  | _, [] => []
  | position, line :: lines =>
    ⟨position, line, lines.isEmpty⟩ :: placeLines (position + line.text.length + 1) lines

/-- The position lies inside a literal of the source. -/
def InLiteral (t : Text) (position : Nat) : Prop :=
  ∃ span ∈ stringSpans t, span.1 < position ∧ position < span.2

instance (t : Text) (position : Nat) : Decidable (InLiteral t position) :=
  inferInstanceAs (Decidable (∃ span ∈ stringSpans t, _))

namespace PlacedLine

/-- The line with its own newline. -/
def text (l : PlacedLine) : Text := l.line.text ++ if l.isLast then [] else ['\n']

/-- The statement of an import line that does not begin inside a literal of the source. -/
def statement? (t : Text) (l : PlacedLine) : Option Text :=
  match l.line with
  | .statement line => if InLiteral t l.position then none else some line.statement
  | .other _ _ => none

/-- A line that is no import line does not look like one, unless it begins inside a literal and
contains no parenthesis. -/
def MayStand (t : Text) (l : PlacedLine) : Prop :=
  match l.line with
  | .statement _ => True
  | .other text _ => looksLikeImport text = true → InLiteral t l.position ∧ '(' ∉ text

instance (t : Text) (l : PlacedLine) : Decidable (l.MayStand t) :=
  match l with
  | ⟨_, .statement _, _⟩ => isTrue trivial
  | ⟨position, .other text _, _⟩ =>
    inferInstanceAs (Decidable (looksLikeImport text = true → InLiteral t position ∧ '(' ∉ text))

end PlacedLine

/-! ## One line -/

/-- A line ends here: a newline follows, or nothing. -/
def AtLineEnd (k : Text) : Prop := ∀ c ∈ k.head?, c = '\n'

lemma AtLineEnd.eq {k : Text} (h : AtLineEnd k) : k = [] ∨ ∃ rest, k = '\n' :: rest := by
  cases k with
  | nil => exact .inl rfl
  | cons c k => exact .inr ⟨k, by rw [h c rfl]⟩

/-- What is read up to the end of the line is read from the line. -/
lemma isPrefix_of_append_eq {a b t k : Text} (h : t ++ k = a ++ b) (ha : '\n' ∉ a) (hk : AtLineEnd k) :
    a <+: t := by
  rcases List.append_eq_append_iff.mp h with ⟨a', rfl, rfl⟩ | ⟨rest, rfl, -⟩
  · cases a' with
    | nil => simp
    | cons c a' =>
        obtain rfl : c = '\n' := hk c rfl
        simp at ha
  · exact List.prefix_append a rest

lemma newline_notMem_of_isSpaceOrTab {t : Text} (h : ∀ c ∈ t, isSpaceOrTab c = true) : '\n' ∉ t :=
  fun hmem => by cases h _ hmem

lemma looksLikeImport_of_append {w blanks rest t k : Text} (hw : w = "import".toList ∨ w = "from".toList)
    (hblanks : IsRun isSpaceOrTab blanks) (h : t ++ k = w ++ (blanks ++ rest)) (hk : AtLineEnd k) :
    looksLikeImport t = true := by
  obtain ⟨c, blanks, rfl⟩ := List.exists_cons_of_ne_nil hblanks.1
  have hc := hblanks.2 c List.mem_cons_self
  have hline : '\n' ∉ w ++ [c] := by
    intro hmem
    rcases List.mem_append.mp hmem with hmem | hmem
    · rcases hw with rfl | rfl <;> revert hmem <;> decide
    · rw [← List.mem_singleton.mp hmem] at hc
      cases hc
  have heq : t ++ k = (w ++ [c]) ++ (blanks ++ rest) := by simp [h]
  obtain ⟨rest, rfl⟩ := isPrefix_of_append_eq heq hline hk
  refine List.any_eq_true.mpr ⟨w, by simpa using hw, ?_⟩
  rw [List.append_assoc, after?_self_append]
  exact hc

/-- An import is only read from a line that looks like one. -/
lemma looksLikeImport_of_beginsImport {t k : Text} (h : BeginsImport (t ++ k)) (hk : AtLineEnd k) :
    looksLikeImport t = true := by
  obtain ⟨head, blanks, c, rest, rfl | ⟨b, module, b', hb, -, -, rfl⟩, hblanks, -, heq⟩ := h
  · exact looksLikeImport_of_append (.inl rfl) hblanks heq hk
  · simp only [List.append_assoc] at heq
    exact looksLikeImport_of_append (.inr rfl) hb heq hk

lemma namesAfter?_of_forall {blanks names comment k : Text} (hnames : ∀ c ∈ names, isImportPart c = true)
    (hne : names ≠ []) (hcomment : comment = [] ∨ ∃ t, comment = '#' :: t ∧ '\n' ∉ t)
    (hk : AtLineEnd k) :
    namesAfter? blanks (names ++ (comment ++ k)) = some (blanks ++ names, k.drop 1) := by
  have hend : ∀ c ∈ (comment ++ k).head?, isImportPart c = false := by
    rcases hcomment with rfl | ⟨t, rfl, -⟩
    · rcases hk.eq with rfl | ⟨rest, rfl⟩ <;> simp [isImportPart]
    · simp [isImportPart]
  have hafter : afterStatement? (comment ++ k) = some (k.drop 1) := by
    have hline : behindEnd? k = some (k.drop 1) := by
      rcases hk.eq with rfl | ⟨rest, rfl⟩ <;> rfl
    rcases hcomment with rfl | ⟨t, rfl, ht⟩
    · rcases hk.eq with rfl | ⟨rest, rfl⟩ <;> rfl
    · have hdrop : (t ++ k).dropWhile (· != '\n') = k :=
        dropWhile_append_run (fun c hc => bne_iff_ne.mpr fun h => ht (h ▸ hc))
          fun c hc => by simp [hk c hc]
      have hread : afterStatement? ('#' :: (t ++ k)) = behindEnd? ((t ++ k).dropWhile (· != '\n')) := rfl
      rw [List.cons_append, hread, hdrop, hline]
  rw [namesAfter?, takeWhile_append_run hnames hend, dropWhile_append_run hnames hend, hafter]
  simp [hne]

/-- A head begins with a word. -/
lemma ImportHead.exists_eq_cons {head : Text} (h : ImportHead head) :
    ∃ c rest, head = c :: rest ∧ Text.isBlank c = false := by
  rcases h with rfl | ⟨b, module, b', -, -, -, rfl⟩
  · exact ⟨_, _, rfl, by decide⟩
  · exact ⟨_, _, rfl, by decide⟩

/-- What begins with a word keeps its beginning. -/
lemma ImportHead.trim_append {head : Text} (h : ImportHead head) (k : Text) :
    (head ++ k).trim = (head ++ k).trimRight := by
  obtain ⟨c, rest, rfl, hc⟩ := h.exists_eq_cons
  simp [Text.trim, Text.trimLeft, hc]

namespace ImportLine

variable (line : ImportLine) {k : Text}

lemma names_ne_nil : line.names ≠ [] := by
  obtain ⟨c, rest, h, -⟩ := line.begins
  simp [h]

lemma run_blanks (k : Text) :
    run isSpaceOrTab (line.blanks ++ (line.names ++ k)) = some (line.blanks, line.names ++ k) := by
  obtain ⟨c, rest, h, hc, -⟩ := line.begins
  exact run_append line.isRun_blanks (by simp [h, hc])

lemma namesAfter?_names (hk : AtLineEnd k) :
    namesAfter? line.blanks (line.names ++ (line.comment ++ k)) =
      some (line.blanks ++ line.names, k.drop 1) :=
  namesAfter?_of_forall line.isImportPart_of_mem line.names_ne_nil line.isComment hk

lemma namesOrList?_names (hk : AtLineEnd k) :
    namesOrList? line.blanks (line.names ++ (line.comment ++ k)) =
      some (line.blanks ++ line.names, k.drop 1) := by
  obtain ⟨c, rest, h, -, hc⟩ := line.begins
  rw [namesOrList?, namesInParens?_of_head? (by simp [h, hc]), line.namesAfter?_names hk]

/-- **The statement of an import line is read, and its newline with it.** -/
lemma importHere?_text (hk : AtLineEnd k) :
    importHere? (line.text ++ k) = some (line.statement, k.drop 1) := by
  have htext : line.text ++ k =
      line.head ++ (line.blanks ++ (line.names ++ (line.comment ++ k))) := by simp [text]
  have hread : (fromImport? (line.text ++ k)).or (plainImport? (line.text ++ k)) =
      some (line.head ++ (line.blanks ++ line.names), k.drop 1) := by
    rw [htext, fromImport?_eq, plainImport?_eq]
    rcases line.isHead with hplain | hfrom
    · rw [hplain, statement?_eq_some_iff.mpr ⟨_, _, _, _, _, all_plainHead _, line.run_blanks _,
        line.namesAfter?_names hk, rfl⟩]
      rfl
    · rw [statement?_eq_some_iff.mpr ⟨_, _, _, _, _, all_fromHead hfrom _, line.run_blanks _,
        line.namesOrList?_names hk, rfl⟩]
      rfl
  rw [importHere?, hread]
  exact congrArg (fun s => some (s, k.drop 1)) (line.isHead.trim_append _)

lemma newline_notMem : '\n' ∉ line.text := by
  intro hmem
  simp only [text, List.mem_append] at hmem
  rcases hmem with hmem | hmem | hmem | hmem
  · rcases line.isHead.forall_mem _ hmem with h | h <;> cases h
  · cases line.isRun_blanks.2 _ hmem
  · cases line.isImportPart_of_mem _ hmem
  · rcases line.isComment with h | ⟨t, h, ht⟩
    · simp [h] at hmem
    · simp [h, ht] at hmem

/-- An import line opens no list in parentheses. -/
lemma not_opensList (k : Text) : ¬ OpensList (line.text ++ k) := by
  rintro ⟨head, blanks, rest, hhead, hblanks, heq⟩
  have htext : line.text ++ k =
      line.head ++ (line.blanks ++ (line.names ++ (line.comment ++ k))) := by simp [text]
  rw [htext] at heq
  rcases line.isHead with hplain | hfrom
  · obtain ⟨b, module, b', -, -, -, rfl⟩ := hhead
    rw [hplain] at heq
    cases (List.cons.inj heq).1
  · -- both readings agree on where the head and the blanks end
    have hread := all_fromHead hfrom (line.blanks ++ (line.names ++ (line.comment ++ k)))
    rw [heq, all_fromHead hhead] at hread
    obtain ⟨-, hrest⟩ := Prod.mk.inj (Option.some_inj.mp hread)
    have hrun := line.run_blanks (line.comment ++ k)
    rw [← hrest, run_append hblanks (by simp [isSpaceOrTab])] at hrun
    obtain ⟨-, hrest⟩ := Prod.mk.inj (Option.some_inj.mp hrun)
    obtain ⟨c, names, h, -, hc⟩ := line.begins
    rw [h] at hrest
    exact hc (List.cons.inj hrest).1.symm

end ImportLine

lemma SourceLine.newline_notMem (line : SourceLine) : '\n' ∉ line.text := by
  cases line with
  | statement line => exact line.newline_notMem
  | other text h => exact h

/-! ## All lines -/

namespace PlacedLine

lemma text_placeLines (position : Nat) (lines : List SourceLine) :
    (placeLines position lines).flatMap text = Text.join ['\n'] (lines.map SourceLine.text) := by
  induction lines generalizing position with
  | nil => rfl
  | cons line lines ih =>
      rw [placeLines, List.flatMap_cons, ih]
      cases lines with
      | nil => simp [text, Text.join]
      | cons line' lines => simp [text, Text.join]

/-- The parts that the line gives. -/
def parts (t : Text) (l : PlacedLine) : List ImportPart :=
  match l.statement? t with
  | some statement => [.taken statement l.text]
  | none => l.text.map .kept

variable {t : Text} {l : PlacedLine}

lemma inLiteral_iff (t : Text) (position : Nat) :
    InLiteral t position ↔ insideSpan (stringSpans t) position = true :=
  (insideSpan_spansFrom_iff (reread_ofText t)).symm

/-- No line begins within a line. -/
lemma eq_nil_of_text_eq_append {a b : Text} (h : l.text = a ++ b) (hb : b ≠ [])
    (hline : lineStartBehind true a = true) : a = [] := by
  by_cases ha : a = []
  · exact ha
  exfalso
  have hmem := (lineStartBehind_true_iff.mp hline).newline_mem ha
  have hnewline := l.line.newline_notMem
  rw [text] at h
  rcases List.append_eq_append_iff.mp h with ⟨a', rfl, hrest⟩ | ⟨rest, hline, -⟩
  · cases a' with
    | nil => simp [hnewline] at hmem
    | cons c a' =>
        split at hrest
        · cases hrest
        · exact hb (List.append_eq_nil_iff.mp (List.cons.inj hrest).2.symm).2
  · rw [hline] at hnewline
    exact hnewline (List.mem_append_left _ hmem)

/-- The last line is not followed by anything, and any other one ends with a newline. -/
lemma eq_nil_or_lineStartBehind {x : Text} (hlast : l.isLast = true → x = []) :
    x = [] ∨ lineStartBehind true l.text = true := by
  cases hl : l.isLast with
  | true => exact .inl (hlast hl)
  | false => exact .inr (by simp [text, hl, lineStartBehind_concat])

lemma importPartsFrom_behind {x : Text} (hlast : l.isLast = true → x = []) (inLiteral : Nat → Bool)
    (position : Nat) : importPartsFrom inLiteral (lineStartBehind true l.text) position x =
      importPartsFrom inLiteral true position x := by
  rcases eq_nil_or_lineStartBehind hlast with rfl | h
  · simp [importPartsFrom]
  · rw [h]

/-- A line that is not taken out stays with its newline. -/
lemma importPartsFrom_of_kept {x : Text} (hnone : l.statement? t = none) (hstands : l.MayStand t)
    (hlast : l.isLast = true → x = []) :
    importPartsFrom (insideSpan (stringSpans t)) true l.position (l.text ++ x) = l.text.map .kept ++
      importPartsFrom (insideSpan (stringSpans t)) true (l.position + l.text.length) x := by
  rw [importPartsFrom_append_of_stays (eq_nil_or_lineStartBehind hlast),
    importPartsFrom_behind hlast]
  · intro a b hab hb hline himport
    obtain rfl := eq_nil_of_text_eq_append hab hb hline
    obtain rfl : l.text = b := hab
    have hk : AtLineEnd (if l.isLast then [] else ['\n']) := by
      cases l.isLast <;> simp [AtLineEnd]
    show insideSpan (stringSpans t) l.position = true ∧ _
    rw [← inLiteral_iff]
    cases hl : l.line with
    | statement line =>
        simp only [statement?, hl, ite_eq_left_iff, reduceCtorEq, imp_false, not_not] at hnone
        refine ⟨hnone, .inr ?_⟩
        rw [text, hl]
        exact line.not_opensList _
    | other other h =>
        simp only [MayStand, hl] at hstands
        rw [text, hl] at himport
        obtain ⟨hin, hparen⟩ := hstands (looksLikeImport_of_beginsImport himport hk)
        refine ⟨hin, .inr ?_⟩
        rintro ⟨head, blanks, rest, -, -, heq⟩
        have hmem : '(' ∈ l.text := by simp [heq]
        rw [text, hl] at hmem
        revert hmem
        cases l.isLast <;> simp [SourceLine.text, hparen]

/-- An import line that does not begin inside a literal is taken out with its newline. -/
lemma importPartsFrom_of_taken {x statement : Text} (hsome : l.statement? t = some statement)
    (hlast : l.isLast = true → x = []) :
    importPartsFrom (insideSpan (stringSpans t)) true l.position (l.text ++ x) =
      .taken statement l.text ::
        importPartsFrom (insideSpan (stringSpans t)) true (l.position + l.text.length) x := by
  cases hl : l.line with
  | other => simp [statement?, hl] at hsome
  | statement line =>
      obtain ⟨hout, rfl⟩ : ¬ InLiteral t l.position ∧ line.statement = statement := by
        simpa [statement?, hl] using hsome
      rw [inLiteral_iff, Bool.not_eq_true] at hout
      have hne : l.text ≠ [] := by simp [text, hl, SourceLine.text, ImportLine.text, line.names_ne_nil]
      have hread : importHere? (l.text ++ x) = some (line.statement, x) := by
        rw [text, hl, SourceLine.text, List.append_assoc]
        split
        · rename_i h
          rw [hlast h]
          exact line.importHere?_text (k := []) nofun
        · exact line.importHere?_text (k := '\n' :: x) (by simp [AtLineEnd])
      rw [importPartsFrom_of_importHere? hne hread, hout, importPartsFrom_behind hlast]
      rfl

/-- **The parts of a source are those of its lines.** -/
lemma importPartsFrom_placeLines {position : Nat} {lines : List SourceLine}
    (hstands : ∀ l ∈ placeLines position lines, l.MayStand t) :
    importPartsFrom (insideSpan (stringSpans t)) true position ((placeLines position lines).flatMap text) =
      (placeLines position lines).flatMap (parts t) := by
  induction lines generalizing position with
  | nil => simp [placeLines, importPartsFrom]
  | cons line lines ih =>
      simp only [placeLines, List.forall_mem_cons] at hstands
      obtain ⟨hfirst, hrest⟩ := hstands
      let l : PlacedLine := ⟨position, line, lines.isEmpty⟩
      have hlast : l.isLast = true →
          (placeLines (position + line.text.length + 1) lines).flatMap text = [] := by
        intro h
        simp [List.isEmpty_iff.mp h, placeLines]
      have hih : importPartsFrom (insideSpan (stringSpans t)) true (position + l.text.length)
          ((placeLines (position + line.text.length + 1) lines).flatMap text) =
            (placeLines (position + line.text.length + 1) lines).flatMap (parts t) := by
        cases lines with
        | nil => simp [placeLines, importPartsFrom]
        | cons line' lines =>
            have hlength : l.text.length = line.text.length + 1 := by simp [l, text]
            rw [hlength]
            exact ih hrest
      rw [placeLines, List.flatMap_cons, List.flatMap_cons, parts]
      cases hstatement : l.statement? t with
      | some statement =>
          rw [importPartsFrom_of_taken hstatement hlast, hih]
          rfl
      | none => rw [importPartsFrom_of_kept hstatement hfirst hlast, hih]

lemma statements_parts (ls : List PlacedLine) :
    (ls.flatMap (parts t)).filterMap ImportPart.statement? = ls.filterMap (statement? t) := by
  induction ls with
  | nil => rfl
  | cons l ls ih =>
      rw [List.flatMap_cons, List.filterMap_append, ih, List.filterMap_cons, parts]
      cases l.statement? t with
      | some statement => rfl
      | none => simp [List.filterMap_map, Function.comp_def, ImportPart.statement?]

lemma leftOf_parts (ls : List PlacedLine) :
    leftOf (ls.flatMap (parts t)) = (ls.filter fun l => (l.statement? t).isNone).flatMap text := by
  induction ls with
  | nil => rfl
  | cons l ls ih =>
      rw [List.flatMap_cons, leftOf_append, ih, List.filter_cons, parts]
      cases l.statement? t with
      | some statement => rfl
      | none =>
          rw [leftOf_kept]
          rfl

end PlacedLine

/-- **Extraction goes line by line.** The text consists of lines, and a line that is no import line may look
like one only inside a literal and without a parenthesis. Then the statements are those of the import lines
that do not begin inside a literal, in the order first seen and each once, and these lines with their own
newlines are what is taken out of the text. -/
theorem extractImports_lines {t : Text} {lines : List SourceLine}
    (ht : t = Text.join ['\n'] (lines.map SourceLine.text))
    (hstands : ∀ l ∈ placeLines 0 lines, l.MayStand t) :
    extractImports t =
      ⟨((placeLines 0 lines).filterMap (PlacedLine.statement? t)).eraseDups,
        ((placeLines 0 lines).filter fun l => (l.statement? t).isNone).flatMap PlacedLine.text⟩ := by
  have hparts : importParts t = (placeLines 0 lines).flatMap (PlacedLine.parts t) := by
    rw [← PlacedLine.importPartsFrom_placeLines hstands, PlacedLine.text_placeLines, ← ht]
    rfl
  rw [extractImports_eq, hparts, PlacedLine.statements_parts, PlacedLine.leftOf_parts]

/-- Imports at both ends, within a literal and twice, one with a comment, and lines that only look like
imports, are indented, or begin with a longer word. -/
theorem extractImports_lines_varied :
    let a : ImportLine := ⟨"import".toList, [' '], "math".toList, [], .inl rfl,
      ⟨by decide, List.all_eq_true.mp rfl⟩, List.all_eq_true.mp rfl,
      ⟨_, _, rfl, rfl, by decide⟩, .inl rfl⟩
    let b : ImportLine := ⟨"from os.path import".toList, [' '], "join, split ".toList,
      "# it's".toList, .inr ⟨[' '], "os.path".toList, [' '], ⟨by decide, List.all_eq_true.mp rfl⟩,
        ⟨by decide, List.all_eq_true.mp (by decide +kernel)⟩,
        ⟨by decide, List.all_eq_true.mp rfl⟩, rfl⟩,
      ⟨by decide, List.all_eq_true.mp rfl⟩, List.all_eq_true.mp rfl,
      ⟨_, _, rfl, rfl, by decide⟩, .inr ⟨_, rfl, by decide⟩⟩
    let lines : List SourceLine := [.statement a, .other "x = \"\"\"".toList (by decide),
      .statement a, .other "import a; b".toList (by decide), .other "\"\"\"".toList (by decide),
      .statement b, .other "important = 1".toList (by decide),
      .other "  import c".toList (by decide), .statement a]
    let t := Text.join ['\n'] (lines.map SourceLine.text)
    (∀ l ∈ placeLines 0 lines, l.MayStand t) ∧ extractImports t =
      ⟨["import math".toList, "from os.path import join, split".toList],
        "x = \"\"\"\nimport math\nimport a; b\n\"\"\"\nimportant = 1\n  import c\n".toList⟩ := by
  intro a b lines t
  have hstands : ∀ l ∈ placeLines 0 lines, l.MayStand t := by decide +kernel
  exact ⟨hstands, (extractImports_lines rfl hstands).trans (by decide +kernel)⟩

end FormulaCube
