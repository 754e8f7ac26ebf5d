import FormulaCube.Proofs.Shortcut.Scanning
import FormulaCube.Source.Imports

/-!
# Import statements at the beginning of a line

Whether an import statement begins a line is seen from that line alone, while the statement itself may go
on to another line behind an opening parenthesis.

* `LineReader` — reading a beginning of a line; `LineReader.InLine` — nothing is read beyond its end.
* `fromImport?_eq`, `plainImport?_eq` — both statements are words and runs of characters, then names.
* `isSome_importHere?_line` — the line decides.
* `exists_append_of_importHere?` — a statement is followed by the rest of the text.
-/

namespace FormulaCube

/-- Reads a beginning of a line, and says what follows. -/
abbrev LineReader := Text → Option (Text × Text)

namespace LineReader

/-- Reads a word. -/
def word (w : Text) : LineReader := fun t => (Text.after? w t).map fun rest => (w, rest)

/-- Reads the longest run of such characters, if there is one. -/
def run (p : Char → Bool) : LineReader := fun t =>
  if (t.takeWhile p).isEmpty then none else some (t.takeWhile p, t.dropWhile p)

/-- Reads one thing after the other. -/
def all : List LineReader → LineReader
  | [] => fun t => some ([], t)
  | f :: fs => fun t =>
    (f t).bind fun (read, rest) => (all fs rest).map fun (others, rest) => (read ++ others, rest)

/-- Nothing is read beyond the end of the line. -/
structure InLine (f : LineReader) : Prop where
  /-- What is read and what follows are the text. -/
  eq_append : ∀ {t read rest : Text}, f t = some (read, rest) → t = read ++ rest
  /-- The end of the line is left. -/
  newline_mem : ∀ {t read rest : Text}, '\n' ∈ t → f t = some (read, rest) → '\n' ∈ rest
  /-- What stands behind the line does not matter. -/
  append : ∀ {t : Text}, '\n' ∈ t → ∀ x, f (t ++ x) = (f t).map fun (read, rest) => (read, rest ++ x)

/-! ## Words -/

lemma eq_append_of_after? {w t rest : Text} (h : Text.after? w t = some rest) : t = w ++ rest := by
  induction w generalizing t with
  | nil => exact Option.some_inj.mp h
  | cons c w ih =>
      cases t with
      | nil => cases h
      | cons d t =>
          rw [Text.after?] at h
          split at h
          · rename_i heq
            rw [List.cons_append, ← ih h, heq]
          · cases h

lemma after?_append {w t : Text} (hw : '\n' ∉ w) (ht : '\n' ∈ t) (x : Text) :
    Text.after? w (t ++ x) = (Text.after? w t).map (· ++ x) := by
  induction w generalizing t with
  | nil => rfl
  | cons c w ih =>
      cases t with
      | nil => cases ht
      | cons d t =>
          rw [List.cons_append, Text.after?, Text.after?]
          split
          · rename_i heq
            refine ih (fun hmem => hw (List.mem_cons_of_mem _ hmem)) ?_
            refine (List.mem_cons.mp ht).resolve_left fun h => hw ?_
            rw [h, heq]
            exact List.mem_cons_self
          · rfl

lemma inLine_word {w : Text} (hw : '\n' ∉ w) : (word w).InLine where
  eq_append h := by
    obtain ⟨rest, hrest, heq⟩ := Option.map_eq_some_iff.mp h
    obtain ⟨rfl, rfl⟩ := Prod.mk.inj heq
    exact eq_append_of_after? hrest
  newline_mem ht h := by
    obtain ⟨rest, hrest, heq⟩ := Option.map_eq_some_iff.mp h
    obtain ⟨rfl, rfl⟩ := Prod.mk.inj heq
    rw [eq_append_of_after? hrest] at ht
    exact (List.mem_append.mp ht).resolve_left hw
  append ht x := by
    rw [word, word, after?_append hw ht, Option.map_map, Option.map_map]
    rfl

/-! ## Runs -/

section

variable {p : Char → Bool} {t : Text}

lemma takeWhile_append_of_mem (hp : p '\n' = false) (ht : '\n' ∈ t) (x : Text) :
    (t ++ x).takeWhile p = t.takeWhile p := by
  rw [List.takeWhile_append, if_neg]
  intro hlength
  have hall := List.all_takeWhile (p := p) (l := t)
  rw [(List.takeWhile_prefix p).eq_of_length hlength] at hall
  rw [List.all_eq_true.mp hall _ ht] at hp
  cases hp

/-- The newline is not passed over. -/
lemma newline_mem_dropWhile (hp : p '\n' = false) (ht : '\n' ∈ t) : '\n' ∈ t.dropWhile p := by
  rw [← List.takeWhile_append_dropWhile (p := p) (l := t)] at ht
  refine (List.mem_append.mp ht).resolve_left fun hmem => ?_
  rw [List.all_eq_true.mp List.all_takeWhile _ hmem] at hp
  cases hp

lemma dropWhile_append_of_mem (hp : p '\n' = false) (ht : '\n' ∈ t) (x : Text) :
    (t ++ x).dropWhile p = t.dropWhile p ++ x := by
  rw [List.dropWhile_append, if_neg]
  rw [List.isEmpty_iff]
  exact List.ne_nil_of_mem (newline_mem_dropWhile hp ht)

lemma inLine_run (hp : p '\n' = false) : (run p).InLine where
  eq_append h := by
    rw [run] at h
    split at h
    · cases h
    · obtain ⟨rfl, rfl⟩ := Prod.mk.inj (Option.some_inj.mp h)
      exact List.takeWhile_append_dropWhile.symm
  newline_mem ht h := by
    rw [run] at h
    split at h
    · cases h
    · obtain ⟨rfl, rfl⟩ := Prod.mk.inj (Option.some_inj.mp h)
      exact newline_mem_dropWhile hp ht
  append ht x := by
    rw [run, run, takeWhile_append_of_mem hp ht, dropWhile_append_of_mem hp ht]
    split <;> rfl

end

/-! ## One after the other -/

lemma exists_of_all_cons {t : Text} {f : LineReader} {fs : List LineReader} {read rest : Text}
    (h : all (f :: fs) t = some (read, rest)) :
    ∃ a b middle, f t = some (a, middle) ∧ all fs middle = some (b, rest) ∧ read = a ++ b := by
  obtain ⟨⟨a, middle⟩, ha, h⟩ := Option.bind_eq_some_iff.mp h
  obtain ⟨⟨b, rest⟩, hb, h⟩ := Option.map_eq_some_iff.mp h
  obtain ⟨rfl, rfl⟩ := Prod.mk.inj h
  exact ⟨a, b, middle, ha, hb, rfl⟩

/-- **Readers within a line may be put one after the other.** -/
lemma inLine_all {fs : List LineReader} (h : ∀ f ∈ fs, f.InLine) : (all fs).InLine := by
  induction fs with
  | nil =>
      refine ⟨fun h => ?_, fun ht h => ?_, fun _ _ => rfl⟩
      · obtain ⟨rfl, rfl⟩ := Prod.mk.inj (Option.some_inj.mp h)
        rfl
      · obtain ⟨rfl, rfl⟩ := Prod.mk.inj (Option.some_inj.mp h)
        exact ht
  | cons f fs ih =>
      have hf := h f List.mem_cons_self
      have hfs := ih fun g hg => h g (List.mem_cons_of_mem _ hg)
      refine ⟨fun h => ?_, fun ht h => ?_, fun {t} ht x => ?_⟩
      · obtain ⟨a, b, middle, ha, hb, rfl⟩ := exists_of_all_cons h
        rw [hf.eq_append ha, hfs.eq_append hb, List.append_assoc]
      · obtain ⟨a, b, middle, ha, hb, rfl⟩ := exists_of_all_cons h
        exact hfs.newline_mem (hf.newline_mem ht ha) hb
      · simp only [all, hf.append ht]
        cases ha : f t with
        | none => rfl
        | some r =>
            obtain ⟨a, middle⟩ := r
            rw [Option.map_some, Option.bind_some, Option.bind_some, hfs.append (hf.newline_mem ht ha),
              Option.map_map, Option.map_map]
            rfl

end LineReader

/-! ## Statements -/

/-- A character of the name of a module. -/
def isModulePart (c : Char) : Bool := Text.isWord c || c = '.'

/-- The names that a list in parentheses gives, or else those up to the end of the line. -/
def namesOrList? (blanks t : Text) : Option (Text × Text) :=
  match namesInParens? t with
  | some (names, after) => some (blanks ++ names, after)
  | none => namesAfter? blanks t

/-- A statement of words and runs of characters, blanks, and names. -/
def statement? (head : List LineReader) (names? : Text → LineReader) : LineReader := fun t =>
  (LineReader.all head t).bind fun (lead, rest) =>
  (LineReader.run isSpaceOrTab rest).bind fun (blanks, rest) =>
  (names? blanks rest).map fun (names, after) => (lead ++ names, after)

lemma statement?_eq_some_iff {head : List LineReader} {names? : Text → LineReader}
    {t statement after : Text} : statement? head names? t = some (statement, after) ↔
    ∃ lead rest blanks rest' names, LineReader.all head t = some (lead, rest) ∧
      LineReader.run isSpaceOrTab rest = some (blanks, rest') ∧ names? blanks rest' = some (names, after) ∧
      statement = lead ++ names := by
  constructor
  · intro h
    obtain ⟨⟨lead, rest⟩, hlead, h⟩ := Option.bind_eq_some_iff.mp h
    obtain ⟨⟨blanks, rest'⟩, hblanks, h⟩ := Option.bind_eq_some_iff.mp h
    obtain ⟨⟨names, after'⟩, hnames, h⟩ := Option.map_eq_some_iff.mp h
    obtain ⟨rfl, rfl⟩ := Prod.mk.inj h
    exact ⟨lead, rest, blanks, rest', names, hlead, hblanks, hnames, rfl⟩
  · rintro ⟨lead, rest, blanks, rest', names, hlead, hblanks, hnames, rfl⟩
    simp [statement?, hlead, hblanks, hnames]

/-- What stands before the names of `from module import names`. -/
def fromHead : List LineReader :=
  [.word "from".toList, .run isSpaceOrTab, .run isModulePart, .run isSpaceOrTab, .word "import".toList]

/-- What stands before the names of `import names`. -/
def plainHead : List LineReader := [.word "import".toList]

lemma spaces?_eq : spaces? = LineReader.run isSpaceOrTab := by
  funext t
  rw [spaces?, LineReader.run]
  split <;> simp_all

section

variable {α : Type} (g : Text × Text → Option α) (t : Text)

lemma LineReader.word_bind (w : Text) :
    (LineReader.word w t).bind g = (Text.after? w t).bind fun rest => g (w, rest) :=
  Option.bind_map

lemma LineReader.run_bind (p : Char → Bool) : (LineReader.run p t).bind g =
    if (t.takeWhile p).isEmpty then none else g (t.takeWhile p, t.dropWhile p) := by
  rw [LineReader.run]
  split <;> rfl

lemma LineReader.all_nil_bind : (LineReader.all [] t).bind g = g ([], t) := rfl

lemma LineReader.all_cons_bind (f : LineReader) (fs : List LineReader) :
    (LineReader.all (f :: fs) t).bind g =
      (f t).bind fun r => (LineReader.all fs r.2).bind fun r' => g (r.1 ++ r'.1, r'.2) := by
  rw [LineReader.all, Option.bind_assoc]
  exact congrArg _ (funext fun r => Option.bind_map)

end

lemma plainImport?_eq : plainImport? = statement? plainHead namesAfter? := by
  funext t
  rw [statement?, plainHead, LineReader.all_cons_bind, LineReader.word_bind]
  rw [plainImport?, spaces?_eq]
  rfl

lemma map_namesOrList? (lead blanks t : Text) :
    (namesOrList? blanks t).map (fun (names, after) => (lead ++ names, after)) =
      match namesInParens? t with
      | some (names, after) => some (lead ++ blanks ++ names, after)
      | none => (namesAfter? blanks t).map fun (names, after) => (lead ++ names, after) := by
  rw [namesOrList?]
  cases namesInParens? t with
  | none => rfl
  | some r => exact congrArg (fun lead => some (lead, r.2)) (List.append_assoc _ _ _).symm

lemma fromImport?_eq : fromImport? = statement? fromHead namesOrList? := by
  funext t
  simp only [statement?, fromHead, LineReader.all_cons_bind, LineReader.word_bind,
    LineReader.all_nil_bind, List.append_nil, ← List.append_assoc, map_namesOrList?]
  simp only [fromImport?, spaces?_eq, Option.bind_eq_bind]
  refine congrArg _ (funext fun rest => congrArg _ (funext fun blanks => ?_))
  rw [LineReader.run_bind (p := isModulePart)]
  show (if (blanks.2.takeWhile isModulePart).isEmpty = true then _ else _) = _
  split <;> rfl

/-! ## The line decides -/

/-- The text without the comment at its beginning. -/
def behindComment : Text → Text
  | '#' :: rest => rest.dropWhile (· != '\n')
  | t => t

/-- What follows a semicolon, or the end of a line or of the text. -/
def behindEnd? : Text → Option Text
  | [] => some []
  | ';' :: rest => some (rest.dropWhile isSpaceOrTab)
  | '\n' :: rest => some rest
  | _ => none

lemma afterStatement?_eq (t : Text) :
    afterStatement? t = behindEnd? (behindComment (t.dropWhile isSpaceOrTab)) := rfl

/-- Behind the names their line ends, also if it ends with a comment. -/
lemma isSome_afterStatement? (t : Text) : (afterStatement? (t.dropWhile isImportPart)).isSome := by
  have hhead := List.head?_dropWhile_not isImportPart t
  rw [afterStatement?_eq]
  cases hrest : t.dropWhile isImportPart with
  | nil => rfl
  | cons c rest =>
      rw [hrest] at hhead
      have hc : isImportPart c = false := hhead
      rw [isImportPart, Bool.not_eq_false', Bool.or_eq_true, Bool.or_eq_true, decide_eq_true_eq,
        decide_eq_true_eq, decide_eq_true_eq] at hc
      rcases hc with (rfl | rfl) | rfl
      · rfl
      · rfl
      · show (behindEnd? (rest.dropWhile Piece.inComment)).isSome = true
        rcases dropWhile_inComment rest with hnil | ⟨u, hu⟩
        · rw [hnil]
          rfl
        · rw [hu]
          rfl

lemma isSome_namesAfter? (blanks t : Text) : (namesAfter? blanks t).isSome =
    !((t.takeWhile isImportPart).isEmpty && decide (blanks.length < 2)) := by
  rw [namesAfter?]
  split
  · rename_i h
    rw [h]
    rfl
  · rename_i h
    rw [Bool.eq_false_iff.mpr h, Option.isSome_map, isSome_afterStatement?]
    rfl

/-- A list in parentheses may also be read as names, as far as they reach. -/
lemma isSome_namesOrList? (blanks t : Text) :
    (namesOrList? blanks t).isSome = (namesAfter? blanks t).isSome := by
  rw [namesOrList?]
  cases hlist : namesInParens? t with
  | none => rfl
  | some r =>
      obtain ⟨rest, rfl⟩ : ∃ rest, t = '(' :: rest := by
        unfold namesInParens? at hlist
        split at hlist
        · exact ⟨_, rfl⟩
        · cases hlist
      rw [isSome_namesAfter?]
      rfl

lemma isSome_namesAfter?_append {t : Text} (ht : '\n' ∈ t) (blanks x : Text) :
    (namesAfter? blanks (t ++ x)).isSome = (namesAfter? blanks t).isSome := by
  rw [isSome_namesAfter?, isSome_namesAfter?, LineReader.takeWhile_append_of_mem rfl ht]

lemma isSome_statement?_append {head : List LineReader} {names? : Text → LineReader}
    (hhead : ∀ f ∈ head, f.InLine)
    (hnames : ∀ blanks t x, '\n' ∈ t → (names? blanks (t ++ x)).isSome = (names? blanks t).isSome)
    {t : Text} (ht : '\n' ∈ t) (x : Text) :
    (statement? head names? (t ++ x)).isSome = (statement? head names? t).isSome := by
  have hall := LineReader.inLine_all hhead
  have hrun := LineReader.inLine_run (p := isSpaceOrTab) rfl
  rw [statement?, statement?, hall.append ht]
  cases hlead : LineReader.all head t with
  | none => rfl
  | some r =>
      obtain ⟨lead, rest⟩ := r
      have hrest := hall.newline_mem ht hlead
      simp only [Option.map_some, Option.bind_some, hrun.append hrest]
      cases hblanks : LineReader.run isSpaceOrTab rest with
      | none => rfl
      | some r =>
          simp only [Option.map_some, Option.bind_some, Option.isSome_map,
            hnames _ _ _ (hrun.newline_mem hrest hblanks)]

lemma inLine_plainHead : ∀ f ∈ plainHead, f.InLine :=
  List.forall_mem_singleton.mpr (LineReader.inLine_word (by decide))

lemma inLine_fromHead : ∀ f ∈ fromHead, f.InLine := by
  have hblanks := LineReader.inLine_run (p := isSpaceOrTab) rfl
  have hmodule := LineReader.inLine_run (p := isModulePart) rfl
  exact List.forall_mem_cons.mpr ⟨LineReader.inLine_word (by decide), List.forall_mem_cons.mpr ⟨hblanks,
    List.forall_mem_cons.mpr ⟨hmodule, List.forall_mem_cons.mpr ⟨hblanks, inLine_plainHead⟩⟩⟩⟩

/-- **Whether an import statement begins a line is seen from that line.** -/
lemma isSome_importHere?_append {t : Text} (ht : '\n' ∈ t) (x : Text) :
    (importHere? (t ++ x)).isSome = (importHere? t).isSome := by
  have hfrom : (fromImport? (t ++ x)).isSome = (fromImport? t).isSome := by
    rw [fromImport?_eq]
    refine isSome_statement?_append inLine_fromHead (fun blanks t x ht => ?_) ht x
    rw [isSome_namesOrList?, isSome_namesOrList?, isSome_namesAfter?_append ht]
  have hplain : (plainImport? (t ++ x)).isSome = (plainImport? t).isSome := by
    rw [plainImport?_eq]
    exact isSome_statement?_append inLine_plainHead
      (fun blanks t x ht => isSome_namesAfter?_append ht blanks x) ht x
  rw [importHere?, importHere?, Option.isSome_map, Option.isSome_map, Option.isSome_or,
    Option.isSome_or, hfrom, hplain]

/-! ## What follows a statement -/

lemma isSuffix_behindComment (t : Text) : behindComment t <:+ t := by
  unfold behindComment
  split
  · exact (List.dropWhile_suffix _).trans (List.suffix_cons '#' _)
  · exact List.suffix_rfl

lemma isSuffix_of_behindEnd? {t after : Text} (h : behindEnd? t = some after) : after <:+ t := by
  unfold behindEnd? at h
  split at h
  · obtain rfl := Option.some_inj.mp h
    exact List.nil_suffix
  · obtain rfl := Option.some_inj.mp h
    exact (List.dropWhile_suffix _).trans (List.suffix_cons ';' _)
  · obtain rfl := Option.some_inj.mp h
    exact List.suffix_cons '\n' _
  · cases h

lemma isSuffix_of_afterStatement? {t after : Text} (h : afterStatement? t = some after) :
    after <:+ t :=
  (isSuffix_of_behindEnd? h).trans ((isSuffix_behindComment _).trans (List.dropWhile_suffix _))

lemma isSuffix_of_namesAfter? {blanks t names after : Text}
    (h : namesAfter? blanks t = some (names, after)) : after <:+ t := by
  rw [namesAfter?] at h
  split at h
  · cases h
  · obtain ⟨rest, hrest, heq⟩ := Option.map_eq_some_iff.mp h
    obtain ⟨rfl, rfl⟩ := Prod.mk.inj heq
    exact (isSuffix_of_afterStatement? hrest).trans (List.dropWhile_suffix _)

lemma isSuffix_of_namesInParens? {t names after : Text}
    (h : namesInParens? t = some (names, after)) : after <:+ t := by
  unfold namesInParens? at h
  split at h
  · rename_i rest
    split at h
    · rename_i more heq
      obtain ⟨after', hafter, hpair⟩ := Option.map_eq_some_iff.mp h
      obtain ⟨rfl, rfl⟩ := Prod.mk.inj hpair
      refine (isSuffix_of_afterStatement? hafter).trans ((List.suffix_cons ')' more).trans ?_)
      exact heq ▸ (List.dropWhile_suffix _).trans (List.suffix_cons '(' rest)
    · cases h
  · cases h

lemma isSuffix_of_namesOrList? {blanks t names after : Text}
    (h : namesOrList? blanks t = some (names, after)) : after <:+ t := by
  rw [namesOrList?] at h
  split at h
  · rename_i hlist
    obtain ⟨rfl, rfl⟩ := Prod.mk.inj (Option.some_inj.mp h)
    exact isSuffix_of_namesInParens? hlist
  · exact isSuffix_of_namesAfter? h

/-- A statement begins with its head. -/
lemma exists_append_of_statement? {head : List LineReader} {names? : Text → LineReader}
    (hhead : ∀ f ∈ head, f.InLine)
    (hnames : ∀ {blanks t names after}, names? blanks t = some (names, after) → after <:+ t)
    {t statement after : Text} (h : statement? head names? t = some (statement, after)) :
    ∃ extent, extent ≠ [] ∧ t = extent ++ after := by
  obtain ⟨lead, rest, blanks, rest', names, hlead, hblanks, hafter, rfl⟩ := statement?_eq_some_iff.mp h
  obtain ⟨extent, rfl⟩ := hnames hafter
  refine ⟨lead ++ (blanks ++ extent), ?_, ?_⟩
  · rw [LineReader.run] at hblanks
    split at hblanks
    · cases hblanks
    · rename_i hempty
      obtain ⟨rfl, -⟩ := Prod.mk.inj (Option.some_inj.mp hblanks)
      rw [List.isEmpty_iff] at hempty
      exact List.append_ne_nil_of_right_ne_nil _ (List.append_ne_nil_of_left_ne_nil hempty _)
  · rw [(LineReader.inLine_all hhead).eq_append hlead,
      (LineReader.inLine_run (p := isSpaceOrTab) rfl).eq_append hblanks]
    simp only [List.append_assoc]

/-- **What follows a statement is the rest of the text.** -/
lemma exists_append_of_importHere? {t statement after : Text}
    (h : importHere? t = some (statement, after)) : ∃ extent, extent ≠ [] ∧ t = extent ++ after := by
  obtain ⟨⟨statement', after'⟩, hread, heq⟩ := Option.map_eq_some_iff.mp h
  obtain ⟨rfl, rfl⟩ := Prod.mk.inj heq
  rw [fromImport?_eq, plainImport?_eq] at hread
  rcases Option.or_eq_some_iff.mp hread with h | ⟨-, h⟩
  · exact exists_append_of_statement? inLine_fromHead isSuffix_of_namesOrList? h
  · exact exists_append_of_statement? inLine_plainHead isSuffix_of_namesAfter? h

end FormulaCube
