import FormulaCube.Shortcut.Piece
import FormulaCube.Text.Word

/-!
# Import statements of a source

Import statements at the beginning of a line are collected and taken out of the source, except
where they are part of a string literal.

* `importHere?` — the import statement at the beginning of a line, with what ends it.
* `extractImports` — the statements, each once, and the source without them.
-/

namespace FormulaCube

/-- A space or a tab. -/
def isSpaceOrTab (c : Char) : Bool := c = ' ' || c = '\t'

/-- A character that may stand in the list of imported names. -/
def isImportPart (c : Char) : Bool := !(c = ';' || c = '\n' || c = '#')

/-- A run of at least one space or tab at the beginning of the text, and what follows it. -/
def spaces? (t : Text) : Option (Text × Text) :=
  match t.takeWhile isSpaceOrTab with
  | [] => none
  | c :: run => some (c :: run, t.dropWhile isSpaceOrTab)

/-- What follows the end of a statement: blanks, a comment, and then a semicolon with the blanks
after it, a newline, or the end of the text. -/
def afterStatement? (t : Text) : Option Text :=
  let t := t.dropWhile isSpaceOrTab
  let t :=
    match t with
    | '#' :: rest => rest.dropWhile (· != '\n')
    | t => t
  match t with
  | [] => some []
  | ';' :: rest => some (rest.dropWhile isSpaceOrTab)
  | '\n' :: rest => some rest
  | _ => none

/-- The names after `import` and the blanks following it, as far as they reach, and what follows the
statement. If nothing but blanks stands there, the last of several blanks counts as the names. -/
def namesAfter? (blanks t : Text) : Option (Text × Text) :=
  let names := t.takeWhile isImportPart
  let rest := t.dropWhile isImportPart
  if names.isEmpty && blanks.length < 2 then none
  else (afterStatement? rest).map fun after => (blanks ++ names, after)

/-- A list of names in parentheses, up to the first closing one, and what follows the statement. -/
def namesInParens? (t : Text) : Option (Text × Text) :=
  match t with
  | '(' :: rest =>
    match rest.dropWhile (· != ')') with
    | ')' :: more =>
      (afterStatement? more).map fun after =>
        ('(' :: (rest.takeWhile (· != ')') ++ [')']), after)
    | _ => none
  | _ => none

/-- The statement `from module import names` at the beginning of a text, and what follows it. -/
def fromImport? (t : Text) : Option (Text × Text) := do
  let rest ← Text.after? "from".toList t
  let (blanks1, rest) ← spaces? rest
  let module := rest.takeWhile fun c => Text.isWord c || c = '.'
  if module.isEmpty then none
  let (blanks2, rest) ← spaces? (rest.dropWhile fun c => Text.isWord c || c = '.')
  let rest ← Text.after? "import".toList rest
  let (blanks3, rest) ← spaces? rest
  let lead := "from".toList ++ blanks1 ++ module ++ blanks2 ++ "import".toList
  match namesInParens? rest with
  | some (names, after) => some (lead ++ blanks3 ++ names, after)
  | none => (namesAfter? blanks3 rest).map fun (names, after) => (lead ++ names, after)

/-- The statement `import names` at the beginning of a text, and what follows it. -/
def plainImport? (t : Text) : Option (Text × Text) := do
  let rest ← Text.after? "import".toList t
  let (blanks, rest) ← spaces? rest
  (namesAfter? blanks rest).map fun (names, after) => ("import".toList ++ names, after)

/-- The import statement at the beginning of a line, without blanks at its ends, and what follows
it. -/
def importHere? (t : Text) : Option (Text × Text) :=
  ((fromImport? t).or (plainImport? t)).map fun (statement, after) => (statement.trim, after)

/-- The import statements of a source and the source without them. -/
structure ImportExtraction where
  /-- The statements in the order first seen, each once. -/
  imports : List Text
  /-- The rest of the source. -/
  source : Text
  deriving DecidableEq, Repr

/-- The statements and the rest, from position `at` on, where `skip` characters belong to a statement
already read. `lineStart` says whether a line begins here, `keeps` whether the characters passed
over stay in the source. -/
def importsFrom (inLiteral : Nat → Bool) :
    (skip : Nat) → (keeps lineStart : Bool) → (position : Nat) → Text → List Text × Text
  | _, _, _, _, [] => ([], [])
  | skip + 1, keeps, _, position, c :: rest =>
    let (found, kept) := importsFrom inLiteral skip keeps (c = '\n') (position + 1) rest
    (found, if keeps then c :: kept else kept)
  | 0, _, lineStart, position, c :: rest =>
    match if lineStart then importHere? (c :: rest) else none with
    | some (statement, after) =>
      let keeps := inLiteral position
      let (found, kept) :=
        importsFrom inLiteral (rest.length - after.length) keeps (c = '\n') (position + 1) rest
      if keeps then (found, c :: kept) else (statement :: found, kept)
    | none =>
      let (found, kept) := importsFrom inLiteral 0 true (c = '\n') (position + 1) rest
      (found, c :: kept)

/-- Takes the import statements out of a source. -/
def extractImports (t : Text) : ImportExtraction :=
  let (found, kept) := importsFrom (insideSpan (stringSpans t)) 0 true true 0 t
  ⟨found.eraseDups, kept⟩

end FormulaCube
