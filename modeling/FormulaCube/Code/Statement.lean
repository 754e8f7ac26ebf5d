import FormulaCube.Code.Expression

/-!
# Reading statements

* `simpleLine` — statements on one line.
* `compound` — statements with blocks.
* `program?` — the statements of a source, if it is a valid program. Brackets and blocks are nested
  less deeply than the source has characters, which bounds the reading.
-/

namespace FormulaCube.Code

open Reader

/-! ## Statements on one line -/

/-- The operators that may change a target. -/
def changeMarks : OperatorTable :=
  [("+=", .add), ("-=", .sub), ("*=", .mul), ("/=", .div), ("//=", .floorDiv), ("%=", .mod),
    ("@=", .matMul), ("&=", .bitAnd), ("|=", .bitOr), ("^=", .bitXor), ("<<=", .shiftLeft),
    (">>=", .shiftRight), ("**=", .pow)]

/-- The value after a chain of targets, all but the last of which have been read. -/
def assignedValue (r : Readers) : Reader (List Expr × Expr) := do
  let chain ← manyAfter "=" (yieldOrStar r)
  match chain.getLast? with
  | some value => return (chain.dropLast, value)
  | none => failure

/-- Whether all of a chain can be assigned to, each perhaps taking all that is left. -/
def areAssignable (targets : List Expr) : Bool := targets.all isTargetItem

/-- An assignment, a note, a change, or an expression. -/
def expressionStatement (r : Readers) : Reader Stmt := do
  let (line, column) ← place
  let e ← starExpressions r
  match ← peek with
  | .mark ":" =>
    unless isSinglePlace e do failure
    advance
    let note ← r.expression
    let value ← if ← takesMark "=" then some <$> yieldOrStar r else pure none
    return .annotated e note value
  | .mark "=" =>
    let (more, value) ← assignedValue r
    unless areAssignable (e :: more) do failure
    return .assign (e :: more) value
  | .mark m =>
    match changeMarks.lookup m with
    | some op =>
      unless isSinglePlace e do failure
      advance
      return .augmented e op (← yieldOrStar r)
    | none => return .expression line column e
  | _ => return .expression line column e

/-- A name with points in it. -/
def dottedName : Reader (List Text) := separated "." name

/-- The name that something imported gets. -/
def alias? : Reader (Option Text) := do
  if ← takesWord "as" then some <$> name else return none

/-- An import of modules. -/
def importModules : Reader Stmt := do
  word "import"
  let modules ← separated "," do
    let path ← dottedName
    return (⟨path, ← alias?⟩ : ImportAlias)
  return .importModules modules

/-- Points before the name of a module; three of them may be one mark. -/
def leadingPoints : Reader Nat := do
  let counts ← many do
    if ← takesMark "..." then return 3
    else
      mark "."
      return 1
  return counts.foldl (· + ·) 0

/-- One name that is taken out of a module. -/
def importedName : Reader ImportAlias := do
  let t ← name
  return ⟨[t], ← alias?⟩

/-- The names that are taken out of a module; `none` for all of them. -/
def importedNames : Reader (Option (List ImportAlias)) := do
  if ← takesMark "*" then return none
  else if ← takesMark "(" then
    let names ← separated "," importedName
    let _ ← takesMark ","
    mark ")"
    return some names
  else return some (← separated "," importedName)

/-- An import of names out of a module. -/
def importNames : Reader Stmt := do
  word "from"
  let level ← leadingPoints
  let path ← if ← atWord "import" then pure [] else dottedName
  if level = 0 && path.isEmpty then failure
  word "import"
  return .importNames level path (← importedNames)

/-- Whether a statement ends here. -/
def atStatementEnd : Reader Bool := do
  match ← peek with
  | .mark ";" => return true
  | .newline => return true
  | _ => return false

/-- Targets that lose their values. -/
def deletion (r : Readers) : Reader Stmt := do
  word "del"
  let first ← r.primary
  let more ← manyAfter "," r.primary
  let _ ← takesMark ","
  unless areDeletable (first :: more) do failure
  return .delete (first :: more)

/-- The value of a function, if one is given. -/
def resultStatement (r : Readers) : Reader Stmt := do
  word "return"
  if ← atStatementEnd then return .result none else return .result (some (← starExpressions r))

/-- An exception. -/
def raiseStatement (r : Readers) : Reader Stmt := do
  word "raise"
  if ← atStatementEnd then return .raise none none
  else
    let e ← r.expression
    let cause ← if ← takesWord "from" then some <$> r.expression else pure none
    return .raise (some e) cause

/-- A condition that has to hold. -/
def assertion (r : Readers) : Reader Stmt := do
  word "assert"
  let test ← r.expression
  let message ← if ← takesMark "," then some <$> r.expression else pure none
  return .assert test message

/-- A statement without a block. -/
def simpleStatement (r : Readers) : Reader Stmt := do
  match ← peek with
  | .keyword "pass" =>
    advance
    return .pass
  | .keyword "break" =>
    advance
    return .leave
  | .keyword "continue" =>
    advance
    return .skip
  | .keyword "return" => resultStatement r
  | .keyword "raise" => raiseStatement r
  | .keyword "import" => importModules
  | .keyword "from" => importNames
  | .keyword "del" => deletion r
  | .keyword "assert" => assertion r
  | .keyword "yield" =>
    let (line, column) ← place
    return .expression line column (← yieldExpression r)
  | .keyword "global" =>
    advance
    return .global (← separated "," name)
  | .keyword "nonlocal" =>
    advance
    return .nonlocal (← separated "," name)
  | _ => expressionStatement r

/-- Statements on one line, with semicolons between them and perhaps after the last. -/
def simpleLine (r : Readers) : Reader (List Stmt) := do
  let statements ← separated ";" (simpleStatement r)
  let _ ← takesMark ";"
  layout .newline
  return statements

/-! ## Patterns -/

/-- A name that a pattern binds: no part of a longer name, no class, and no attribute. -/
def captureName : Reader Text := do
  let t ← name
  match ← peek with
  | .mark "." => failure
  | .mark "(" => failure
  | .mark "=" => failure
  | _ => if t = ['_'] then failure else return t

/-- A number, perhaps negative. -/
def signedNumber : Reader Expr := do
  let negative ← takesMark "-"
  match ← peek with
  | .number n =>
    advance
    return if negative then .unary .minus (.number n) else .number n
  | _ => failure

/-- Whether a number has no imaginary part. -/
def isReal : Expr → Bool
  | .number (.imaginary _) => false
  | .unary _ (.number (.imaginary _)) => false
  | _ => true

/-- A number in a pattern: a real one with an imaginary part, or a single one. -/
def patternNumber : Reader Expr := do
  let n ← signedNumber
  match ← peek with
  | .mark m =>
    if m = "+" || m = "-" then
      unless isReal n do failure
      advance
      match ← peek with
      | .number (.imaginary x) =>
        advance
        return .binary (if m = "+" then .add else .sub) n (.number (.imaginary x))
      | _ => failure
    else return n
  | _ => return n

/-- A literal in a pattern. -/
def patternLiteral (r : Readers) : Reader Expr := do
  match ← peek with
  | .keyword "None" =>
    advance
    return .none
  | .keyword "True" =>
    advance
    return .bool true
  | .keyword "False" =>
    advance
    return .bool false
  | .quotation _ => quotations r
  | _ => patternNumber

/-- A name with attributes after it. -/
def attributePath : Reader Expr := do
  let first ← name
  let more ← manyAfter "." name
  return more.foldl .attribute (.name first)

/-- The rest of a sequence in a pattern, or a pattern. -/
def sequenceItem (r : Readers) : Reader Pattern := do
  if ← takesMark "*" then
    match ← peek with
    | .name ['_'] =>
      advance
      return .star none
    | _ => return .star (some (← captureName))
  else r.pattern

/-- Whether a pattern stands for the rest of a sequence. -/
def isStarPattern : Pattern → Bool
  | .star _ => true
  | _ => false

/-- Patterns up to the closing mark, which is taken. In parentheses one pattern without a comma is
itself. -/
def sequencePattern (r : Readers) (close : String) (grouping : Bool) : Reader Pattern := do
  if ← takesMark close then return .sequence []
  let first ← sequenceItem r
  let more ← manyAfter "," (sequenceItem r)
  let trailing ← takesMark ","
  mark close
  if grouping && more.isEmpty && !trailing then
    if isStarPattern first then failure else return first
  else return .sequence (first :: more)

/-- An entry of a pattern for dictionaries. -/
def mappingEntry (r : Readers) : Reader (Expr × Pattern) := do
  let key ←
    match ← peek with
    | .name _ =>
      let path ← attributePath
      match path with
      | .attribute .. => pure path
      | _ => failure
    | _ => patternLiteral r
  mark ":"
  return (key, ← r.pattern)

/-- A pattern for dictionaries, after the opening brace. -/
def mappingPattern (r : Readers) : Reader Pattern := do
  let entries ← (separated "," (mappingEntry r)) <|> return []
  let comma ← if entries.isEmpty then pure true else takesMark ","
  let rest ← if comma && (← takesMark "**") then some <$> captureName else pure none
  if rest.isSome then
    let _ ← takesMark ","
  else if entries.isEmpty && (← atMark ",") then failure
  mark "\x7d"
  return .mapping entries rest

/-- The patterns for an object, after the opening parenthesis: by place before by name. -/
def objectPatternsFrom (r : Readers) :
    (bound : Nat) → List Pattern → List (Text × Pattern) →
      Reader (List Pattern × List (Text × Pattern))
  | 0, _, _ => failure
  | bound + 1, places, attributes => do
    if ← takesMark ")" then return (places, attributes)
    let (places, attributes) ←
      match ← peek, ← peekSecond with
      | .name t, .mark "=" =>
        advance
        advance
        pure (places, attributes ++ [(t, ← r.pattern)])
      | _, _ => do
        unless attributes.isEmpty do failure
        pure (places ++ [← r.pattern], attributes)
    if ← takesMark ")" then return (places, attributes)
    mark ","
    objectPatternsFrom r bound places attributes

/-- A pattern that begins with a name. -/
def namePattern (r : Readers) : Reader Pattern := do
  let path ← attributePath
  match ← peek, path with
  | .mark "(", path =>
    advance
    let (places, attributes) ← objectPatternsFrom r ((← get).length + 1) [] []
    return .object path places attributes
  | .mark "=", _ => failure
  | _, .name ['_'] => return .wildcard
  | _, .name t => return .capture t
  | _, path => return .value path

/-- A pattern without alternatives. -/
def closedPattern (r : Readers) : Reader Pattern := do
  match ← peek with
  | .name _ => namePattern r
  | .mark "(" =>
    advance
    sequencePattern r ")" true
  | .mark "[" =>
    advance
    sequencePattern r "]" false
  | .mark "\x7b" =>
    advance
    mappingPattern r
  | _ => return .value (← patternLiteral r)

/-- A pattern: alternatives, and perhaps a name for the value. -/
def patternOf (r : Readers) : Reader Pattern := do
  let first ← closedPattern r
  let more ← manyAfter "|" (closedPattern r)
  let p := if more.isEmpty then first else .choice (first :: more)
  if ← takesWord "as" then return .bind p (← captureName) else return p

/-- The pattern of a case: a sequence may be written without brackets. -/
def casePattern (r : Readers) : Reader Pattern := do
  let first ← sequenceItem r
  let more ← manyAfter "," (sequenceItem r)
  let trailing ← takesMark ","
  if more.isEmpty && !trailing then
    if isStarPattern first then failure else return first
  else return .sequence (first :: more)

/-! ## Statements with blocks -/

/-- What is done after a colon. -/
def suite (r : Readers) : Reader (List Stmt) := do
  mark ":"
  r.block

/-- What is done otherwise. -/
def otherwise (r : Readers) : Reader (List Stmt) := do
  if ← takesWord "else" then suite r else return []

/-- A choice between blocks. -/
def branchStatement (r : Readers) : Reader Stmt := do
  word "if"
  let test ← named r
  let yes ← suite r
  let others ← many do
    word "elif"
    let test ← named r
    return (test, ← suite r)
  let no ← otherwise r
  return .branch test yes (others.foldr (fun (test, yes) no => [.branch test yes no]) no)

/-- A loop while a condition holds. -/
def loopStatement (r : Readers) : Reader Stmt := do
  word "while"
  let test ← named r
  let body ← suite r
  return .loop test body (← otherwise r)

/-- A loop through a source. -/
def eachStatement (r : Readers) (async : Bool) : Reader Stmt := do
  word "for"
  let target ← starTargets r
  word "in"
  let source ← starExpressions r
  let body ← suite r
  return .each async target source body (← otherwise r)

/-- Something to be closed after a block, and what it is bound to. -/
def withItem (r : Readers) : Reader (Expr × Option Expr) := do
  let e ← r.expression
  (do
    word "as"
    let target ← starTarget r
    match ← peek with
    | .mark "," => return (e, some target)
    | .mark ")" => return (e, some target)
    | .mark ":" => return (e, some target)
    | _ => failure) <|> return (e, none)

/-- What is to be closed after a block, with or without parentheses around all of it. -/
def withItems (r : Readers) : Reader (List (Expr × Option Expr)) :=
  (do
    mark "("
    let items ← separated "," (withItem r)
    let _ ← takesMark ","
    mark ")"
    if ← atMark ":" then return items else failure) <|> separated "," (withItem r)

/-- A block with something to be closed after it. -/
def withinStatement (r : Readers) (async : Bool) : Reader Stmt := do
  word "with"
  let items ← withItems r
  return .within async items (← suite r)

/-- What is done about one kind of exception. -/
def handler (r : Readers) : Reader (Handler Stmt) := do
  word "except"
  let group ← takesMark "*"
  if !group && (← atMark ":") then return ⟨false, none, none, ← suite r⟩
  else
    let type ← r.expression
    let name ← alias?
    return ⟨group, some type, name, ← suite r⟩

/-- A block whose exceptions are handled. -/
def attemptStatement (r : Readers) : Reader Stmt := do
  word "try"
  let body ← suite r
  let handlers ← many (handler r)
  unless handlers.all (·.group) || handlers.all (!·.group) do failure
  let orelse ← if handlers.isEmpty then pure [] else otherwise r
  let closing ← atWord "finally"
  if handlers.isEmpty && !closing then failure
  let final ← if ← takesWord "finally" then suite r else pure []
  return .attempt body handlers orelse final

/-- A function. -/
def functionStatement (r : Readers) (decorators : List Expr) (async : Bool) : Reader Stmt := do
  word "def"
  let name ← name
  mark "("
  let params ← parameters r true ")"
  mark ")"
  let returns ← if ← takesMark "->" then some <$> r.expression else pure none
  return .function async decorators name params returns (← suite r)

/-- A class. -/
def classStatement (r : Readers) (decorators : List Expr) : Reader Stmt := do
  word "class"
  let name ← name
  let arguments ← if ← takesMark "(" then argumentList r else pure []
  return .classDef decorators name arguments (← suite r)

/-- A function or a class after what changes it. -/
def decorated (r : Readers) : Reader Stmt := do
  let decorators ← many do
    mark "@"
    let e ← named r
    layout .newline
    return e
  if ← atWord "class" then classStatement r decorators
  else
    let async ← takesWord "async"
    functionStatement r decorators async

/-- Something asynchronous. -/
def asyncStatement (r : Readers) : Reader Stmt := do
  word "async"
  match ← peek with
  | .keyword "def" => functionStatement r [] true
  | .keyword "with" => withinStatement r true
  | .keyword "for" => eachStatement r true
  | _ => failure

/-- A name with a meaning of its own at this place only. -/
def softWord (w : String) : Reader Unit := do
  if (← name) = w.toList then return () else failure

/-- One case of a match. -/
def matchCase (r : Readers) : Reader (MatchCase Stmt) := do
  softWord "case"
  let pattern ← casePattern r
  let guard ← if ← takesWord "if" then some <$> named r else pure none
  return ⟨pattern, guard, ← suite r⟩

/-- The value that is matched. -/
def matchSubject (r : Readers) : Reader Expr := do
  match ← commaTuple (displayItem r) with
  | .starred _ => failure
  | e => return e

/-- A value matched against cases. -/
def selectStatement (r : Readers) : Reader Stmt := do
  softWord "match"
  let subject ← matchSubject r
  mark ":"
  layout .newline
  layout .indent
  let first ← matchCase r
  let more ← many (matchCase r)
  layout .dedent
  return .select subject (first :: more)

/-- One statement with a block, or the statements of one line. -/
def statement (r : Readers) : Reader (List Stmt) := do
  match ← peek with
  | .keyword "if" => return [← branchStatement r]
  | .keyword "while" => return [← loopStatement r]
  | .keyword "for" => return [← eachStatement r false]
  | .keyword "with" => return [← withinStatement r false]
  | .keyword "try" => return [← attemptStatement r]
  | .keyword "def" => return [← functionStatement r [] false]
  | .keyword "class" => return [← classStatement r []]
  | .keyword "async" => return [← asyncStatement r]
  | .mark "@" => return [← decorated r]
  | .name ['m', 'a', 't', 'c', 'h'] => (do return [← selectStatement r]) <|> simpleLine r
  | _ => simpleLine r

/-- Statements one after the other. -/
def statements (r : Readers) : Reader (List Stmt) := do
  return (← many (statement r)).flatten

/-- A block: the rest of the line, or lines that stand further to the right. -/
def blockOf (r : Readers) : Reader (List Stmt) := do
  if (← peek) = .newline then
    advance
    layout .indent
    let body ← statements r
    layout .dedent
    if body.isEmpty then failure else return body
  else simpleLine r

/-! ## Programs -/

/-- The readers for what is nested at most `depth` deep. -/
def readers : (depth : Nat) → Readers
  | 0 => ⟨failure, failure, failure, failure, failure, failure, failure⟩
  | depth + 1 =>
    { expression := fun tokens => expressionOf (readers depth) tokens
      disjunction := fun tokens => disjunctionOf (readers depth) tokens
      bitOr := fun tokens => bitOrOf (readers depth) tokens
      factor := fun tokens => factorOf (readers depth) tokens
      primary := fun tokens => primaryOf (readers depth) tokens
      block := fun tokens => blockOf (readers depth) tokens
      pattern := fun tokens => patternOf (readers depth) tokens }

/-- A whole program. -/
def program (r : Readers) : Reader (List Stmt) := do
  let body ← statements r
  layout .finish
  return body

/-- A depth that no nesting in a text exceeds. -/
def depthBound (t : Text) : Nat := 2 * t.length + 16

/-- The statements of a source, if it is a valid program. -/
def program? (t : Text) : Option (List Stmt) := do
  let tokens ← tokens? t
  let (body, _) ← (program (readers (depthBound t))).run tokens
  some body

end FormulaCube.Code
