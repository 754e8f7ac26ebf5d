import FormulaCube.Code.Reader

/-!
# Reading expressions

One reader for each rank of operators, from the loosest to the tightest. What lies between brackets is
read by the readers handed in, so that brackets are the only way back to the loosest rank.

* `Readers` — the readers that are handed in.
* `expressionOf`, `disjunctionOf`, `bitOrOf`, `factorOf` — the readers of the four ranks that are
  asked for from elsewhere.
* `starExpressions`, `named`, `starTargets` — combinations used in statements.
-/

namespace FormulaCube.Code

open Reader

/-- The readers for what lies inside. -/
structure Readers where
  /-- An expression. -/
  expression : Reader Expr
  /-- An expression without a choice and without a function. -/
  disjunction : Reader Expr
  /-- An operand of a comparison. -/
  bitOr : Reader Expr
  /-- An operand with its signs. -/
  factor : Reader Expr
  /-- A single operand with what follows it: attributes, calls and entries. -/
  primary : Reader Expr
  /-- A block of statements. -/
  block : Reader (List Stmt)
  /-- A pattern. -/
  pattern : Reader Pattern

/-! ## Combinations -/

/-- Whether an expression begins here that gets a name and stands in no brackets of its own. -/
def atNaming : Reader Bool := do
  match ← peek, ← peekSecond with
  | .name _, .mark ":=" => return true
  | _, _ => return false

/-- An expression that may get a name on the way. -/
def named (r : Readers) : Reader Expr := do
  match ← peek, ← peekSecond with
  | .name t, .mark ":=" =>
    advance
    advance
    return .named t (← r.expression)
  | _, _ => r.expression

/-- An item of a display: all members of a sequence, or an expression that may get a name. -/
def displayItem (r : Readers) : Reader Expr := do
  if ← takesMark "*" then return .starred (← r.bitOr) else named r

/-- An item of a value with commas. -/
def starExpression (r : Readers) : Reader Expr := do
  if ← takesMark "*" then return .starred (← r.bitOr) else r.expression

/-- Items with commas between them are a tuple; one item without a comma is itself. -/
def commaTuple (item : Reader Expr) : Reader Expr := do
  let first ← item
  let more ← manyAfter "," item
  let trailing ← takesMark ","
  if more.isEmpty && !trailing then return first else return .tuple (first :: more)

/-- A value that may be written with commas. -/
def starExpressions (r : Readers) : Reader Expr := commaTuple (starExpression r)

/-- A value handed out. -/
def yieldExpression (r : Readers) : Reader Expr := do
  word "yield"
  if ← takesWord "from" then return .yieldFrom (← r.expression)
  else
    (do return .yield (some (← starExpressions r))) <|> return .yield none

/-- A value handed out, or a value that may be written with commas. -/
def yieldOrStar (r : Readers) : Reader Expr := do
  if ← atWord "yield" then yieldExpression r else starExpressions r

/-! ## Targets -/

mutual

/-- Whether an expression can be assigned to. -/
def isTarget : Expr → Bool
  | .name _ => true
  | .attribute .. => true
  | .subscript .. => true
  | .tuple items => areTargets items
  | .list items => areTargets items
  | _ => false

/-- Whether all items of a display can be assigned to; an item may take all that is left. -/
def areTargets : List Expr → Bool
  | [] => true
  | .starred item :: items => isTarget item && areTargets items
  | item :: items => isTarget item && areTargets items

end

/-- Whether an item of a value with commas can be assigned to. -/
def isTargetItem : Expr → Bool
  | .starred item => isTarget item
  | item => isTarget item

/-- Whether an expression is a single place: a name, an attribute or an entry. -/
def isSinglePlace : Expr → Bool
  | .name _ => true
  | .attribute .. => true
  | .subscript .. => true
  | _ => false

mutual

/-- Whether an expression can be deleted. -/
def isDeletable : Expr → Bool
  | .name _ => true
  | .attribute .. => true
  | .subscript .. => true
  | .tuple items => areDeletable items
  | .list items => areDeletable items
  | _ => false

/-- Whether all expressions can be deleted. -/
def areDeletable : List Expr → Bool
  | [] => true
  | item :: items => isDeletable item && areDeletable items

end

/-! ## Parameters -/

/-- Where the reading of parameters stands. -/
structure ParameterState where
  /-- The parameters read so far. -/
  read : List (Parameter Expr)
  /-- A slash has been read. -/
  slash : Bool
  /-- A star has been read. -/
  star : Bool
  /-- A parameter has to follow a star that stands alone. -/
  pending : Bool

/-- The note about a parameter. -/
def note (r : Readers) (annotated : Bool) : Reader (Option Expr) := do
  if annotated then
    if ← takesMark ":" then return some (← r.expression)
  return none

/-- The note about the parameter for further arguments. -/
def starAnnotation (r : Readers) (annotated : Bool) : Reader (Option Expr) := do
  if annotated then
    if ← takesMark ":" then return some (← starExpression r)
  return none

/-- One parameter, star or slash, and whether others may follow. -/
def parameter (r : Readers) (annotated : Bool) (s : ParameterState) :
    Reader (ParameterState × Bool) := do
  if ← takesMark "/" then
    if s.slash || s.star || s.read.isEmpty then failure
    return ({ s with slash := true, read := s.read.map ({ · with kind := .positionOnly }) }, true)
  else if ← takesMark "**" then
    if s.pending then failure
    let name ← name
    let note ← note r annotated
    return ({ s with read := s.read ++ [⟨.keywords, name, note, none⟩] }, false)
  else if ← takesMark "*" then
    if s.star then failure
    match ← peek with
    | .name t =>
      advance
      let note ← starAnnotation r annotated
      return ({ s with star := true, read := s.read ++ [⟨.rest, t, note, none⟩] }, true)
    | .mark "," => return ({ s with star := true, pending := true }, true)
    | _ => failure
  else
    let name ← name
    let note ← note r annotated
    let default ← if ← takesMark "=" then some <$> r.expression else pure none
    let kind := if s.star then ParameterKind.nameOnly else .plain
    if !s.star && default.isNone && s.read.any (·.default.isSome) then failure
    return ({ s with pending := false, read := s.read ++ [⟨kind, name, note, default⟩] }, true)

/-- Parameters up to the mark that ends them, which stays; `bound` is at least their number. -/
def parametersFrom (r : Readers) (annotated : Bool) (close : String) :
    (bound : Nat) → ParameterState → Reader (List (Parameter Expr))
  | 0, _ => failure
  | bound + 1, s => do
    if ← atMark close then
      if s.pending then failure
      return s.read
    let (s, more) ← parameter r annotated s
    if ← takesMark "," then
      if more then parametersFrom r annotated close bound s
      else if ← atMark close then return s.read
      else failure
    else if ← atMark close then
      if s.pending then failure
      return s.read
    else failure

/-- Parameters up to the mark that ends them, which stays. -/
def parameters (r : Readers) (annotated : Bool) (close : String) :
    Reader (List (Parameter Expr)) := do
  parametersFrom r annotated close ((← get).length + 1) ⟨[], false, false, false⟩

/-! ## Steps of comprehensions -/

/-- One thing that can be assigned to, perhaps taking all that is left. -/
def starTarget (r : Readers) : Reader Expr := do
  let star ← takesMark "*"
  let target ← r.primary
  unless isTarget target do failure
  if star then return .starred target else return target

/-- Things that can be assigned to, with commas. -/
def starTargets (r : Readers) : Reader Expr := commaTuple (starTarget r)

/-- One step of a comprehension. -/
def forClause (r : Readers) : Reader (ForClause Expr) := do
  let async ← takesWord "async"
  word "for"
  let target ← starTargets r
  word "in"
  let source ← r.disjunction
  let tests ← many do
    word "if"
    r.disjunction
  return ⟨async, target, source, tests⟩

/-- Whether a comprehension begins here. -/
def atFor : Reader Bool := do
  return (← atWord "for") || (← atWord "async")

/-- The steps of a comprehension. -/
def forClauses (r : Readers) : Reader (List (ForClause Expr)) := do
  let first ← forClause r
  return first :: (← many (forClause r))

/-- Whether an item of a display stands for all members of a sequence. -/
def isStarred : Expr → Bool
  | .starred _ => true
  | _ => false

/-! ## Arguments and indexes -/

/-- One argument. -/
def argument (r : Readers) : Reader (ArgumentKind × Expr) := do
  if ← takesMark "*" then return (.spread, ← r.expression)
  else if ← takesMark "**" then return (.spreadNamed, ← r.expression)
  else
    match ← peek, ← peekSecond with
    | .name t, .mark "=" =>
      advance
      advance
      return (.named t, ← r.expression)
    | _, _ => return (.positional, ← named r)

/-- Arguments up to the closing parenthesis, which is taken. `rank` is zero before the first argument
with a name, one after it, and two after the entries of a dictionary. -/
def argumentsFrom (r : Readers) :
    (bound rank : Nat) → List (ArgumentKind × Expr) → Reader (List (ArgumentKind × Expr))
  | 0, _, _ => failure
  | bound + 1, rank, read => do
    if ← takesMark ")" then return read
    let (kind, value) ← argument r
    let (needed, next) : Nat × Nat :=
      match kind with
      | .positional => (0, rank)
      | .spread => (1, rank)
      | .named _ => (2, max rank 1)
      | .spreadNamed => (2, 2)
    if needed < rank then failure
    let read := read ++ [(kind, value)]
    if ← takesMark ")" then return read
    mark ","
    argumentsFrom r bound next read

/-- Arguments after the opening parenthesis, up to the closing one, which is taken. -/
def argumentList (r : Readers) : Reader (List (ArgumentKind × Expr)) := do
  argumentsFrom r ((← get).length + 1) 0 []

/-- Whether an argument comes next that is no expression by itself, or none at all. -/
def atOtherArgument : Reader Bool := do
  match ← peek, ← peekSecond with
  | .mark ")", _ => return true
  | .mark "*", _ => return true
  | .mark "**", _ => return true
  | .name _, .mark "=" => return true
  | _, _ => return false

/-- The arguments of a call. One comprehension may stand alone without parentheses of its own. -/
def callArguments (r : Readers) : Reader (List (ArgumentKind × Expr)) := do
  if ← atOtherArgument then argumentList r
  else
    let first ← named r
    if ← atFor then
      let clauses ← forClauses r
      mark ")"
      return [(.positional, .comprehension .generator first clauses)]
    else if ← takesMark ")" then return [(.positional, first)]
    else
      mark ","
      argumentsFrom r ((← get).length + 1) 0 [(.positional, first)]

/-- One end of a range, which may be missing. -/
def rangeEnd (r : Readers) : Reader (Option Expr) := do
  if (← atMark ":") || (← atMark ",") || (← atMark "]") then return none
  else return some (← r.expression)

/-- An index or a range of indexes. -/
def indexItem (r : Readers) : Reader Expr := do
  if ← takesMark "*" then return .starred (← r.expression)
  let naming ← atNaming
  let lower ← if ← atMark ":" then pure none else some <$> named r
  let ranged ← atMark ":"
  match ranged, lower with
  | false, some index => return index
  | _, lower =>
    if naming then failure
    mark ":"
    let upper ← rangeEnd r
    let step ← if ← takesMark ":" then rangeEnd r else pure none
    return .slice lower upper step

/-- What stands between brackets after an operand. -/
def index (r : Readers) : Reader Expr := do
  match ← commaTuple (indexItem r) with
  | .starred item => return .tuple [.starred item]
  | item => return item

/-! ## Literals -/

mutual

/-- The part of a literal with expressions filled in. -/
def formatted (r : Readers) : FormatPiece → Option Expr
  | .literal t => some (.str t)
  | .field expression label conversion none => do
    let tokens ← fieldTokens? expression
    let (value, _) ← (starExpressions r).run tokens
    some (.field value label conversion none)
  | .field expression label conversion (some format) => do
    let tokens ← fieldTokens? expression
    let (value, _) ← (starExpressions r).run tokens
    let parts ← formattedAll r format
    some (.field value label conversion (some (.formatted parts)))

/-- The parts of a literal with expressions filled in. -/
def formattedAll (r : Readers) : List FormatPiece → Option (List Expr)
  | [] => some []
  | piece :: pieces => do
    let part ← formatted r piece
    let parts ← formattedAll r pieces
    some (part :: parts)

end

/-- The parts that one string literal stands for. -/
def quotationParts (r : Readers) (q : Quotation) : Option (List Expr) :=
  if q.formatted then do
    let pieces ← formatPieces? q.raw q.body
    formattedAll r pieces
  else (unescaped? q.raw q.bytes q.body).map fun t => [.str t]

/-- A string literal. -/
def quotation : Reader Quotation := do
  match ← peek with
  | .quotation q =>
    advance
    return q
  | _ => failure

/-- The characters of the parts of a literal without expressions. -/
def partText : Expr → Text
  | .str t => t
  | _ => []

/-- Neighbouring string literals, which count as one. -/
def quotations (r : Readers) : Reader Expr := do
  let first ← quotation
  let qs := first :: (← many quotation)
  let parts ← StateT.lift (qs.mapM (quotationParts r))
  if qs.all (·.bytes) then return .bytes (parts.flatten.flatMap partText)
  else if qs.any (·.bytes) then failure
  else if qs.any (·.formatted) then return .formatted parts.flatten
  else return .str (parts.flatten.flatMap partText)

/-! ## Displays -/

/-- What stands in parentheses, after the opening one: a tuple, a comprehension, or an expression. -/
def parenthesized (r : Readers) : Reader Expr := do
  if ← takesMark ")" then return .tuple []
  if ← atWord "yield" then
    let value ← yieldExpression r
    mark ")"
    return value
  let first ← displayItem r
  if !isStarred first && (← atFor) then
    let clauses ← forClauses r
    mark ")"
    return .comprehension .generator first clauses
  let more ← manyAfter "," (displayItem r)
  let trailing ← takesMark ","
  mark ")"
  if more.isEmpty && !trailing then
    if isStarred first then failure else return first
  else return .tuple (first :: more)

/-- What stands in brackets, after the opening one. -/
def bracketed (r : Readers) : Reader Expr := do
  if ← takesMark "]" then return .list []
  let first ← displayItem r
  if !isStarred first && (← atFor) then
    let clauses ← forClauses r
    mark "]"
    return .comprehension .list first clauses
  let more ← manyAfter "," (displayItem r)
  let _ ← takesMark ","
  mark "]"
  return .list (first :: more)

/-- An entry of a dictionary. -/
def entry (r : Readers) : Reader (Option Expr × Expr) := do
  if ← takesMark "**" then return (none, ← r.bitOr)
  let key ← r.expression
  mark ":"
  return (some key, ← r.expression)

/-- The entries of a dictionary after the first. -/
def entriesAfter (r : Readers) (first : Option Expr × Expr) : Reader Expr := do
  let more ← manyAfter "," (entry r)
  let _ ← takesMark ","
  mark "\x7d"
  return .dict (first :: more)

/-- What stands in braces, after the opening one: a dictionary or a set, or a comprehension that
builds one. -/
def braced (r : Readers) : Reader Expr := do
  if ← takesMark "\x7d" then return .dict []
  if ← atMark "**" then
    let first ← entry r
    entriesAfter r first
  else
    let naming ← atNaming
    let first ← displayItem r
    if ← takesMark ":" then
      if naming then failure
      match first with
      | .starred _ => failure
      | key =>
        let value ← r.expression
        if ← atFor then
          let clauses ← forClauses r
          mark "\x7d"
          return .dictComprehension key value clauses
        else entriesAfter r (some key, value)
    else if !isStarred first && (← atFor) then
      let clauses ← forClauses r
      mark "\x7d"
      return .comprehension .set first clauses
    else
      let more ← manyAfter "," (displayItem r)
      let _ ← takesMark ","
      mark "\x7d"
      return .set (first :: more)

/-! ## Operands -/

/-- A single operand. -/
def atom (r : Readers) : Reader Expr := do
  match ← peek with
  | .name t =>
    advance
    return .name t
  | .number n =>
    advance
    return .number n
  | .quotation _ => quotations r
  | .keyword "None" =>
    advance
    return .none
  | .keyword "True" =>
    advance
    return .bool true
  | .keyword "False" =>
    advance
    return .bool false
  | .mark "..." =>
    advance
    return .ellipsis
  | .mark "(" =>
    advance
    parenthesized r
  | .mark "[" =>
    advance
    bracketed r
  | .mark "\x7b" =>
    advance
    braced r
  | _ => failure

/-- What follows an operand: attributes, calls and entries, at most `bound` of them. -/
def trailers (r : Readers) : (bound : Nat) → Expr → Reader Expr
  | 0, e => return e
  | bound + 1, e => do
    if ← takesMark "." then trailers r bound (.attribute e (← name))
    else if ← takesMark "(" then
      trailers r bound (.call e (← callArguments r))
    else if ← takesMark "[" then
      let i ← index r
      mark "]"
      trailers r bound (.subscript e i)
    else return e

/-- A single operand with what follows it. -/
def primaryOf (r : Readers) : Reader Expr := do
  let e ← atom r
  trailers r (← get).length e

/-! ## Operators -/

/-- The operator of a mark. -/
abbrev OperatorTable := List (String × BinaryOp)

/-- An operator of the table and the operand after it. -/
def operation (table : OperatorTable) (operand : Reader Expr) : Reader (BinaryOp × Expr) := do
  match ← peek with
  | .mark m =>
    match table.lookup m with
    | some op =>
      advance
      return (op, ← operand)
    | none => failure
  | _ => failure

/-- Operands with operators of the table between them, grouped from the left. -/
def leftGrouped (table : OperatorTable) (operand : Reader Expr) : Reader Expr := do
  let first ← operand
  let more ← many (operation table operand)
  return more.foldl (fun left (op, right) => .binary op left right) first

/-- An operand whose result may be waited for. -/
def awaited (r : Readers) : Reader Expr := do
  if ← takesWord "await" then return .await (← primaryOf r) else primaryOf r

/-- A power; the exponent may have a sign. -/
def power (r : Readers) : Reader Expr := do
  let base ← awaited r
  if ← takesMark "**" then return .binary .pow base (← r.factor) else return base

/-- A sign or complement. -/
def sign : Reader UnaryOp := do
  match ← peek with
  | .mark "+" =>
    advance
    return .plus
  | .mark "-" =>
    advance
    return .minus
  | .mark "~" =>
    advance
    return .invert
  | _ => failure

/-- An operand with its signs. -/
def factorOf (r : Readers) : Reader Expr := do
  let signs ← many sign
  let e ← power r
  return signs.foldr .unary e

/-- Products and quotients. -/
def term (r : Readers) : Reader Expr :=
  leftGrouped [("*", .mul), ("/", .div), ("//", .floorDiv), ("%", .mod), ("@", .matMul)]
    (factorOf r)

/-- Sums and differences. -/
def sum (r : Readers) : Reader Expr := leftGrouped [("+", .add), ("-", .sub)] (term r)

/-- Shifts. -/
def shift (r : Readers) : Reader Expr :=
  leftGrouped [("<<", .shiftLeft), (">>", .shiftRight)] (sum r)

/-- Bits in common. -/
def bitAnd (r : Readers) : Reader Expr := leftGrouped [("&", .bitAnd)] (shift r)

/-- Bits in which operands differ. -/
def bitXor (r : Readers) : Reader Expr := leftGrouped [("^", .bitXor)] (bitAnd r)

/-- Bits of either operand: an operand of a comparison. -/
def bitOrOf (r : Readers) : Reader Expr := leftGrouped [("|", .bitOr)] (bitXor r)

/-- A comparison. -/
def comparison : Reader Comparison := do
  match ← peek with
  | .mark "==" =>
    advance
    return .equal
  | .mark "!=" =>
    advance
    return .notEqual
  | .mark "<" =>
    advance
    return .less
  | .mark "<=" =>
    advance
    return .lessEqual
  | .mark ">" =>
    advance
    return .greater
  | .mark ">=" =>
    advance
    return .greaterEqual
  | .keyword "in" =>
    advance
    return .member
  | .keyword "not" =>
    advance
    word "in"
    return .notMember
  | .keyword "is" =>
    advance
    if ← takesWord "not" then return .notSame else return .same
  | _ => failure

/-- Comparisons of neighbours. -/
def comparisons (r : Readers) : Reader Expr := do
  let first ← bitOrOf r
  let more ← many do
    let op ← comparison
    return (op, ← bitOrOf r)
  if more.isEmpty then return first else return .compare first more

/-- A comparison that may be denied. -/
def inversion (r : Readers) : Reader Expr := do
  let denials ← many (word "not")
  let e ← comparisons r
  return denials.foldr (fun _ e => .unary .not e) e

/-- Conditions that all have to hold. -/
def conjunction (r : Readers) : Reader Expr := do
  let first ← inversion r
  let more ← many do
    word "and"
    inversion r
  if more.isEmpty then return first else return .all (first :: more)

/-- Conditions one of which has to hold. -/
def disjunctionOf (r : Readers) : Reader Expr := do
  let first ← conjunction r
  let more ← many do
    word "or"
    conjunction r
  if more.isEmpty then return first else return .any (first :: more)

/-- A function without a name. -/
def lambdaExpression (r : Readers) : Reader Expr := do
  word "lambda"
  let params ← parameters r false ":"
  mark ":"
  return .lambda params (← r.expression)

/-- An expression: a function without a name, or conditions with a choice between two of them. -/
def expressionOf (r : Readers) : Reader Expr := do
  if ← atWord "lambda" then lambdaExpression r
  else
    let e ← disjunctionOf r
    (do
      word "if"
      let test ← disjunctionOf r
      word "else"
      return .conditional test e (← r.expression)) <|> return e

end FormulaCube.Code
