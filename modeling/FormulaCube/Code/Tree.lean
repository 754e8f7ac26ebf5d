import FormulaCube.Code.Quotation

/-!
# Programs as trees

* `Expr` — expressions.
* `Pattern` — what a value is matched against.
* `Stmt` — statements; only an expression that stands as a statement knows where it begins.
-/

namespace FormulaCube.Code

/-- A sign or complement. -/
inductive UnaryOp where
  | plus | minus | invert | not
  deriving DecidableEq, Repr

/-- An operator with two operands. -/
inductive BinaryOp where
  | add | sub | mul | matMul | div | floorDiv | mod | pow
  | shiftLeft | shiftRight | bitOr | bitXor | bitAnd
  deriving DecidableEq, Repr

/-- A comparison. -/
inductive Comparison where
  | equal | notEqual | less | lessEqual | greater | greaterEqual
  | same | notSame | member | notMember
  deriving DecidableEq, Repr

/-- How arguments reach a parameter. -/
inductive ParameterKind where
  /-- By position only. -/
  | positionOnly
  /-- By position or by name. -/
  | plain
  /-- All further arguments without a name. -/
  | rest
  /-- By name only. -/
  | nameOnly
  /-- All further arguments with a name. -/
  | keywords
  deriving DecidableEq, Repr

/-- A parameter, over the type of expressions. -/
structure Parameter (ε : Type) where
  /-- How arguments reach it. -/
  kind : ParameterKind
  /-- Its name. -/
  name : Text
  /-- What is noted about it. -/
  note : Option ε
  /-- Its value where no argument is given. -/
  default : Option ε

/-- How an argument is given. -/
inductive ArgumentKind where
  /-- By its place. -/
  | positional
  /-- By the name of the parameter. -/
  | named (name : Text)
  /-- All members of a sequence by their places. -/
  | spread
  /-- All entries of a dictionary by their names. -/
  | spreadNamed
  deriving DecidableEq, Repr

/-- One step of a comprehension: for each member of a source that passes all tests. -/
structure ForClause (ε : Type) where
  /-- The source is asynchronous. -/
  async : Bool
  /-- What a member is bound to. -/
  target : ε
  /-- Where the members come from. -/
  source : ε
  /-- What a member has to pass. -/
  tests : List ε

/-- What a comprehension builds, besides dictionaries. -/
inductive Collection where
  | list | set | generator
  deriving DecidableEq, Repr

/-- An expression. -/
inductive Expr where
  /-- No value. -/
  | none
  /-- A truth value. -/
  | bool (b : Bool)
  /-- A number. -/
  | number (n : Numeral)
  /-- Three points. -/
  | ellipsis
  /-- A text. -/
  | str (t : Text)
  /-- A sequence of bytes. -/
  | bytes (t : Text)
  /-- A text in which expressions are filled in. -/
  | formatted (parts : List Expr)
  /-- An expression to be filled in: the text before it, how it is converted, and its format. -/
  | field (value : Expr) (label : Option Text) (conversion : Option Char) (format : Option Expr)
  /-- A name. -/
  | name (t : Text)
  /-- An attribute of an object. -/
  | attribute (object : Expr) (name : Text)
  /-- An entry of an object. -/
  | subscript (object index : Expr)
  /-- A range of indexes. -/
  | slice (lower upper step : Option Expr)
  /-- A call. -/
  | call (function : Expr) (arguments : List (ArgumentKind × Expr))
  /-- A sign or complement. -/
  | unary (op : UnaryOp) (operand : Expr)
  /-- An operator with two operands. -/
  | binary (op : BinaryOp) (left right : Expr)
  /-- The first false operand, or the last. -/
  | all (operands : List Expr)
  /-- The first true operand, or the last. -/
  | any (operands : List Expr)
  /-- Comparisons of neighbours. -/
  | compare (first : Expr) (rest : List (Comparison × Expr))
  /-- One of two expressions. -/
  | conditional (test yes no : Expr)
  /-- A function without a name. -/
  | lambda (parameters : List (Parameter Expr)) (body : Expr)
  /-- A list. -/
  | list (items : List Expr)
  /-- A tuple. -/
  | tuple (items : List Expr)
  /-- A set. -/
  | set (items : List Expr)
  /-- A dictionary; where a key is missing, the entries of another dictionary are put in. -/
  | dict (entries : List (Option Expr × Expr))
  /-- A collection built by going through others. -/
  | comprehension (kind : Collection) (item : Expr) (clauses : List (ForClause Expr))
  /-- A dictionary built by going through collections. -/
  | dictComprehension (key value : Expr) (clauses : List (ForClause Expr))
  /-- All members of a sequence. -/
  | starred (value : Expr)
  /-- The result of something asynchronous. -/
  | await (value : Expr)
  /-- A value handed to whoever goes through the results. -/
  | yield (value : Option Expr)
  /-- All values of another sequence handed out. -/
  | yieldFrom (value : Expr)
  /-- A value that gets a name on the way. -/
  | named (name : Text) (value : Expr)
  deriving Inhabited

/-- What a value is matched against. -/
inductive Pattern where
  /-- An equal value. -/
  | value (e : Expr)
  /-- Anything, under a name. -/
  | capture (name : Text)
  /-- Anything. -/
  | wildcard
  /-- A sequence. -/
  | sequence (items : List Pattern)
  /-- The rest of a sequence, under a name or not. -/
  | star (name : Option Text)
  /-- A dictionary with at least these entries, and perhaps a name for the rest. -/
  | mapping (entries : List (Expr × Pattern)) (rest : Option Text)
  /-- An object of a class. -/
  | object (type : Expr) (positional : List Pattern) (attributes : List (Text × Pattern))
  /-- One of several patterns. -/
  | choice (options : List Pattern)
  /-- A pattern whose value gets a name. -/
  | bind (pattern : Pattern) (name : Text)
  deriving Inhabited

/-- What a module is imported as: its path, and the name it gets. -/
structure ImportAlias where
  /-- The parts of the name. -/
  path : List Text
  /-- The name that it gets here. -/
  binding : Option Text
  deriving DecidableEq, Repr

/-- What is done about one kind of exception, over the type of statements. -/
structure Handler (σ : Type) where
  /-- It takes members out of groups of exceptions. -/
  group : Bool
  /-- The kinds of exceptions. -/
  type : Option Expr
  /-- The name that the exception gets. -/
  name : Option Text
  /-- What is done. -/
  body : List σ

/-- One case of a match, over the type of statements. -/
structure MatchCase (σ : Type) where
  /-- What the value has to look like. -/
  pattern : Pattern
  /-- A further test. -/
  guard : Option Expr
  /-- What is done. -/
  body : List σ

/-- A statement. -/
inductive Stmt where
  /-- An expression, and the line and the number of bytes in it where it begins. -/
  | expression (line column : Nat) (value : Expr)
  /-- A value is assigned to targets, from left to right. -/
  | assign (targets : List Expr) (value : Expr)
  /-- A target is changed by an operator. -/
  | augmented (target : Expr) (op : BinaryOp) (value : Expr)
  /-- Something is noted about a target, which may get a value. -/
  | annotated (target note : Expr) (value : Option Expr)
  /-- Nothing. -/
  | pass
  /-- The end of a loop. -/
  | leave
  /-- The end of one turn of a loop. -/
  | skip
  /-- The end of a function. -/
  | result (value : Option Expr)
  /-- An exception, and what it comes from. -/
  | raise (exception cause : Option Expr)
  /-- Targets lose their values. -/
  | delete (targets : List Expr)
  /-- A condition that has to hold, and a message. -/
  | assert (test : Expr) (message : Option Expr)
  /-- Names that belong to the module. -/
  | global (names : List Text)
  /-- Names that belong to an enclosing function. -/
  | nonlocal (names : List Text)
  /-- Modules. -/
  | importModules (modules : List ImportAlias)
  /-- Names out of a module that is given relative to `level` enclosing packages; all names where
  none are given. -/
  | importNames (level : Nat) (path : List Text) (names : Option (List ImportAlias))
  /-- A choice. -/
  | branch (test : Expr) (yes no : List Stmt)
  /-- A loop while a condition holds. -/
  | loop (test : Expr) (body orelse : List Stmt)
  /-- A loop through a source. -/
  | each (async : Bool) (target source : Expr) (body orelse : List Stmt)
  /-- A block with something to be closed after it. -/
  | within (async : Bool) (items : List (Expr × Option Expr)) (body : List Stmt)
  /-- A block whose exceptions are handled. -/
  | attempt (body : List Stmt) (handlers : List (Handler Stmt)) (orelse final : List Stmt)
  /-- A function. -/
  | function (async : Bool) (decorators : List Expr) (name : Text)
      (parameters : List (Parameter Expr)) (returns : Option Expr) (body : List Stmt)
  /-- A class. -/
  | classDef (decorators : List Expr) (name : Text) (arguments : List (ArgumentKind × Expr))
      (body : List Stmt)
  /-- A value is matched against cases. -/
  | select (subject : Expr) (cases : List (MatchCase Stmt))
  deriving Inhabited

end FormulaCube.Code
