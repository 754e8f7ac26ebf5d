import FormulaCube.Code.Tree

/-!
# Parts of programs

What expressions and statements are made of, one level at a time, as far as it belongs to the same
function: the body of an inner function is no part.

* `Expr.parts`, `Stmt.expressions`, `Stmt.blocks` — the parts.
* `Expr.anywhere` — all expressions inside one.
* `boundNames` — the names to which a block gives values.
* `hasResult`, `hasYield` — whether a block comes to a value, and whether it hands out values.
-/

namespace FormulaCube.Code

/-- The expressions in a step of a comprehension. -/
def ForClause.parts (c : ForClause Expr) : List Expr := c.target :: c.source :: c.tests

/-- The values that parameters have of themselves. -/
def parameterDefaults (parameters : List (Parameter Expr)) : List Expr :=
  parameters.filterMap (·.default)

/-- The expressions of which an expression is made. -/
def Expr.parts : Expr → List Expr
  | .formatted parts => parts
  | .field value _ _ format => value :: format.toList
  | .attribute object _ => [object]
  | .subscript object index => [object, index]
  | .slice lower upper step => lower.toList ++ upper.toList ++ step.toList
  | .call function arguments => function :: arguments.map (·.2)
  | .unary _ operand => [operand]
  | .binary _ left right => [left, right]
  | .all operands => operands
  | .any operands => operands
  | .compare first rest => first :: rest.map (·.2)
  | .conditional test yes no => [test, yes, no]
  | .lambda parameters _ => parameterDefaults parameters
  | .list items => items
  | .tuple items => items
  | .set items => items
  | .dict entries => entries.flatMap fun entry => entry.1.toList ++ [entry.2]
  | .comprehension _ item clauses => item :: clauses.flatMap ForClause.parts
  | .dictComprehension key value clauses => key :: value :: clauses.flatMap ForClause.parts
  | .starred value => [value]
  | .await value => [value]
  | .yield value => value.toList
  | .yieldFrom value => [value]
  | .named _ value => [value]
  | _ => []

/-- The expressions inside an expression, down to a depth, with itself. -/
def Expr.anywhere : (depth : Nat) → Expr → List Expr
  | 0, e => [e]
  | depth + 1, e => e :: e.parts.flatMap (Expr.anywhere depth)

/-- The expressions that a statement evaluates, without those of the blocks in it. -/
def Stmt.expressions : Stmt → List Expr
  | .expression _ _ value => [value]
  | .assign targets value => value :: targets
  | .augmented target _ value => [target, value]
  | .annotated target note value => target :: note :: value.toList
  | .result value => value.toList
  | .raise exception cause => exception.toList ++ cause.toList
  | .delete targets => targets
  | .assert test message => test :: message.toList
  | .branch test _ _ => [test]
  | .loop test _ _ => [test]
  | .each _ target source _ _ => [source, target]
  | .within _ items _ => items.flatMap fun item => item.1 :: item.2.toList
  | .attempt _ handlers _ _ => handlers.filterMap (·.type)
  | .function _ decorators _ parameters returns _ =>
    decorators ++ parameterDefaults parameters ++ parameters.filterMap (·.note) ++
      returns.toList
  | .classDef decorators _ arguments _ => decorators ++ arguments.map (·.2)
  | .select subject cases => subject :: cases.filterMap (·.guard)
  | _ => []

/-- The blocks in a statement that belong to the same function. -/
def Stmt.blocks : Stmt → List (List Stmt)
  | .branch _ yes no => [yes, no]
  | .loop _ body orelse => [body, orelse]
  | .each _ _ _ body orelse => [body, orelse]
  | .within _ _ body => [body]
  | .attempt body handlers orelse final => body :: handlers.map (·.body) ++ [orelse, final]
  | .select _ cases => cases.map (·.body)
  | _ => []

/-- The statements of a block and of the blocks in it, down to a depth. -/
def statementsWithin : (depth : Nat) → List Stmt → List Stmt
  | 0, block => block
  | depth + 1, block =>
    block.flatMap fun s => s :: s.blocks.flatMap (statementsWithin depth)

/-! ## Names -/

mutual

/-- The names in a target. -/
def targetNames : Expr → List Text
  | .name t => [t]
  | .tuple items => targetsNames items
  | .list items => targetsNames items
  | .starred item => targetNames item
  | _ => []

/-- The names in several targets. -/
def targetsNames : List Expr → List Text
  | [] => []
  | item :: items => targetNames item ++ targetsNames items

end

mutual

/-- The names that a pattern gives to values. -/
def patternNames : Pattern → List Text
  | .capture name => [name]
  | .sequence items => patternsNames items
  | .star name => name.toList
  | .mapping entries rest => entryPatternNames entries ++ rest.toList
  | .object _ positional attributes => patternsNames positional ++ namedPatternNames attributes
  | .choice options => patternsNames options
  | .bind pattern name => patternNames pattern ++ [name]
  | _ => []

/-- The names that several patterns give to values. -/
def patternsNames : List Pattern → List Text
  | [] => []
  | p :: ps => patternNames p ++ patternsNames ps

/-- The names that the patterns of a dictionary give to values. -/
def entryPatternNames : List (Expr × Pattern) → List Text
  | [] => []
  | (_, p) :: ps => patternNames p ++ entryPatternNames ps

/-- The names that the patterns of attributes give to values. -/
def namedPatternNames : List (Text × Pattern) → List Text
  | [] => []
  | (_, p) :: ps => patternNames p ++ namedPatternNames ps

end

/-- The name that an imported module gets: its own, up to the first point, if no other is given. -/
def ImportAlias.name (a : ImportAlias) : Text := a.binding.getD (a.path.headD [])

/-- The names to which a statement itself gives values. -/
def Stmt.targets : Stmt → List Text
  | .assign targets _ => targetsNames targets
  | .augmented target _ _ => targetNames target
  | .annotated target _ _ => targetNames target
  | .delete targets => targetsNames targets
  | .importModules modules => modules.map ImportAlias.name
  | .importNames _ _ names => (names.getD []).map ImportAlias.name
  | .each _ target _ _ _ => targetNames target
  | .within _ items _ => items.flatMap fun item => targetsNames item.2.toList
  | .attempt _ handlers _ _ => handlers.filterMap (·.name)
  | .function _ _ name _ _ _ => [name]
  | .classDef _ name _ _ => [name]
  | .select _ cases => cases.flatMap fun c => patternNames c.pattern
  | _ => []

/-- How deeply programs are looked into. -/
def nestingLimit : Nat := 2000

/-- The names that an expression gives to values on the way. -/
def namedWithin (e : Expr) : List Text :=
  (Expr.anywhere nestingLimit e).filterMap fun
    | .named name _ => some name
    | _ => none

/-- The names that a block declares to belong elsewhere. -/
def foreignNames (block : List Stmt) : List Text :=
  (statementsWithin nestingLimit block).flatMap fun
    | .global names => names
    | .nonlocal names => names
    | _ => []

/-- The names that a block declares to belong to the module. -/
def globalNames (block : List Stmt) : List Text :=
  (statementsWithin nestingLimit block).flatMap fun
    | .global names => names
    | _ => []

/-- The names to which a block gives values, apart from those that belong elsewhere. -/
def boundNames (block : List Stmt) : List Text :=
  let all := (statementsWithin nestingLimit block).flatMap fun s =>
    s.targets ++ s.expressions.flatMap namedWithin
  (all.filter fun name => !(foreignNames block).contains name).eraseDups

/-- Whether a block comes to a value. -/
def hasResult (block : List Stmt) : Bool :=
  (statementsWithin nestingLimit block).any fun
    | .result (some _) => true
    | _ => false

/-- Whether a block hands out values. -/
def hasYield (block : List Stmt) : Bool :=
  (statementsWithin nestingLimit block).any fun s =>
    s.expressions.any fun e => (Expr.anywhere nestingLimit e).any fun
      | .yield _ => true
      | .yieldFrom _ => true
      | _ => false

end FormulaCube.Code
