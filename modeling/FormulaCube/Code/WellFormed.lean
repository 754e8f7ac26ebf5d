import FormulaCube.Code.Declaration
import FormulaCube.Code.Statement

/-!
# Well-formed programs

Not every program that can be read can be compiled: a loop can be left only inside one, a value can be
returned only from a function, and so on.

* `Place` — what surrounds an expression or a statement.
* `isSoundExpr`, `isSoundBlock` — whether all rules hold in a place.
* `isWellFormed` — whether they hold in a whole program.
-/

namespace FormulaCube.Code

/-- What surrounds an expression or a statement. -/
structure Place where
  /-- The block is the outermost one. -/
  isModule : Bool
  /-- There is a function around it. -/
  isFunction : Bool
  /-- That function is asynchronous. -/
  isAsync : Bool
  /-- There is a loop around it. -/
  inLoop : Bool
  /-- It belongs to the body of a class. -/
  isClass : Bool
  /-- There is a comprehension around it. -/
  inComprehension : Bool
  /-- It is what a comprehension goes through. -/
  inSource : Bool
  /-- The variables of the comprehensions around it. -/
  turning : List Text
  /-- The variables of the functions around it. -/
  outer : List Text

namespace Place

/-- The place of a whole program. -/
def outermost : Place where
  isModule := true
  isFunction := false
  isAsync := false
  inLoop := false
  isClass := false
  inComprehension := false
  inSource := false
  turning := []
  outer := []

/-- The place of the body of a function with these names, of which some belong to the module. -/
def inFunction (place : Place) (async : Bool) (names globals : List Text) : Place :=
  { Place.outermost with
    isModule := false
    isFunction := true
    isAsync := async
    inSource := place.inSource
    outer := (place.outer.filter fun name => !globals.contains name) ++ names }

/-- The place of the body of a class. -/
def inClass (place : Place) : Place :=
  { Place.outermost with
    isModule := false
    isClass := true
    outer := place.outer ++ ["__class__".toList] }

/-- The place of the turns of a comprehension with these variables. What is handed out one by one may be
asynchronous wherever it stands. -/
def inTurn (place : Place) (kind : Option Collection) (names : List Text) : Place :=
  { place with
    isFunction := place.isFunction || kind = some .generator
    isAsync := place.isAsync || kind = some .generator
    inComprehension := true
    turning := names ++ place.turning }

/-- The place of what a comprehension goes through. -/
def asSource (place : Place) : Place := { place with inSource := true }

/-- Whether a value may get a name on the way: in a comprehension not one of its own variables. -/
def mayName (place : Place) (name : Text) : Bool :=
  !place.inSource && !(place.inComprehension && (place.isClass || place.turning.contains name))

end Place

/-- Whether a name may get a value. -/
def mayBind (name : Text) : Bool := name != "__debug__".toList

/-- Whether no name occurs twice. -/
def areDistinct (names : List Text) : Bool := names.eraseDups.length == names.length

/-- Whether the names of arguments do not repeat. -/
def areDistinctArguments (arguments : List (ArgumentKind × Expr)) : Bool :=
  let names := arguments.filterMap fun a =>
    match a.1 with
    | .named name => some name
    | _ => none
  areDistinct names && names.all mayBind

/-- Whether the names of parameters may be used together. -/
def areSoundParameters (parameters : List (Parameter Expr)) : Bool :=
  areDistinct (parameters.map (·.name)) && parameters.all fun p => mayBind p.name

/-- An item of a display that may stand for all members of a sequence. -/
def withoutStar : Expr → Expr
  | .starred value => value
  | e => e

/-- Whether a step of a comprehension is allowed in a place. -/
def isSoundClause (place : Place) (c : ForClause Expr) : Bool := !c.async || place.isAsync

mutual

/-- Whether a target may get a value. -/
def isSoundTarget : Expr → Bool
  | .name t => mayBind t
  | .attribute _ name => mayBind name
  | .subscript .. => true
  | .tuple items => starCount items ≤ 1 && areSoundTargets items
  | .list items => starCount items ≤ 1 && areSoundTargets items
  | _ => false

/-- Whether the items of a target may get values. -/
def areSoundTargets : List Expr → Bool
  | [] => true
  | .starred item :: items => isSoundTarget item && areSoundTargets items
  | item :: items => isSoundTarget item && areSoundTargets items

/-- How many items of a target take all that is left. -/
def starCount : List Expr → Nat
  | [] => 0
  | .starred _ :: items => starCount items + 1
  | _ :: items => starCount items

end

/-- Whether the rules hold in an expression, down to a depth. -/
def isSoundExpr : (depth : Nat) → Place → Expr → Bool
  | 0, _, _ => true
  | depth + 1, place, e =>
    let inside := isSoundExpr depth place
    let turns (kind : Option Collection) (results : List Expr) (clauses : List (ForClause Expr)) :
        Bool :=
      let turn := place.inTurn kind (clauses.flatMap fun c => targetNames c.target)
      let within := isSoundExpr depth turn
      let first := clauses.take 1
      let later := clauses.drop 1
      clauses.all (fun c => isSoundClause turn c && isSoundTarget c.target && within c.target &&
          c.tests.all within) &&
        (first.all fun c => isSoundExpr depth place.asSource c.source) &&
        (later.all fun c => isSoundExpr depth turn.asSource c.source) && results.all within
    match e with
    | .starred _ => false
    | .list items => items.all fun item => inside (withoutStar item)
    | .tuple items => items.all fun item => inside (withoutStar item)
    | .set items => items.all fun item => inside (withoutStar item)
    | .yield value =>
      place.isFunction && !place.inComprehension && value.toList.all inside
    | .yieldFrom value =>
      place.isFunction && !place.isAsync && !place.inComprehension && inside value
    | .await value => place.isFunction && place.isAsync && inside value
    | .named name value => mayBind name && place.mayName name && inside value
    | .call function arguments =>
      areDistinctArguments arguments && inside function && arguments.all fun a => inside a.2
    | .lambda parameters body =>
      areSoundParameters parameters && (parameterDefaults parameters).all inside &&
        isSoundExpr depth (place.inFunction false (parameters.map (·.name)) []) body
    | .comprehension kind item clauses => turns (some kind) [item] clauses
    | .dictComprehension key value clauses => turns none [key, value] clauses
    | e => e.parts.all inside

/-- Whether the statements of a block that belong to a function, in the order in which they stand,
have handlers of which at most the last takes everything. -/
def areSoundHandlers (handlers : List (Handler Stmt)) : Bool :=
  handlers.dropLast.all fun h => h.type.isSome

/-- Whether names that are declared to belong to enclosing functions do. -/
def areSoundForeign (place : Place) (names : List Text) : Bool :=
  !place.isModule && names.all place.outer.contains

/-- Whether the body of a function declares none of its parameters to belong elsewhere. -/
def keepsParameters (parameters : List (Parameter Expr)) (body : List Stmt) : Bool :=
  parameters.all fun p => !(foreignNames body).contains p.name

/-- The names that belong to a function. -/
def functionNames (parameters : List (Parameter Expr)) (body : List Stmt) : List Text :=
  (parameters.map (·.name) ++ boundNames body).eraseDups

/-- Whether the rules hold for a statement, where they are given for expressions and for blocks. -/
def isSoundStatement (place : Place) (expression : Expr → Bool) (block : Place → List Stmt → Bool)
    (s : Stmt) : Bool :=
  let around := { place with inLoop := true }
  s.targets.all mayBind &&
  match s with
  | .assign targets value => targets.all isSoundTarget && expression value
  | .delete _ => true
  | .leave => place.inLoop
  | .skip => place.inLoop
  | .result value => place.isFunction && value.toList.all expression
  | .nonlocal names => areSoundForeign place names
  | .importNames _ _ names => (names.isSome || place.isModule) && !asksForFeatures s
  | .branch test yes no => expression test && block place yes && block place no
  | .loop test body orelse => expression test && block around body && block place orelse
  | .each async target source body orelse =>
    (!async || place.isAsync) && isSoundTarget target && expression source && block around body &&
      block place orelse
  | .within async items body =>
    (!async || place.isAsync) && (items.all fun item =>
      expression item.1 && item.2.toList.all isSoundTarget) && block place body
  | .attempt body handlers orelse final =>
    areSoundHandlers handlers && block place body &&
      (handlers.all fun h => h.type.toList.all expression && block place h.body) &&
      block place orelse && block place final
  | .function async decorators _ parameters returns body =>
    decorators.all expression && areSoundParameters parameters &&
      (parameterDefaults parameters).all expression &&
      (parameters.filterMap (·.note)).all expression && returns.toList.all expression &&
      keepsParameters parameters body && areSoundDeclarations false body &&
      !(async && hasYield body && hasResult body) &&
      block (place.inFunction async (functionNames parameters body) (globalNames body)) body
  | .classDef decorators _ arguments body =>
    decorators.all expression && areDistinctArguments arguments &&
      (arguments.all fun a => expression a.2) && areSoundDeclarations false body &&
      block place.inClass body
  | .select subject cases =>
    expression subject && cases.all fun c => c.guard.toList.all expression && block place c.body
  | s => s.expressions.all expression

/-- Whether the rules hold in a block, down to a depth. -/
def isSoundBlock : (depth : Nat) → Place → List Stmt → Bool
  | 0, _, _ => true
  | depth + 1, place, block =>
    block.all (isSoundStatement place (isSoundExpr nestingLimit place) (isSoundBlock depth))

/-- Whether the rules hold in a whole program. -/
def isWellFormed (program : List Stmt) : Bool :=
  (leadingFeatures program).all asksForKnownFeatures && areSoundDeclarations true program &&
    isSoundBlock nestingLimit .outermost (afterFeatures program)

/-- The statements of a source, if it is a program that can be compiled. -/
def compilable? (t : Text) : Option (List Stmt) := do
  let program ← program? t
  if isWellFormed program then some program else none

end FormulaCube.Code
