import FormulaCube.Code.Parts

/-!
# Declarations of names

A block may declare that names belong to the module or to a function around it. It has to do so before it
uses them. Features of the language are asked for at the beginning of a program.

* `usedNames` — the names that an expression uses, apart from those inside functions and comprehensions.
* `declaresInTime` — whether no name is used before it is declared to belong elsewhere.
* `areSoundDeclarations` — whether all rules for declarations hold in a block.
* `leadingFeatures`, `afterFeatures` — what a program asks for, and what comes after that.
-/

namespace FormulaCube.Code

/-! ## Names that belong elsewhere -/

/-- The names that an expression uses in its own scope, down to a depth: of a comprehension only the first
source belongs there. -/
def usedNames : (depth : Nat) → Expr → List Text
  | 0, _ => []
  | depth + 1, e =>
    match e with
    | .name t => [t]
    | .comprehension _ _ clauses => (clauses.take 1).flatMap fun c => usedNames depth c.source
    | .dictComprehension _ _ clauses => (clauses.take 1).flatMap fun c => usedNames depth c.source
    | e => e.parts.flatMap (usedNames depth)

/-- The names that a statement uses or gives values to, without those of the blocks in it. -/
def Stmt.ownNames (s : Stmt) : List Text :=
  s.targets ++ s.expressions.flatMap fun e => usedNames nestingLimit e ++ namedWithin e

/-- Whether statements, after these names have been used, use no further name before it is declared to
belong elsewhere. -/
def declaresInTime : (used : List Text) → List Stmt → Bool
  | _, [] => true
  | used, .global names :: rest => names.all (!used.contains ·) && declaresInTime used rest
  | used, .nonlocal names :: rest => names.all (!used.contains ·) && declaresInTime used rest
  | used, s :: rest => declaresInTime (s.ownNames ++ used) rest

/-- The names that a block declares to belong to functions around it. -/
def nonlocalNames (block : List Stmt) : List Text :=
  (statementsWithin nestingLimit block).flatMap fun
    | .nonlocal names => names
    | _ => []

/-- The names about which something is noted in a block. -/
def notedNames (block : List Stmt) : List Text :=
  (statementsWithin nestingLimit block).filterMap fun
    | .annotated (.name t) _ _ => some t
    | _ => none

/-- Whether the rules for declarations hold in the block of a program, a function or a class: what it
declares to belong elsewhere it has not used before, belongs to one place only, and, other than in the
block of a program, gets no note. -/
def areSoundDeclarations (isModule : Bool) (block : List Stmt) : Bool :=
  let foreign := foreignNames block
  foreign.isEmpty ||
    (declaresInTime [] (statementsWithin nestingLimit block) &&
      (nonlocalNames block).all (!(globalNames block).contains ·) &&
      (isModule || (notedNames block).all (!foreign.contains ·)))

/-! ## Features -/

/-- The features that a program may ask for. -/
def features : List String :=
  ["absolute_import", "annotations", "barry_as_FLUFL", "division", "generator_stop", "generators",
    "nested_scopes", "print_function", "unicode_literals", "with_statement"]

/-- Whether a statement asks for features. -/
def asksForFeatures : Stmt → Bool
  | .importNames _ path _ => path = ["__future__".toList]
  | _ => false

/-- Whether a statement asks for features that exist. -/
def asksForKnownFeatures : Stmt → Bool
  | .importNames _ _ (some names) => names.all fun a => features.any fun f => a.path = [f.toList]
  | _ => false

/-- A program without the text that describes it. -/
def withoutDescription : List Stmt → List Stmt
  | .expression _ _ (.str _) :: rest => rest
  | program => program

/-- The statements at the beginning of a program that ask for features. -/
def leadingFeatures (program : List Stmt) : List Stmt :=
  (withoutDescription program).takeWhile asksForFeatures

/-- A program after the statements at its beginning that ask for features. -/
def afterFeatures (program : List Stmt) : List Stmt :=
  (withoutDescription program).dropWhile asksForFeatures

end FormulaCube.Code
