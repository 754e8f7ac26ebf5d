import FormulaCube.Run.Standard

/-!
# Scopes

Where names have their values. A function sees its own variables, those of the functions around it,
those of its module, and what is always there. A variable of a function or class is known from the
beginning, but has no value before one is assigned; meanwhile a class takes the value from its module.

Inside a class, a name that begins with two underscores and does not end with two is the class's own: it
stands for a name that the name of the class is part of.

* `Scope` — what a piece of code sees.
* `privateName` — the name that a name stands for inside a class.
* `Scope.readName`, `Scope.assignName`, `Scope.deleteName` — the value of a name.
* `Scope.inner` — the scope of a piece of code with variables of its own.
-/

namespace FormulaCube.Run

open Eval

/-! ## Names of classes' own -/

/-- The name of a class without the underscores it begins with, if anything is left. -/
def ownerOf (className : Text) : Option Text :=
  match className.dropWhile (· = '_') with
  | [] => none
  | name => some name

/-- Whether a name belongs to the class in which it stands. -/
def isPrivate (name : Text) : Bool :=
  match name with
  | '_' :: '_' :: _ => !("__".toList.isSuffixOf name) && !name.contains '.'
  | _ => false

/-- The name that a name stands for inside a class. -/
def privateName (owner : Option Text) (name : Text) : Text :=
  match owner with
  | some owner => if isPrivate name then '_' :: (owner ++ name) else name
  | none => name

/-! ## Scopes -/

/-- What a piece of code sees. -/
structure Scope where
  /-- Its own variables. -/
  own : Nat
  /-- It belongs to a function. -/
  isFunction : Bool
  /-- The variables of the functions around it, from the inside. -/
  enclosing : List Nat
  /-- What only the functions inside it see: the variable that names the class, if it belongs to one. -/
  classCell : Option Nat
  /-- The variables of the module. -/
  module : Nat
  /-- The names that it takes from the module, whatever the functions around it have. -/
  globals : List Text
  /-- The names that functions inside it take from the module. -/
  inherited : List Text
  /-- What the names of functions defined in it begin with. -/
  path : Text
  /-- The name of the class around it, by which names of its own are told from those of other classes. -/
  owner : Option Text
  /-- The mark of the constants of the module. -/
  constants : Mark
  /-- The parameter that gets the first argument. -/
  first : Option Text

/-- The variables at an address. -/
def variablesAt (address : Nat) : Eval (List (Text × Option Datum)) := do
  match ← read address with
  | .variables values => return values
  | _ => return []

/-- What is known of a name among variables: nothing, that it has no value, or its value. -/
def variableAt (address : Nat) (name : Text) : Eval (Option (Option Datum)) := do
  return (← variablesAt address).lookup name

/-- Gives a variable a value, or takes it away. -/
def setVariable (address : Nat) (name : Text) (d : Option Datum) : Eval Unit := do
  write address (.variables (Directory.insert (← variablesAt address) name d))

/-- The innermost of several functions that has a variable. -/
def holderOf (name : Text) : List Nat → Eval (Option (Nat × Option Datum))
  | [] => return none
  | address :: rest => do
    match ← variableAt address name with
    | some d => return some (address, d)
    | none => holderOf name rest

namespace Scope

/-- The scope of a module with its variables at this address. -/
def ofModule (address : Nat) (constants : Mark) : Scope where
  own := address
  isFunction := false
  enclosing := []
  classCell := none
  module := address
  globals := []
  inherited := []
  path := []
  owner := none
  constants := constants
  first := none

/-- The name that a name stands for in a scope. -/
def resolve (scope : Scope) (name : Text) : Text := privateName scope.owner name

/-- The functions that code inside this one sees around it. -/
def around (scope : Scope) : List Nat :=
  if scope.isFunction then scope.own :: scope.enclosing
  else scope.classCell.toList ++ scope.enclosing

/-- The name of a function or class that is defined here, with those of what it is defined in. -/
def pathOf (scope : Scope) (name : Text) : Text :=
  if scope.globals.contains (scope.resolve name) then name else scope.path ++ name

/-- The value that a name has in the module, or always. -/
def readGlobal (scope : Scope) (name : Text) : Eval Datum := do
  match ← variableAt scope.module name with
  | some (some d) => return d
  | _ =>
    match standard? name with
    | some d => return d
    | none => fault (.undefinedName name)

/-- The value of a name that is not one of the scope's own. -/
def readOuter (scope : Scope) (name : Text) : Eval Datum := do
  match ← holderOf name scope.enclosing with
  | some (_, some d) => return d
  | some (_, none) => fault (.unboundFree name)
  | none => scope.readGlobal name

/-- The value of a name. -/
def readName (scope : Scope) (written : Text) : Eval Datum := do
  let name := scope.resolve written
  if scope.globals.contains name then scope.readGlobal name
  else
    match ← variableAt scope.own name with
    | some (some d) => return d
    | some none =>
      if scope.isFunction then fault (.unboundLocal name) else scope.readGlobal name
    | none => scope.readOuter name

/-- Where a name gets its value. -/
def home (scope : Scope) (name : Text) : Eval Nat := do
  if scope.globals.contains name then return scope.module
  else if scope.isFunction then
    match ← variableAt scope.own name with
    | some _ => return scope.own
    | none =>
      match ← holderOf name scope.enclosing with
      | some (address, _) => return address
      | none => return scope.module
  else return scope.own

/-- Gives a name a value. -/
def assignName (scope : Scope) (written : Text) (d : Datum) : Eval Unit := do
  let name := scope.resolve written
  setVariable (← scope.home name) name (some d)

/-- Takes the value of a name away. -/
def deleteName (scope : Scope) (written : Text) : Eval Unit := do
  let name := scope.resolve written
  let address ← scope.home name
  match ← variableAt address name with
  | some (some _) => setVariable address name none
  | _ =>
    if !scope.isFunction || address = scope.module then fault (.undefinedName name)
    else if address = scope.own then fault (.unboundLocal name)
    else fault (.unboundFree name)

/-- The names that a piece of code with variables of its own takes from the module. -/
def globalsInside (scope : Scope) (names : List Text) : List Text :=
  scope.inherited.filter fun name => !names.contains name

/-- The scope of a piece of code inside this one, with a label and with variables of its own that have
no values yet. What it goes through takes the place of a first argument. -/
def inner (scope : Scope) (label : Text) (names : List Text) : Eval Scope := do
  let names := names.map scope.resolve
  let source : Text := ".0".toList
  let values := (source, some Datum.none) :: names.map fun name => (name, none)
  match ← add (.variables values) with
  | .ref own =>
    let globals := scope.globalsInside names
    return { scope with
      own := own
      isFunction := true
      enclosing := scope.around
      classCell := none
      globals := globals
      inherited := globals
      path := scope.path ++ label
      first := some source }
  | _ => return scope

end Scope

end FormulaCube.Run
