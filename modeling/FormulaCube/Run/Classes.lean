import FormulaCube.Run.CellMethods
import FormulaCube.Run.Slots

/-!
# Classes and their objects

* `makeClass` — a class from what it extends and from its members.
* `classMaker`, `buildClass` — what a definition of a class comes to, which what it extends may decide.
* `bareObject`, `setUp`, `construct` — an object of a class.
-/

namespace FormulaCube.Run

open Eval

/-! ## What can be extended -/

/-- Standard types that cannot be extended. -/
def finalTypes : List String :=
  ["NoneType", "NotImplementedType", "bool", "builtin_function_or_method", "dict_items", "dict_keys",
    "dict_values", "ellipsis", "function", "generator", "method", "range", "slice"]

/-- The fault of a type that cannot be extended. -/
def mayBeExtended (type : Datum) : Eval Unit := do
  match type with
  | .type name =>
    if finalTypes.any fun s => s.toList = name then
      fault (.typeMisuse ("type '".toList ++ name ++ "' is not an acceptable base type".toList))
    else return
  | type => if (← classAt? type).isSome then return else fault (.typeMisuse "bases must be types".toList)

/-- Which of several types' holdings an object has, if they go together. -/
def commonSolid : (winner : Datum) → List Datum → Eval Unit
  | _, [] => return
  | winner, base :: bases => do
    mayBeExtended base
    let solid ← solidBase base
    if ← isKindOf winner solid then commonSolid winner bases
    else if ← isKindOf solid winner then commonSolid solid bases
    else fault (.typeMisuse "multiple bases have instance lay-out conflict".toList)

/-- The first of several things that occurs again. -/
def firstRepeated? : List Datum → Option Datum
  | [] => none
  | d :: ds => if ds.any (·.identical d) then some d else firstRepeated? ds

/-- The names of types, each once. -/
def typeNamesOf (types : List Datum) : Eval (List Text) := do
  let m := (← get).memory
  return (types.map fun t => t.className m).eraseDups

/-- What a class stands before that extends these. -/
def ancestorsOrFault (bases : List Datum) : Eval (List Datum) := do
  match firstRepeated? bases with
  | some base =>
    fault (.typeMisuse ("duplicate base class ".toList ++ base.className (← get).memory))
  | none =>
    match ← ancestorsFrom bases with
    | .ok ancestors => return ancestors
    | .error heads =>
      fault (.typeMisuse ("Cannot create a consistent method resolution\norder (MRO) for bases ".toList
        ++ Text.join ", ".toList (← typeNamesOf heads)))

/-! ## Making classes -/

/-- Functions among the members of a class that do not become methods of its objects. -/
def wrappedMember (name : Text) (d : Datum) : Eval Datum := do
  let wrap (kind : String) : Eval Datum := do
    match d with
    | .ref address =>
      match ← read address with
      | .procedure _ => add (.wrapped kind.toList d)
      | _ => return d
    | d => return d
  match String.ofList name with
  | "__new__" => wrap "staticmethod"
  | "__init_subclass__" | "__class_getitem__" => wrap "classmethod"
  | _ => return d

/-- The members of a class with those that every class has. -/
def completeMembers (members : List (Text × Datum)) : List (Text × Datum) :=
  let has (name : String) : Bool := (members.lookup name.toList).isSome
  members ++ (if has "__doc__" then [] else [("__doc__".toList, .none)]) ++
    (if has "__eq__" && !has "__hash__" then [("__hash__".toList, .none)] else [])

/-- Tells what a class extends that there is a new class. -/
def announceClass (call : Caller) (type : Datum) (path : Text) (named : List (Text × Datum)) :
    Eval Unit := do
  let found ← memberAlong "__init_subclass__".toList (← lineOf type).tail
  match found with
  | some (.ref address) =>
    match ← read address with
    | .wrapped _ f => discard <| call f [type] named
    | _ => discard <| call (.ref address) [] named
  | _ =>
    unless named.isEmpty do
      wrongArguments (path ++ ".__init_subclass__() takes no keyword arguments".toList)

/-- A class that extends these and has these members. -/
def makeClass (call : Caller) (name : Text) (bases : List Datum) (members : List (Text × Datum))
    (named : List (Text × Datum)) : Eval Datum := do
  let bases := if bases.isEmpty then [.type objectName] else bases
  commonSolid (.type objectName) bases
  let path := match members.lookup "__qualname__".toList with
    | some (.str t _) => t
    | _ => name
  let members := members.filter fun m => m.1 ≠ "__qualname__".toList
  let members ← members.mapM fun m => do return (m.1, ← wrappedMember m.1 m.2)
  let ancestors ← ancestorsOrFault bases
  let type ← add (.classRecord ⟨name, path, bases, ancestors, completeMembers members⟩)
  announceClass call type path named
  return type

/-- The narrowest of the types of several things; each has to extend all others. -/
def narrowestType : (winner : Datum) → List Datum → Eval Datum
  | winner, [] => return winner
  | winner, base :: bases => do
    let type ← typeOf base
    if ← isKindOf winner type then narrowestType winner bases
    else if ← isKindOf type winner then narrowestType type bases
    else
      fault (.typeMisuse ("metaclass conflict: the metaclass of a derived class must be a ".toList ++
        "(non-strict) subclass of the metaclasses of all its bases".toList))

/-- What makes a class that extends these: usually a type of types, but where something it extends is no
type, or something else is named, that decides. -/
def classMaker (bases : List Datum) (named : List (Text × Datum)) : Eval Datum := do
  match named.lookup "metaclass".toList, bases with
  | none, [] => return .type "type".toList
  | none, base :: _ => narrowestType (← typeOf base) bases
  | some f, _ => if ← isType f then narrowestType f bases else return f

/-- What a definition of a class comes to, of which it is known what makes it. -/
def buildClass (call : Caller) (maker : Datum) (name : Text) (bases : List Datum)
    (members named : List (Text × Datum)) : Eval Datum := do
  let rest := named.filter fun n => n.1 ≠ "metaclass".toList
  match maker with
  | .type ['t', 'y', 'p', 'e'] => makeClass call name bases members rest
  | maker =>
    let table ← givenAttributes members
    call maker [.word name, ← newTuple bases, table] rest

/-! ## Making objects -/

/-- Where a type has a member from. -/
def memberOwner (type : Datum) (name : String) : Eval (Option Datum) :=
  inheritedMember? type name.toList

/-- Whether what a type has under a name is what every object has. -/
def isCommon (type : Datum) (name : String) : Eval Bool := do
  match ← memberOwner type name with
  | some (.member owner _) => return owner = objectName
  | _ => return false

/-- The first standard type in the line of a type that makes objects in a way of its own. -/
def makerOf (type : Datum) : Eval Text := do
  match ← (← lineOf type).findSomeM? fun t => do
    match t with
    | .type name => return if hasStandardMember name "__new__".toList then some name else none
    | _ => return none with
  | some name => return name
  | none => return objectName

/-- An object of a class before it is given anything. -/
def bareObject (call : Caller) (type : Datum) (ds : List Datum) (named : List (Text × Datum)) :
    Eval Datum := do
  let maker ← makerOf type
  let hold (core : Datum) : Eval Datum := addWith [] (.instance type core)
  if maker = objectName then
    unless ds.isEmpty && named.isEmpty do
      if !(← isCommon type "__new__") then
        wrongArguments
          "object.__new__() takes exactly one argument (the type to instantiate)".toList
      else if ← isCommon type "__init__" then
        wrongArguments ((← nameOfType type) ++ "() takes no arguments".toList)
    hold .none
  else if isExceptionKind maker then makeException type ds
  else
    match String.ofList maker with
    | "list" => hold (← add (.list []))
    | "dict" => hold (← add (.dict []))
    | "set" => hold (← add (.set []))
    | _ => hold (← makeStandard call maker ds named)

/-- Fills what an object holds of a standard type. -/
def initializeCore (call : Caller) (self : Datum) (owner : Text) (ds : List Datum)
    (named : List (Text × Datum)) : Eval Unit := do
  match ← coreOf self with
  | .ref address =>
    match ← read address with
    | .list _ =>
      match ← singleArgument owner ds named with
      | some d => write address (.list (← everyMember call d))
      | none => write address (.list [])
    | .set _ =>
      match ← singleArgument owner ds named with
      | some d =>
        match ← setOf call (← everyMember call d) with
        | .ref fresh => write address (← read fresh)
        | _ => return
      | none => write address (.set [])
    | .dict _ => fillDictFrom call "dict" address ds named
    | .exception type _ attributes =>
      noNames (← nameOfType type) named
      match ← makeException type ds with
      | .ref fresh =>
        match ← read fresh with
        | .exception _ arguments _ => write address (.exception type arguments attributes)
        | _ => return
      | _ => return
    | _ => return
  | _ => return

/-- Gives an object what a standard type says that it begins with. -/
def initializeStandard (call : Caller) (owner : Text) (self : Datum) (ds : List Datum)
    (named : List (Text × Datum)) : Eval Unit := do
  if owner = baseName then discard <| callCallback call .setUp (self :: ds) named
  else if owner = objectName then
    let type ← typeOf self
    unless ds.isEmpty && named.isEmpty do
      if !(← isCommon type "__init__") then
        wrongArguments
          "object.__init__() takes exactly one argument (the instance to initialize)".toList
      else if ← isCommon type "__new__" then
        wrongArguments ((← nameOfType type) ++
          ".__init__() takes exactly one argument (the instance to initialize)".toList)
  else initializeCore call self owner ds named

/-- Gives an object what its class says that it begins with. -/
def setUp (call : Caller) (type self : Datum) (ds : List Datum)
    (named : List (Text × Datum)) : Eval Unit := do
  match ← memberOwner type "__init__" with
  | some (.member owner _) => initializeStandard call owner self ds named
  | some member =>
    let answer ← call (← memberFor call self type member) ds named
    match answer with
    | .none => return
    | d =>
      fault (.typeMisuse ("__init__() should return None, not '".toList ++ (← typeName d) ++
        [Text.apostrophe]))
  | none => return

/-- Makes an object of a class. -/
def construct (call : Caller) (type : Datum) (ds : List Datum)
    (named : List (Text × Datum)) : Eval Datum := do
  let self ← match ← memberOwner type "__new__" with
    | some (.ref address) => do
      match ← read address with
      | .wrapped _ f => call f (type :: ds) named
      | _ => call (.ref address) (type :: ds) named
    | _ => bareObject call type ds named
  if ← isKindOf (← typeOf self) type then setUp call (← typeOf self) self ds named
  return self

end FormulaCube.Run
