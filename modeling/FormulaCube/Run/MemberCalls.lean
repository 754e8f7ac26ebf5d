import FormulaCube.Run.CollectionMethods
import FormulaCube.Run.Functions
import FormulaCube.Run.TextMethods

/-!
# Calls of members of standard types

* `callMember` — a call of what a standard type has under a name, for an object that is the first
  argument; `label` names it in faults.
-/

namespace FormulaCube.Run

open Eval

/-! ## What every object has -/

/-- The names of what every object has and what is no operation. -/
def commonMethods : List String :=
  ["__call__", "__delattr__", "__dir__", "__format__", "__getattribute__", "__getstate__", "__init__",
    "__init_subclass__", "__new__", "__reduce__", "__reduce_ex__", "__setattr__", "__sizeof__",
    "__subclasshook__", "add_note", "mro", "with_traceback"]

/-- An object in a format, which has to be empty. -/
def formatted (call : Caller) (self format : Datum) : Eval Datum := do
  match ← coreOf format with
  | .str [] _ => textDatum call self
  | _ =>
    fault (.typeMisuse ("unsupported format string passed to ".toList ++ (← typeName self) ++
      ".__format__".toList))

/-- A standard type makes objects of what extends it, unless something nearer makes them in a way of its
own. -/
def checkMaker (owner : Text) (type : Datum) : Eval Unit := do
  let name ← nameOfType type
  let words := owner ++ ".__new__(".toList ++ name ++ [')']
  if !(← isKindOf type (.type owner)) then
    wrongArguments (words ++ ": ".toList ++ name ++ " is not a subtype of ".toList ++ owner)
  else if (← makerOf type) ≠ (← makerOf (.type owner)) then
    let isStandard (t : Datum) : Eval Bool := do
      match ← memberOwner t "__new__" with
      | some (.member ..) => return true
      | _ => return false
    let nearest ← (← lineOf type).findM? isStandard
    wrongArguments (words ++ " is not safe, use ".toList ++
      (← nameOfType (nearest.getD type)) ++ ".__new__()".toList)
  else return

/-- An object of a class that is named by the first argument, before it is given anything. -/
def newObject (call : Caller) (owner : Text) (ds : List Datum) (named : List (Text × Datum)) :
    Eval Datum := do
  match ds with
  | [] => wrongArguments (owner ++ ".__new__(): not enough arguments".toList)
  | type :: ds =>
    if !(← isType type) then
      wrongArguments (owner ++ ".__new__(X): X is not a type object (".toList ++ (← typeName type) ++
        [')'])
    else
      checkMaker owner type
      match type with
      | .type name => makeStandard call name ds named
      | type => bareObject call type ds named

/-- A call of what every object has. -/
def callCommonMethod (call : Caller) (label owner name : Text) (self : Datum)
    (ds : List Datum) (named : List (Text × Datum)) : Eval Datum := do
  match String.ofList name with
  | "__init__" =>
    initializeStandard call owner self ds named
    return .none
  | "__init_subclass__" =>
    noArguments label ds named
    return .none
  | "__subclasshook__" => return notApplicable
  | "__call__" => call self ds named
  | "__format__" => formatted call self (← onlyArgument label ds named)
  | "__setattr__" =>
    match ← operandsOf 2 name ds named, self with
    | [attributeName, value], .ref address =>
      setOwnAttribute call self address (← attributeNameOf attributeName) value
      return .none
    | attributeName :: _, self => unsettable self (← attributeNameOf attributeName)
    | [], _ => return .none
  | "__getattribute__" =>
    match ← operandsOf 1 name ds named, self with
    | attributeName :: _, .ref address =>
      let asked ← attributeNameOf attributeName
      let found ← match ← read address with
        | .instance type core attributes =>
          ordinaryAttribute? call self type attributes (numberAttribute? core) asked
        | .exception type arguments attributes =>
          ordinaryAttribute? call self type attributes (exceptionAttribute? type arguments) asked
        | _ => do pure (some (← attributeOf call self asked))
      match found with
      | some d => return d
      | none => noAttribute self asked
    | attributeName :: _, self => attributeOf call self (← attributeNameOf attributeName)
    | [], _ => return .none
  | "__delattr__" =>
    match ← operandsOf 1 name ds named with
    | attributeName :: _ =>
      deleteAttribute call self (← attributeNameOf attributeName)
      return .none
    | [] => return .none
  | "with_traceback" => return self
  | "mro" => add (.list (← lineOf self))
  | "__reduce_ex__" | "add_note" =>
    let _ ← onlyArgument label ds named
    return .none
  | _ =>
    noArguments label ds named
    match String.ofList name with
    | "__dir__" => add (.list [])
    | "__sizeof__" => newInt 0
    | _ => return .none

/-! ## Standard types -/

/-- A call of a method of a standard type. -/
def callStandardMethod (call : Caller) (label name : Text) (self : Datum) (ds : List Datum)
    (named : List (Text × Datum)) : Eval Datum := do
  match ← coreOf self with
  | .str t _ => callTextMethod call label self t name ds named
  | .tuple items _ => callTupleMethod call label items name ds named
  | .ref address =>
    match ← read address with
    | .dict entries => callDictMethod call label address entries name ds named
    | .list items => callListMethod call label address items name ds named
    | .set members => callSetMethod call label address members name ds named
    | _ => fault (.notImplemented ("cells do not use ".toList ++ label))
  | _ => fault (.notImplemented ("cells do not use ".toList ++ label))

/-- A call of an operation under its special name. -/
def callNamedOperation (call : Caller) (label owner name : Text) (o : Operation) (self : Datum)
    (ds : List Datum) (named : List (Text × Datum)) : Eval Datum := do
  if Datum.isSlot owner name then callOperation call owner o self (← operandsOf o.arity name ds named)
  else if o.arity = 0 then
    noArguments label ds named
    callOperation call owner o self []
  else callOperation call owner o self [← onlyArgument label ds named]

/-- The fault of an object that a member does not belong to. -/
def foreignObject {α : Type} (owner name : Text) (self : Datum) : Eval α := do
  let type ← typeName self
  fault (.typeMisuse ("descriptor '".toList ++ name ++ (if Datum.isSlot owner name then
      "' requires a '".toList ++ owner ++ "' object but received a '".toList ++ type ++
        [Text.apostrophe]
    else
      "' for '".toList ++ owner ++ "' objects doesn't apply to a '".toList ++ type ++
        "' object".toList)))

/-- The fault of a call without an object. -/
def withoutObject {α : Type} (owner name : Text) : Eval α :=
  fault (.typeMisuse (if Datum.isSlot owner name then
    "descriptor '".toList ++ name ++ "' of '".toList ++ owner ++ "' object needs an argument".toList
  else "unbound method ".toList ++ owner ++ '.' :: (name ++ "() needs an argument".toList)))

/-- Whether a method belongs to a class and is given the class first. -/
def isClassMethod (name : Text) : Bool := classMethods.any fun m => m.toList = name

/-- A call of what a standard type has under a name, for an object that is the first argument. -/
def callMember (ask : Ask) (call : Caller) (label owner name : Text) (ds : List Datum)
    (named : List (Text × Datum)) : Eval Datum := do
  match (if owner = baseName then Callback.ofLabel? name else none) with
  | some c => callCallback call c ds named
  | none =>
    if name = "__new__".toList then newObject call owner ds named
    else if (Datum.moduleOfType? owner).isSome && !Datum.isSlot owner name then
      callOwnMethod ask call owner name ds named
    else
      match ds with
      | [] => withoutObject owner name
      | self :: ds =>
        if !isClassMethod name && !(← isKindOf (← typeOf self) (.type owner)) then
          foreignObject owner name self
        else if commonMethods.any fun m => m.toList = name then
          callCommonMethod call label owner name self ds named
        else
          match operationOf? name with
          | some o => callNamedOperation call label owner name o self ds named
          | none => callStandardMethod call label name self ds named

end FormulaCube.Run
