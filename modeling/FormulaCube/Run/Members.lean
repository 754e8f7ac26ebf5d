import FormulaCube.Run.Callback
import FormulaCube.Run.Inspection

/-!
# Attributes

An object has what it was given under a name, and what its class has: a function of the class becomes a
method of the object. What an object computes itself, and what its class answers for names that nothing
else answers, comes in between where the language says so.

* `attributeAt?`, `setAttributeAt`, `removeAttributeAt` — what is kept at an address.
* `attributeOf` — an attribute of something.
-/

namespace FormulaCube.Run

open Eval Code

/-! ## Faults -/

/-- The fault of an object without an attribute. -/
def noAttribute {α : Type} (d : Datum) (name : Text) : Eval α := do
  fault (.noAttribute (← typeName d) name)

/-- The fault of a type without an attribute. -/
def noTypeAttribute {α : Type} (type name : Text) : Eval α :=
  fault (.attributeWords ("type object '".toList ++ type ++ "' has no attribute '".toList ++ name ++
    [Text.apostrophe]))

/-- A tuple of which there is only one. -/
def fixedTuple (items : List Datum) : Datum := .tuple items 0

/-! ## Members for objects -/

/-- Methods that belong to a class and not to its objects. -/
def classMethods : List String := ["__init_subclass__", "__subclasshook__", "from_bindings"]

/-- What the object of a class has of a member: a function becomes a method of the object. -/
def memberFor (call : Caller) (self type member : Datum) : Eval Datum := do
  match member with
  | .ref address =>
    match ← read address with
    | .procedure _ => add (.bound member self)
    | .wrapped kind f =>
      if kind = "property".toList then call f [self] []
      else if kind = "classmethod".toList then add (.bound f type)
      else return f
    | _ => return member
  | .member owner name =>
    if classMethods.any fun m => m.toList = name then add (.bound member type)
    else if name = "__new__".toList then return member
    else if Datum.memberTypeName owner name = "property".toList then
      match ← ownAttribute? self name with
      | some d => return d
      | none => noAttribute self name
    else add (.bound member self)
  | d => return d

/-- What a class has of a member. -/
def memberOfClass (type member : Datum) : Eval Datum := do
  match member with
  | .ref address =>
    match ← read address with
    | .wrapped kind f =>
      if kind = "classmethod".toList then add (.bound f type)
      else if kind = "staticmethod".toList then return f
      else return member
    | _ => return member
  | .member _ name =>
    if classMethods.any fun m => m.toList = name then add (.bound member type) else return member
  | d => return d

/-- Whether a member is computed by the object, whatever it was given. -/
def isComputed (member : Datum) : Eval Bool := do
  match member with
  | .ref address =>
    match ← read address with
    | .wrapped kind _ => return kind = "property".toList
    | _ => return false
  | .member owner name => return Datum.memberTypeName owner name = "property".toList
  | _ => return false

/-! ## Attributes of objects of classes -/

/-- What was given to an object, as a dictionary. -/
def givenAttributes (attributes : List (Text × Datum)) : Eval Datum :=
  add (.dict (attributes.map fun a => (.str a.1, .word a.1, a.2)))

/-- The attribute of a name among those at an address. -/
def attributeAt? (address : Nat) (name : Text) : Eval (Option Datum) := do
  match ← read address with
  | .dict entries => return entries.find? (.str name)
  | _ => return none

/-- Gives an attribute among those at an address. -/
def setAttributeAt (address : Nat) (name : Text) (value : Datum) : Eval Unit := do
  match ← read address with
  | .dict entries => write address (.dict (entries.insert (.str name) (.word name) value))
  | _ => return

/-- Takes an attribute away from those at an address, if it is there. -/
def removeAttributeAt (address : Nat) (name : Text) : Eval Bool := do
  match ← read address with
  | .dict entries =>
    write address (.dict (entries.erase (.str name)))
    return (entries.find? (.str name)).isSome
  | _ => return false

/-- The name of the cube of a cell; what has no name has an empty one. -/
def cubeNameOf (call : Caller) (self : Datum) : Eval Datum := do
  let ask (ds : List Datum) : Eval Datum := call (.builtin "getattr".toList) ds []
  let cube ← ask [self, .word "cube".toList]
  ask [cube, .word "name".toList, .word []]

/-- What an exception has under a name because of what it was made with. -/
def exceptionAttribute? (type : Datum) (arguments : List Datum) (name : String) :
    Eval (Option Datum) := do
  let first := arguments.headD .none
  let isKind (kind : String) : Eval Bool := isKindOf type (.type kind.toList)
  match name with
  | "args" => return some (fixedTuple arguments)
  | "__traceback__" | "__cause__" | "__context__" => return some .none
  | "__suppress_context__" => return some (.bool false)
  | "value" => return if ← isKind "StopIteration" then some first else none
  | "code" => return if ← isKind "SystemExit" then some first else none
  | "msg" =>
    return if (← isKind "ImportError") || (← isKind "SyntaxError") then some first else none
  | "errno" =>
    if ← isKind "OSError" then return some (if 1 < arguments.length then first else .none)
    else return none
  | "strerror" =>
    if ← isKind "OSError" then return some ((arguments[1]?).getD .none) else return none
  | _ => return none

/-- What every object of a class has besides. -/
def commonAttribute? (type : Datum) (attributes : Nat) (name : String) :
    Eval (Option Datum) := do
  match name with
  | "__class__" => return some type
  | "__dict__" => return some (.ref attributes)
  | "__doc__" | "__weakref__" => return some .none
  | _ => return none

/-- An attribute of an object of a class, apart from what the class answers for missing names. -/
def ordinaryAttribute? (call : Caller) (self type : Datum) (attributes : Nat)
    (own : String → Eval (Option Datum)) (name : Text) : Eval (Option Datum) := do
  let member ← inheritedMember? type name
  let computed ← match member with
    | some m => isComputed m
    | none => pure false
  match computed, member, ← attributeAt? attributes name with
  | true, some (.member _ ['c', 'u', 'b', 'e', '_', 'n', 'a', 'm', 'e']), _ =>
    return some (← cubeNameOf call self)
  | true, some m, _ => return some (← memberFor call self type m)
  | _, _, some d => return some d
  | _, some (.member owner m), none =>
    match ← own (String.ofList name) with
    | some d => return some d
    | none => return some (← memberFor call self type (.member owner m))
  | _, some m, none => return some (← memberFor call self type m)
  | _, none, none =>
    match ← own (String.ofList name) with
    | some d => return some d
    | none => commonAttribute? type attributes (String.ofList name)

/-- An attribute of an object of a class. What the class answers for missing names comes last. -/
def instanceAttribute (call : Caller) (self type : Datum) (attributes : Nat)
    (own : String → Eval (Option Datum)) (name : Text) : Eval Datum := do
  match ← askSpecial? call self "__getattribute__" [.word name] with
  | some d => return d
  | none =>
    match ← (ordinaryAttribute? call self type attributes own name).attempt with
    | .ok (some d) => return d
    | outcome =>
      let isMissing ← match outcome with
        | .ok _ => pure true
        | .error f => isOfKind ["AttributeError"] f
      match isMissing, ← special? self "__getattr__", outcome with
      | true, some f, _ => callFor call self f [.word name]
      | _, _, .error f => fail f
      | _, _, .ok _ => noAttribute self name

/-! ## Attributes of types -/

/-- The module that a type belongs to. -/
def moduleOfStandard (name : Text) : Text :=
  (Datum.moduleOfType? name).getD "builtins".toList

/-- What every type has. -/
def typeAttribute? (type : Datum) (name path : Text) (asked : String) : Eval (Option Datum) := do
  match asked with
  | "__name__" => return some (.word name)
  | "__qualname__" => return some (.word path)
  | "__mro__" => return some (fixedTuple (← lineOf type))
  | "__class__" => return some (.type "type".toList)
  | "__bases__" =>
    match ← classAt? type with
    | some c => return some (fixedTuple c.bases)
    | none => return some (fixedTuple ((← lineOf type).tail.take 1))
  | "__base__" =>
    match ← classAt? type with
    | some c => return some (c.bases.headD .none)
    | none => return some (((← lineOf type).tail).headD .none)
  | "__dict__" =>
    match ← classAt? type with
    | some c => return some (← givenAttributes c.members)
    | none => return some (← givenAttributes [])
  | "__annotations__" =>
    match ← classAt? type with
    | some c => return some ((c.members.lookup asked.toList).getD (← givenAttributes []))
    | none => return none
  | _ => return none

/-- An attribute of a type. -/
def typeAttribute (type : Datum) (name path asked : Text) : Eval Datum := do
  match ← typeAttribute? type name path (String.ofList asked) with
  | some d => return d
  | none =>
    match ← inheritedMember? type asked with
    | some member => memberOfClass type member
    | none =>
      if hasStandardMember "type".toList asked then add (.bound (.member "type".toList asked) type)
      else
        match type, String.ofList asked with
        | .type t, "__module__" => return .word (moduleOfStandard t)
        | .type _, "__doc__" => return .word []
        | _, _ => noTypeAttribute name asked

/-! ## Attributes of functions and other things -/

/-- The text that describes a function: the first thing in it, if that is a text. -/
def description? (body : List Stmt) : Option Text :=
  match body with
  | .expression _ _ (.str t) :: _ => some t
  | _ => none

/-- The name of the module whose variables are at the address. -/
def moduleNameAt (address : Nat) : Eval Datum := do
  match ← read address with
  | .variables values => return ((values.lookup "__name__".toList).join).getD .none
  | _ => return .none

/-- An attribute of a function. -/
def functionAttribute? (p : Procedure) (name : Text) : Eval (Option Datum) := do
  match ← attributeAt? p.attributes name with
  | some d => return some d
  | none =>
    match String.ofList name with
    | "__name__" => return some (.word p.name)
    | "__qualname__" => return some (.word p.path)
    | "__doc__" => return some (((description? p.body).map Datum.word).getD .none)
    | "__module__" => return some (← moduleNameAt p.module)
    | "__defaults__" =>
      let own := p.parameters.filter fun q => q.kind = .plain || q.kind = .positionOnly
      let values := own.filterMap fun q => p.defaults.lookup q.name
      return some (if values.isEmpty then .none else fixedTuple values)
    | "__kwdefaults__" | "__closure__" => return some .none
    | "__dict__" => return some (.ref p.attributes)
    | "__annotations__" => return some (← givenAttributes [])
    | _ => return none

/-- An attribute of something in the memory that is no object of a class. -/
def objectAttribute? (object : Object) (name : Text) : Eval (Option Datum) := do
  match object, String.ofList name with
  | .frame cube _, "cube" => return some cube
  | .frame _ coordinate, "coordinate" => return some coordinate
  | .frame cube coordinate, "__dict__" =>
    return some (← givenAttributes [("cube".toList, cube), ("coordinate".toList, coordinate)])
  | .procedure p, _ => functionAttribute? p name
  | .bound _ self, "__self__" => return some self
  | .bound (.ref f) _, "__func__" => return some (.ref f)
  | .bound (.member owner m) self, asked =>
    match asked with
    | "__name__" => return some (.word m)
    | "__qualname__" => return some (.word ((← typeName self) ++ '.' :: m))
    | "__module__" => return some (if (Datum.moduleOfType? owner).isSome then
        .word (moduleOfStandard owner) else .none)
    | _ => return none
  | .bound (.ref f) _, _ =>
    match ← read f with
    | .procedure p =>
      match ← functionAttribute? p name with
      | some value => return some value
      | none =>
        if (← inheritedMember? (.type "method".toList) name).isSome ||
            ["__class__", "__doc__"].any (·.toList = name) then return none
        else fault (.noAttribute "function".toList name)
    | _ => return none
  | .module module attributes, asked =>
    match asked, attributes.lookup name with
    | _, some value => return some value
    | "__name__", none => return some (.word module)
    | "__dict__", none => return some (← givenAttributes attributes)
    | "__doc__", none => return some .none
    | _, none =>
      if hasStandardMember objectName name || name = "__class__".toList then return none
      else
        fault (.attributeWords ("module '".toList ++ module ++ "' has no attribute '".toList ++ name ++
          [Text.apostrophe]))
  | .slice lower _ _, "start" => return some lower
  | .slice _ upper _, "stop" => return some upper
  | .slice _ _ step, "step" => return some step
  | .wrapped _ f, "fget" => return some f
  | .wrapped _ f, "__func__" => return some f
  | _, _ => return none

/-- What a number has under a name. -/
def numberAttribute? (d : Datum) (name : String) : Eval (Option Datum) := do
  match d, name with
  | .int .., "real" | .int .., "numerator" => return some d
  | .int .., "imag" => return some (.ofInt 0 0)
  | .int .., "denominator" => return some (.ofInt 1 0)
  | .bool b, "real" | .bool b, "numerator" => return some (.ofInt (if b then 1 else 0) 0)
  | .bool _, "imag" => return some (.ofInt 0 0)
  | .bool _, "denominator" => return some (.ofInt 1 0)
  | .float .., "real" => return some d
  | .float .., "imag" => return some (← newFloat (.zero false))
  | .range start _ _, "start" => return some (← newInt start)
  | .range _ stop _, "stop" => return some (← newInt stop)
  | .range _ _ step, "step" => return some (← newInt step)
  | _, _ => return none

/-- What a standard function, or a member of a standard type, has under a name. -/
def namedThingAttribute? (d : Datum) (name : String) : Option Datum :=
  let after (t : Text) : Text :=
    match t.dropWhile (· != '.') with
    | [] => t
    | _ :: rest => rest
  match d, name with
  | .builtin f, "__name__" | .builtin f, "__qualname__" => some (.word (after f))
  | .builtin f, "__module__" =>
    some (.word (if f.contains '.' then f.takeWhile (· != '.') else "builtins".toList))
  | .member _ m, "__name__" => some (.word m)
  | .member owner m, "__qualname__" => some (.word (owner ++ '.' :: m))
  | .member owner _, "__objclass__" => some (.type owner)
  | _, _ => none

/-- An attribute of something that is no object of a class. -/
def plainAttribute (call : Caller) (d : Datum) (name : Text) : Eval Datum := do
  let own ← match d with
    | .ref address => objectAttribute? (← read address) name
    | d =>
      match ← ownAttribute? d name with
      | some value => pure (some value)
      | none =>
        match ← numberAttribute? d (String.ofList name) with
        | some value => pure (some value)
        | none => pure (namedThingAttribute? d (String.ofList name))
  match own with
  | some value => return value
  | none =>
    let type ← typeOf d
    match ← inheritedMember? type name with
    | some member => memberFor call d type member
    | none =>
      match String.ofList name with
      | "__class__" => return type
      | "__doc__" => return .word []
      | _ => noAttribute d name

/-- An attribute that an object has from what stands after a type in the line of its class. -/
def attributeAbove (call : Caller) (d type self : Datum) (name : Text) : Eval Datum := do
  let isClass ← isType self
  let own ← if isClass then pure self else typeOf self
  let line ← lineOf own
  match ← memberAlong name ((line.dropWhile fun t => !t.identical type).tail) with
  | some member => if isClass then memberOfClass self member else memberFor call self own member
  | none => if name = "__class__".toList then return .type "super".toList else noAttribute d name

/-! ## All attributes -/

/-- An attribute of something. -/
def attributeOf (call : Caller) (d : Datum) (name : Text) : Eval Datum := do
  match d with
  | .type t => typeAttribute d t t name
  | .ref address =>
    match ← read address with
    | .instance type core attributes =>
      instanceAttribute call d type attributes (numberAttribute? core) name
    | .exception type arguments attributes =>
      instanceAttribute call d type attributes (exceptionAttribute? type arguments) name
    | .classRecord c => typeAttribute d c.name c.path name
    | .above type self => attributeAbove call d type self name
    | _ => plainAttribute call d name
  | d => plainAttribute call d name

end FormulaCube.Run
