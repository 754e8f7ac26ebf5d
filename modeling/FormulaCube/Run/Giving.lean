import FormulaCube.Run.Members

/-!
# Giving and taking attributes

Most objects of classes take any attribute. Some names stand for something that is more than kept: the
class of an object, the name of a function, what a class extends. What is computed cannot be given.

* `setAttribute` — an attribute is given.
* `deleteAttribute` — an attribute is taken away.
-/

namespace FormulaCube.Run

open Eval

/-! ## Faults -/

/-- The fault of an attribute that cannot be given because it is computed. -/
def unwritable {α : Type} (name type : Text) : Eval α :=
  fault (.attributeWords ("attribute '".toList ++ name ++ "' of '".toList ++ type ++
    "' objects is not writable".toList))

/-- The fault of an attribute that cannot be given. -/
def unsettable {α : Type} (d : Datum) (name : Text) : Eval α := do
  match ← inheritedMember? (← typeOf d) name with
  | some (.member owner m) =>
    if Datum.isComputedMember owner m then unwritable name owner
    else
      fault (.attributeWords (Text.apostrophe :: ((← typeName d) ++ "' object attribute '".toList ++
        name ++ "' is read-only".toList)))
  | _ =>
    if (← ownAttribute? d name).isSome || (namedThingAttribute? d (String.ofList name)).isSome then
      unwritable name (← typeName d)
    else noAttribute d name

/-- The fault of a property that cannot be given. -/
def withoutSetter {α : Type} (type : Datum) (name : Text) : Eval α := do
  fault (.attributeWords ("property '".toList ++ name ++ "' of '".toList ++ (← pathOfType type) ++
    "' object has no setter".toList))

/-- The fault of something that can only be given as a thing of another kind. -/
def mustBeSet {α : Type} (name : Text) (kind : String) : Eval α :=
  fault (.typeMisuse (name ++ " must be set to a ".toList ++ kind.toList))

/-- The fault of a type that cannot be changed. -/
def immutableType {α : Type} (type name : Text) : Eval α :=
  fault (.typeMisuse ("cannot set '".toList ++ name ++ "' attribute of immutable type '".toList ++
    type ++ [Text.apostrophe]))

/-! ## Special names -/

/-- The class that takes the place of the type of an object, if it can. -/
def replacedClass (type value : Datum) : Eval Datum := do
  if !(← isType value) then
    fault (.typeMisuse ("__class__ must be set to a class, not '".toList ++ (← typeName value) ++
      "' object".toList))
  else if (← classAt? type).isNone || (← classAt? value).isNone then
    fault (.typeMisuse
      "__class__ assignment only supported for mutable types or ModuleType subclasses".toList)
  else
    let solid ← solidBase type
    let counted := ["int", "tuple"].any fun name => solid.identical (.type name.toList)
    if counted || !solid.identical (← solidBase value) then
      fault (.typeMisuse ("__class__ assignment: '".toList ++ (← nameOfType value) ++
        "' object layout differs from '".toList ++ (← nameOfType type) ++ [Text.apostrophe]))
    else return value

/-- The address of a dictionary that takes the place of the attributes of something. -/
def replacedAttributes (value : Datum) : Eval Nat := do
  match value, ← entriesOf? value with
  | .ref address, some _ => return address
  | _, _ =>
    fault (.typeMisuse ("__dict__ must be set to a dictionary, not a '".toList ++
      (← typeName value) ++ [Text.apostrophe]))

/-- What an exception is said to come from, or what was handled when it arose. -/
def checkedOrigin (kind : String) (value : Datum) : Eval Datum := do
  match value with
  | .none => return value
  | value =>
    if !(← isType value) && (← isExceptionType (← typeOf value)) then return value
    else
      fault (.typeMisuse ("exception ".toList ++ kind.toList ++
        " must be None or derive from BaseException".toList))

/-- A text that becomes the name of a class. -/
def classNameFrom (c : ClassRecord) (name : Text) (value : Datum) : Eval Text := do
  match value with
  | .str t _ => return t
  | value =>
    fault (.typeMisuse ("can only assign string to ".toList ++ c.name ++ '.' :: (name ++
      ", not '".toList ++ (← typeName value) ++ [Text.apostrophe])))

/-- The values that the last parameters of a function get of themselves. -/
def defaultsFrom (p : Procedure) (value : Datum) : Eval (List (Text × Datum)) := do
  let names := (p.parameters.filter fun q => q.kind = .plain || q.kind = .positionOnly).map (·.name)
  let others := p.defaults.filter fun entry => !names.contains entry.1
  match value with
  | .none => return others
  | .tuple ds _ =>
    let named := names.drop (names.length - ds.length)
    return others ++ List.zip named (ds.drop (ds.length - names.length))
  | _ => mustBeSet "__defaults__".toList "tuple object"

/-! ## Giving attributes -/

/-- The attributes of something with one of them given. -/
def withAttribute (attributes : List (Text × Datum)) (name : Text) (value : Datum) :
    List (Text × Datum) :=
  Directory.insert attributes name value

/-- Gives an attribute to an object of a class. -/
def setInstanceAttribute (d : Datum) (address : Nat) (type core : Datum) (attributes : Nat)
    (name : Text) (value : Datum) : Eval Unit := do
  let member ← inheritedMember? type name
  let computed ← match member with
    | some m => isComputed m
    | none => pure false
  match computed, member, String.ofList name with
  | true, _, _ => withoutSetter type name
  | _, some (.member owner m), asked =>
    if Datum.isComputedMember owner m then unwritable name owner
    else if asked = "__class__" then
      write address (.instance (← replacedClass type value) core attributes)
    else setAttributeAt attributes name value
  | _, _, "__class__" => write address (.instance (← replacedClass type value) core attributes)
  | _, _, "__dict__" => write address (.instance type core (← replacedAttributes value))
  | _, _, "__weakref__" => unwritable name (← nameOfType type)
  | _, _, _ =>
    if type.identical (.type objectName) then unsettable d name
    else setAttributeAt attributes name value

/-- Gives an attribute to an exception. -/
def setExceptionAttribute (call : Caller) (address : Nat) (type : Datum) (arguments : List Datum)
    (attributes : Nat) (name : Text) (value : Datum) : Eval Unit := do
  let keep (value : Datum) : Eval Unit := setAttributeAt attributes name value
  match String.ofList name, value with
  | "args", value => write address (.exception type (← everyMember call value) attributes)
  | "__class__", value =>
    write address (.exception (← replacedClass type value) arguments attributes)
  | "__dict__", value => write address (.exception type arguments (← replacedAttributes value))
  | "__cause__", value => keep (← checkedOrigin "cause" value)
  | "__context__", value => keep (← checkedOrigin "context" value)
  | "__traceback__", .none => return
  | "__traceback__", _ => fault (.typeMisuse "__traceback__ must be a traceback or None".toList)
  | _, value => keep value

/-- Gives an attribute to a class. -/
def setClassAttribute (address : Nat) (c : ClassRecord) (name : Text) (value : Datum) :
    Eval Unit := do
  match String.ofList name with
  | "__name__" => write address (.classRecord { c with name := ← classNameFrom c name value })
  | "__qualname__" => write address (.classRecord { c with path := ← classNameFrom c name value })
  | "__bases__" =>
    match value with
    | .tuple .. => fault (.notImplemented "cells do not change what classes extend".toList)
    | value =>
      fault (.typeMisuse ("can only assign tuple to ".toList ++ c.name ++ ".__bases__, not ".toList ++
        (← typeName value)))
  | "__dict__" => unwritable name "type".toList
  | "__mro__" => fault (.attributeWords "readonly attribute".toList)
  | "__class__" => discard <| replacedClass (.type "type".toList) value
  | _ => write address (.classRecord { c with members := withAttribute c.members name value })

/-- Gives an attribute to a function. -/
def setFunctionAttribute (address : Nat) (p : Procedure) (name : Text) (value : Datum) :
    Eval Unit := do
  match String.ofList name, value with
  | "__name__", .str t _ => write address (.procedure { p with name := t })
  | "__name__", _ => mustBeSet name "string object"
  | "__qualname__", .str t _ => write address (.procedure { p with path := t })
  | "__qualname__", _ => mustBeSet name "string object"
  | "__defaults__", value =>
    write address (.procedure { p with defaults := ← defaultsFrom p value })
  | "__code__", _ => mustBeSet name "code object"
  | "__dict__", value =>
    write address (.procedure { p with attributes := ← replacedAttributes value })
  | "__class__", value => discard <| replacedClass (.type "function".toList) value
  | "__closure__", _ => fault (.attributeWords "readonly attribute".toList)
  | "__globals__", _ => fault (.attributeWords "readonly attribute".toList)
  | _, value => setAttributeAt p.attributes name value

/-- Gives an attribute to something in the memory, past what its class says about that. -/
def setOwnAttribute (call : Caller) (d : Datum) (address : Nat) (name : Text) (value : Datum) :
    Eval Unit := do
  match ← read address with
  | .instance type core attributes =>
    setInstanceAttribute d address type core attributes name value
  | .exception type arguments attributes =>
    setExceptionAttribute call address type arguments attributes name value
  | .classRecord c => setClassAttribute address c name value
  | .frame cube coordinate =>
    match String.ofList name with
    | "cube" => write address (.frame value coordinate)
    | "coordinate" => write address (.frame cube value)
    | _ => pure ()
  | .module module attributes => write address (.module module (withAttribute attributes name value))
  | .procedure p => setFunctionAttribute address p name value
  | _ =>
    if name = "__class__".toList then discard <| replacedClass (← typeOf d) value
    else unsettable d name

/-- Gives an attribute to a cube. -/
def setCubeAttribute (number : Nat) (name : Text) (value : Datum) : Eval Unit := do
  match String.ofList name, value with
  | "name", .str t _ => changeCube number ({ · with name := some t })
  | "default", d => changeCube number ({ · with default := some d })
  | "registry", .none => changeCube number ({ · with hasRegistry := false })
  | "registry", .registry => changeCube number ({ · with hasRegistry := true })
  | "compiler", .compiler n => changeCube number ({ · with compiler := n })
  | _, _ => return

/-- Gives an attribute to something. -/
def setAttribute (call : Caller) (d : Datum) (name : Text) (value : Datum) : Eval Unit := do
  match d with
  | .ref address =>
    match ← askSpecial? call d "__setattr__" [.word name, value] with
    | some _ => return
    | none => setOwnAttribute call d address name value
  | .type t => if (Datum.moduleOfType? t).isSome then return else immutableType t name
  | .cube number => setCubeAttribute number name value
  | .registry => return
  | d =>
    if name = "__class__".toList then discard <| replacedClass (← typeOf d) value
    else unsettable d name

/-! ## Taking attributes away -/

/-- Takes an attribute of something in the memory away. -/
def deleteOwnAttribute (d : Datum) (address : Nat) (name : Text) : Eval Unit := do
  match ← read address, String.ofList name with
  | .exception .., "args" => fault (.typeMisuse "args may not be deleted".toList)
  | .procedure _, "__name__" => mustBeSet name "string object"
  | .procedure _, "__qualname__" => mustBeSet name "string object"
  | .instance _ _ attributes, _ =>
    unless ← removeAttributeAt attributes name do noAttribute d name
  | .exception _ _ attributes, _ =>
    unless ← removeAttributeAt attributes name do noAttribute d name
  | .procedure p, _ =>
    unless ← removeAttributeAt p.attributes name do noAttribute d name
  | .classRecord c, _ =>
    if (c.members.lookup name).isSome then
      write address (.classRecord { c with members := Directory.erase c.members name })
    else noTypeAttribute c.name name
  | _, _ => unsettable d name

/-- Takes an attribute away. -/
def deleteAttribute (call : Caller) (d : Datum) (name : Text) : Eval Unit := do
  match d with
  | .ref address =>
    match ← askSpecial? call d "__delattr__" [.word name] with
    | some _ => return
    | none => deleteOwnAttribute d address name
  | .type t => immutableType t name
  | d => unsettable d name

end FormulaCube.Run
