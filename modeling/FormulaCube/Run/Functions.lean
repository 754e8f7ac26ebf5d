import FormulaCube.Run.Classes
import FormulaCube.Run.Ordering

/-!
# Standard functions

* `callFunction` — a call of a standard function.
* `callType` — a call of a standard type.
-/

namespace FormulaCube.Run

open Eval

/-! ## Going through collections -/

/-- Tuples of the first members, of the second ones, and so on, as far as all collections go. -/
def zipped (collections : List (List Datum)) : List (List Datum) :=
  match collections with
  | [] => []
  | first :: rest =>
    let n := rest.foldl (fun n items => min n items.length) first.length
    (List.range n).map fun i => collections.map fun items => items.getD i .none

/-- The items among a list that a function accepts. -/
def accepted (call : Caller) (f : Datum) : List Datum → Eval (List Datum)
  | [] => return []
  | d :: ds => do
    let verdict ← match f with
      | .none => pure d
      | f => call f [d] []
    let own := if ← isTrue call verdict then [d] else []
    return own ++ (← accepted call f ds)

/-- Something that goes through a thing once, from its end to its beginning. -/
def reversedOf (call : Caller) (d : Datum) : Eval Datum := do
  let wrong : Eval Datum := do
    fault (.typeMisuse (Text.apostrophe :: ((← typeName d) ++ "' object is not reversible".toList)))
  let backwards (type : String) : Eval Datum := do
    add (.iterator type.toList (← everyMember call d).reverse)
  match ← coreOf d with
  | .range .. => backwards "range_iterator"
  | .str .. | .tuple .. | .bytes _ => backwards "reversed"
  | .ref address =>
    match ← read address with
    | .list _ => backwards "list_reverseiterator"
    | .dict _ => backwards "dict_reversekeyiterator"
    | .dictView .. => backwards "dict_reversekeyiterator"
    | _ =>
      if (← special? d "__getitem__").isSome && (← special? d "__len__").isSome then
        let n ← lengthOf call d
        let items ← (List.range n).reverse.mapM fun (i : Nat) => do
          entryAt call d (← newInt (i : Int))
        add (.iterator "reversed".toList items)
      else wrong
  | _ => wrong

/-- Something that goes through collections once. -/
def makeIterator (call : Caller) (name : Text) (ds : List Datum) (named : List (Text × Datum)) :
    Eval Datum := do
  match String.ofList name, ds with
  | "enumerate", ds =>
    let given ← placedOptions name ["iterable", "start"] ds named
    match given.lookup "iterable".toList with
    | none => wrongArguments "enumerate() missing required argument 'iterable'".toList
    | some d =>
      let start ← match given.lookup "start".toList with
        | some s => integerOf call s
        | none => pure 0
      let items ← everyMember call d
      let pairs ← items.zipIdx.mapM fun (item, i) => do
        newTuple [← newInt (start + (i : Int)), item]
      add (.iterator name pairs)
  | "zip", ds =>
    let rows := zipped (← ds.mapM (everyMember call))
    add (.iterator name (← rows.mapM newTuple))
  | "map", f :: d :: more =>
    let rows := zipped (← (d :: more).mapM (everyMember call))
    add (.iterator name (← rows.mapM fun row => call f row []))
  | "map", _ => wrongArguments "map() must have at least two arguments.".toList
  | "filter", ds =>
    match ← boundedArguments name 2 2 ds with
    | [f, d] => add (.iterator name (← accepted call f (← everyMember call d)))
    | _ => return .none
  | _, ds =>
    match ← boundedArguments name 1 1 ds with
    | [d] =>
      match ← askSpecial? call d "__reversed__" [] with
      | some answer => return answer
      | none => reversedOf call d
    | _ => return .none

/-- The next thing that is handed out. -/
def nextOf (call : Caller) (ds : List Datum) : Eval Datum := do
  match ← boundedArguments "next".toList 1 2 ds with
  | d :: more =>
    match ← (handedOut d).attempt with
    | .error _ =>
      fault (.typeMisuse (Text.apostrophe :: ((← typeName d) ++ "' object is not an iterator".toList)))
    | .ok walk =>
      match ← walk.next call, more with
      | some (item, _), _ => return item
      | none, spare :: _ => return spare
      | none, [] => fault (.raised "StopIteration".toList [])
  | [] => return .none

/-- Something that goes through a thing once. -/
def iteratorOf (call : Caller) (d : Datum) : Eval Datum := do
  match ← walkOf call d with
  | .shared address => return .ref address
  | .object d => return d
  | walk => add (.iterator ((← typeName d) ++ "_iterator".toList) (← walk.takeAll call turnLimit []))

/-! ## Types and attributes -/

/-- Whether a type is one of some kinds, which may be nested in tuples at most so deep. -/
def isOneOf (words : String) (type : Datum) : (depth : Nat) → Datum → Eval Bool
  | 0, _ => fault .tooDeep
  | depth + 1, kind => do
    match kind with
    | .tuple kinds _ => kinds.anyM fun k => isOneOf words type depth k
    | kind =>
      if ← isType kind then isKindOf type kind
      else
        fault (.typeMisuse (words.toList ++
          " arg 2 must be a type, a tuple of types, or a union".toList))

/-- How deeply kinds may be nested in tuples. -/
def kindDepth : Nat := 100

/-- The text that names an attribute. -/
def attributeNameOf (d : Datum) : Eval Text := do
  match ← coreOf d with
  | .str t _ => return t
  | _ => fault (.attributeName (← typeName d))

/-- An attribute that is asked for by its name, perhaps with something instead. -/
def getAttribute (call : Caller) (ds : List Datum) : Eval Datum := do
  match ← boundedArguments "getattr".toList 2 3 ds with
  | d :: name :: more =>
    let name ← attributeNameOf name
    match ← (attributeOf call d name).attempt, more with
    | .ok value, _ => return value
    | .error f, spare :: _ => if ← isOfKind ["AttributeError"] f then return spare else fail f
    | .error f, [] => fail f
  | _ => return .none

/-- Whether something can be called. -/
def isCallable (d : Datum) : Eval Bool := do
  match d with
  | .builtin _ => return true
  | .type _ => return true
  | .member .. => return true
  | .ref address =>
    match ← read address with
    | .procedure _ => return true
    | .bound .. => return true
    | .classRecord _ => return true
    | _ => return (← special? d "__call__").isSome
  | _ => return false

/-! ## Numbers -/

/-- A number rounded to so many decimal places, a half to the even neighbour. -/
def roundedTo (call : Caller) (d : Datum) (places : Option Datum) : Eval Datum := do
  match ← askSpecial? call d "__round__" places.toList with
  | some answer => return answer
  | none =>
    match ← coreOf d, amount? (← coreOf d), places with
    | .int i mark, _, none => return .int i mark
    | .int i mark, _, some .none => return .int i mark
    | _, some (.int i), none => newInt i
    | _, some (.int i), some .none => newInt i
    | _, some (.int i), some p => newInt (roundedInt i (← integerOf call p))
    | _, some (.float x), none => roundedInteger x (roundedDouble? x)
    | _, some (.float x), some .none => roundedInteger x (roundedDouble? x)
    | _, some (.float x), some p =>
      let y := roundedPlaces x (← integerOf call p)
      if x.isFinite && !y.isFinite then
        fault (.overflow "rounded value too large to represent".toList)
      else newFloat y
    | _, none, _ =>
      fault (.typeMisuse ("type ".toList ++ (← typeName d) ++
        " doesn't define __round__ method".toList))

/-- The size of a number, without its sign. -/
def sizeOf (call : Caller) (d : Datum) : Eval Datum := do
  match ← askSpecial? call d "__abs__" [] with
  | some answer => return answer
  | none =>
    match ← sizeOf? (← coreOf d) with
    | some answer => return answer
    | none =>
      fault (.typeMisuse ("bad operand type for abs(): '".toList ++ (← typeName d) ++
        [Text.apostrophe]))

/-- An integer in a base, with what tells the base. -/
def inBase (call : Caller) (lead : String) (base : Nat) (d : Datum) : Eval Datum := do
  let i ← integerOf call d
  newText ((if i < 0 then ['-'] else []) ++ lead.toList ++ Nat.toDigits base i.natAbs)

/-- The character of a number. -/
def characterOf (call : Caller) (d : Datum) : Eval Datum := do
  let i ← integerOf call d
  if 0 ≤ i && i < 0x110000 then newText [Char.ofNat i.toNat]
  else fault (.improper "chr() arg not in range(0x110000)".toList)

/-- The number of a character. -/
def numberOfCharacter (d : Datum) : Eval Datum := do
  match ← coreOf d with
  | .str [c] _ => newInt c.toNat
  | .str t _ =>
    fault (.typeMisuse ("ord() expected a character, but string of length ".toList ++
      Text.ofNat t.length ++ " found".toList))
  | _ =>
    fault (.typeMisuse ("ord() expected string of length 1, but ".toList ++ (← typeName d) ++
      " found".toList))

/-! ## Calls -/

/-- A call of a standard function that takes exactly one argument. -/
def callWithOne (call : Caller) (name : Text) (d : Datum) : Eval (Option Datum) := do
  match String.ofList name with
  | "len" => return some (← newInt (← lengthOf call d))
  | "abs" => return some (← sizeOf call d)
  | "all" =>
    return some (.bool (← (← everyMember call d).allM (isTrue call)))
  | "any" =>
    return some (.bool (← (← everyMember call d).anyM (isTrue call)))
  | "repr" => return some (← newText (← shown call d))
  | "callable" => return some (.bool (← isCallable d))
  | "bin" => return some (← inBase call "0b" 2 d)
  | "oct" => return some (← inBase call "0o" 8 d)
  | "hex" => return some (← inBase call "0x" 16 d)
  | "chr" => return some (← characterOf call d)
  | "ord" => return some (← numberOfCharacter d)
  | "hash" => return some (← hashNumber call d)
  | _ => return none

/-- The standard functions that take exactly one argument. -/
def singleFunctions : List String :=
  ["abs", "all", "any", "bin", "callable", "chr", "hash", "hex", "len", "oct", "ord", "repr"]

/-- A call of a standard function. -/
def callFunction (call : Caller) (name : Text) (ds : List Datum) (named : List (Text × Datum)) :
    Eval Datum := do
  let function := String.ofList name
  if singleFunctions.contains function then
    return (← callWithOne call name (← onlyArgument name ds named)).getD .none
  else
    match function with
    | "sorted" =>
      let ds ← boundedArguments name 1 1 ds
      let items ← everyMember call (ds.headD .none)
      add (.list (← sortedItems call named items))
    | "sum" => sumOf call ds named
    | "max" => extremeOf call name .greater ds named
    | "min" => extremeOf call name .less ds named
    | "round" =>
      let given ← placedOptions name ["number", "ndigits"] ds named
      match given.lookup "number".toList with
      | some d => roundedTo call d (given.lookup "ndigits".toList)
      | none => wrongArguments "round() missing required argument 'number' (pos 1)".toList
    | "pow" =>
      match ds with
      | [a, b] => combine call .pow a b
      | [_] => wrongArguments "pow() missing required argument 'exp' (pos 2)".toList
      | _ => wrongArguments "pow() missing required argument 'base' (pos 1)".toList
    | "print" => return .none
    | _ =>
      noNames name named
      match function with
      | "input" =>
        let _ ← boundedArguments name 0 1 ds
        fault (.raised "EOFError".toList "EOF when reading a line".toList)
      | "isinstance" =>
        match ← boundedArguments name 2 2 ds with
        | [d, kind] => return .bool (← isOneOf "isinstance()" (← typeOf d) kindDepth kind)
        | _ => return .none
      | "issubclass" =>
        match ← boundedArguments name 2 2 ds with
        | [type, kind] =>
          if ← isType type then return .bool (← isOneOf "issubclass()" type kindDepth kind)
          else fault (.typeMisuse "issubclass() arg 1 must be a class".toList)
        | _ => return .none
      | "getattr" => getAttribute call ds
      | "hasattr" =>
        let ds ← boundedArguments name 2 2 ds
        let found ← getAttribute call (ds ++ [.ref 0])
        return .bool !(found.identical (.ref 0))
      | "setattr" =>
        match ← boundedArguments name 3 3 ds with
        | [d, attributeName, value] =>
          setAttribute call d (← attributeNameOf attributeName) value
          return .none
        | _ => return .none
      | "divmod" =>
        match ← boundedArguments name 2 2 ds with
        | [a, b] =>
          let q ← combine call .floorDiv a b
          newTuple [q, ← combine call .mod a b]
        | _ => return .none
      | "iter" =>
        match ← boundedArguments name 1 2 ds with
        | d :: _ => iteratorOf call d
        | [] => return .none
      | "next" => nextOf call ds
      | _ => fault (.notImplemented ("cells do not use ".toList ++ name))

/-- A class by its name, what it extends, and its members. -/
def classFrom (call : Caller) (ds : List Datum) (named : List (Text × Datum)) : Eval Datum := do
  match ds with
  | [.str name _, .tuple bases _, table] =>
    match ← dictEntries? table with
    | some entries =>
      let members := entries.filterMap fun e =>
        match e.2.1 with
        | .str t _ => some (t, e.2.2)
        | _ => none
      buildClass call (← classMaker bases named) name bases members named
    | none =>
      fault (.typeMisuse ("type.__new__() argument 3 must be dict, not ".toList ++ (← typeName table)))
  | [.str .., bases, _] =>
    fault (.typeMisuse ("type.__new__() argument 2 must be tuple, not ".toList ++ (← typeName bases)))
  | [name, _, _] =>
    fault (.typeMisuse ("type.__new__() argument 1 must be str, not ".toList ++ (← typeName name)))
  | _ => wrongArguments "type() takes 1 or 3 arguments".toList

/-- What stands after a type in the line of the type of an object. -/
def objectAbove (type self : Datum) : Eval Datum := do
  if !(← isType type) then
    fault (.typeMisuse ("super() argument 1 must be a type, not ".toList ++ (← typeName type)))
  else
    let isBelow ← if ← isType self then isKindOf self type else pure false
    if isBelow || (← isKindOf (← typeOf self) type) then add (.above type self)
    else
      fault (.typeMisuse
        "super(type, obj): obj must be an instance or subtype of type".toList)

/-- A call of a type that stands for things that cannot be made. -/
def callOtherType (name : Text) (ds : List Datum) (named : List (Text × Datum)) : Eval Datum := do
  let n := ds.length + named.length
  match String.ofList name with
  | "NoneType" =>
    if n = 0 then return .none else wrongArguments "NoneType takes no arguments".toList
  | "function" =>
    match ds with
    | code :: _ =>
      wrongArguments ("function() argument 'code' must be code, not ".toList ++ (← typeName code))
    | [] => wrongArguments "function() missing required argument 'code' (pos 1)".toList
  | "module" =>
    wrongArguments ("module() takes at most 2 arguments (".toList ++ Text.ofNat n ++ " given)".toList)
  | "method" => wrongArguments ("method expected 2 arguments, got ".toList ++ Text.ofNat n)
  | _ => wrongArguments ("cannot create '".toList ++ name ++ "' instances".toList)

/-- The types that go through collections once. -/
def iteratorTypes : List String := ["enumerate", "filter", "map", "reversed", "zip"]

/-- The types whose objects only arise on their own. -/
def unmakeableTypes : List String :=
  ["NoneType", "builtin_function_or_method", "function", "generator", "method", "module"]

/-- A call of a standard type. -/
def callType (call : Caller) (name : Text) (ds : List Datum)
    (named : List (Text × Datum)) : Eval Datum := do
  let type := String.ofList name
  if name = baseName then construct call (.type name) ds named
  else if type = "type" then
    match ds, named with
    | [d], [] => typeOf d
    | ds, named => classFrom call ds named
  else if type = "super" then
    match ds with
    | [t, self] => objectAbove t self
    | _ => fault (.raised "RuntimeError".toList "super(): no arguments".toList)
  else if iteratorTypes.contains type then makeIterator call name ds named
  else if unmakeableTypes.contains type then callOtherType name ds named
  else if (Datum.moduleOfType? name).isSome then
    fault (.notImplemented ("cells do not make objects of type ".toList ++ name))
  else makeStandard call name ds named

end FormulaCube.Run
