import FormulaCube.Code.Tree
import FormulaCube.Value.Order

/-!
# What running cells hold

Cells share dictionaries and lists and change them in place, so these live in a memory and are held
by their address. Everything that cannot be changed is held directly.

* `Datum` — what a variable or an entry holds.
* `Object` — what lives in the memory.
* `Memory` — the memory: objects are added at the end and changed in place.
-/

namespace FormulaCube

/-- Numbers, texts and tuples that are equal may still have come about at different times; then their
marks differ. The mark is zero where there is only one, as of small integers. -/
abbrev Mark := Nat

/-- What a variable or an entry holds. -/
inductive Datum where
  /-- No value. -/
  | none
  /-- A truth value. -/
  | bool (b : Bool)
  /-- An integer of any size. -/
  | int (i : Int) (mark : Mark)
  /-- A double-precision number. -/
  | float (x : Binary64) (mark : Mark)
  /-- A text. -/
  | str (t : Text) (mark : Mark)
  /-- A tuple. -/
  | tuple (items : List Datum) (mark : Mark)
  /-- Bytes. -/
  | bytes (data : List UInt8)
  /-- An object in the memory, by its address. -/
  | ref (address : Nat)
  /-- A cell, by its number. -/
  | cell (number : Nat)
  /-- A cube, by its number. -/
  | cube (number : Nat)
  /-- The registry of cubes. -/
  | registry
  /-- A compiler, by its number. -/
  | compiler (number : Nat)
  /-- The settings of a compiler, by its number. -/
  | settings (number : Nat)
  /-- A function that is always there. -/
  | builtin (name : Text)
  /-- A type that is always there. -/
  | type (name : Text)
  /-- What such a type has under a name. -/
  | member (type name : Text)
  /-- The integers from `start` up or down to before `stop`. -/
  | range (start stop step : Int)
  /-- Any other thing that cannot be changed: the name of its type, what it is looked up as, and how it is
  shown, or its fault when it is. Its type says when it is equal to something: if both are looked up as
  one. -/
  | other (type : Text) (key : Key) (shown : Except Fault Text)
  deriving Repr, Inhabited

/-- A function that the source of a cell defines. -/
structure Procedure where
  /-- Its name. -/
  name : Text
  /-- Its name with those of what it is defined in. -/
  path : Text
  /-- Its parameters. -/
  parameters : List (Code.Parameter Code.Expr)
  /-- The values of parameters for which no argument is given. -/
  defaults : List (Text × Datum)
  /-- What it does. -/
  body : List Code.Stmt
  /-- Its own names. -/
  locals : List Text
  /-- The variables of the functions around it, from the inside. -/
  enclosing : List Nat
  /-- The variables of its module. -/
  module : Nat
  /-- The names that it takes from its module, whatever the functions around it have. -/
  globals : List Text
  /-- The name of the class around it, by which names of its own are told from those of other classes. -/
  owner : Option Text
  /-- The mark of the constants of its module. -/
  constants : Mark
  /-- What a call gives at once, instead of running it: something to be gone through or awaited. -/
  deferred : Option Text
  /-- Where its attributes are kept. -/
  attributes : Nat
  deriving Inhabited

/-- A class that the source of a cell defines. -/
structure ClassRecord where
  /-- Its name. -/
  name : Text
  /-- Its name with those of what it is defined in. -/
  path : Text
  /-- What it extends. -/
  bases : List Datum
  /-- All that it extends, directly or through others: what is nearer comes first. -/
  ancestors : List Datum
  /-- Its methods and values. -/
  members : List (Text × Datum)
  deriving Inhabited

/-- What a view of a dictionary shows of it. -/
inductive DictPart where
  | keys | values | items
  deriving DecidableEq, Repr, Inhabited

/-- What lives in the memory. -/
inductive Object where
  /-- A list. -/
  | list (items : List Datum)
  /-- A dictionary. -/
  | dict (entries : Entries Datum Datum)
  /-- A set. -/
  | set (members : Entries Datum Unit)
  /-- One level of nested evaluation: the cube and the input it began with. -/
  | frame (cube coordinate : Datum)
  /-- The variables of a function, a class body or a module; those of a function are there before they
  have values. -/
  | variables (values : List (Text × Option Datum))
  /-- A function. -/
  | procedure (p : Procedure)
  /-- A function with the object it is a method of. -/
  | bound (function self : Datum)
  /-- A class. -/
  | classRecord (c : ClassRecord)
  /-- An object of a class. Where the class extends a standard type, the object holds something of that
  type; otherwise it holds nothing. Its attributes are kept in a dictionary at an address. -/
  | instance (type core : Datum) (attributes : Nat)
  /-- An exception: its type, what it was made with, and where its attributes are kept. -/
  | exception (type : Datum) (arguments : List Datum) (attributes : Nat)
  /-- What the classes before a class in its line have, for an object. -/
  | above (type self : Datum)
  /-- The bounds and the step of a part of a sequence. -/
  | slice (lower upper step : Datum)
  /-- A function that is no ordinary method of its class: `kind` is the name of a type that says how it is
  called. -/
  | wrapped (kind : Text) (function : Datum)
  /-- A module. -/
  | module (name : Text) (attributes : List (Text × Datum))
  /-- What is left of something that is gone through once, with the name of its type. -/
  | iterator (type : Text) (items : List Datum)
  /-- What a dictionary holds, as it is at any time. -/
  | dictView (part : DictPart) (address : Nat)
  deriving Inhabited

/-- The objects by their addresses. -/
structure Memory where
  /-- The objects. -/
  objects : Array Object
  /-- The mark that is given next. -/
  marks : Mark
  deriving Inhabited

namespace Memory

/-- A memory with these objects. -/
def ofObjects (objects : List Object) : Memory := ⟨objects.toArray, 1⟩

/-- The object at an address. -/
def read (m : Memory) (address : Nat) : Option Object := m.objects[address]?

/-- The memory with a new object, and its address. -/
def add (m : Memory) (object : Object) : Nat × Memory :=
  (m.objects.size, { m with objects := m.objects.push object })

/-- The memory with another object at an address. -/
def write (m : Memory) (address : Nat) (object : Object) : Memory :=
  { m with objects := m.objects.setIfInBounds address object }

/-- A mark that was not given before. -/
def fresh (m : Memory) : Mark × Memory := (m.marks, { m with marks := m.marks + 1 })

/-- A new object is found at its address. -/
theorem read_add_self (m : Memory) (object : Object) :
    (m.add object).2.read (m.add object).1 = some object := by
  simp [add, read]

/-- Adding an object leaves the others alone. -/
theorem read_add_of_lt (m : Memory) (object : Object) {address : Nat}
    (h : address < m.objects.size) : (m.add object).2.read address = m.read address := by
  simp [add, read, Array.getElem?_push, Nat.ne_of_lt h]

/-- A changed object is found at its address. -/
theorem read_write_self (m : Memory) (object : Object) {address : Nat}
    (h : address < m.objects.size) : (m.write address object).read address = some object := by
  simp [write, read, h]

/-- Changing an object leaves the others alone. -/
theorem read_write_of_ne (m : Memory) (object : Object) {address other : Nat}
    (h : address ≠ other) : (m.write address object).read other = m.read other := by
  simp [write, read, h]

/-- Changing an object adds none. -/
theorem size_write (m : Memory) (address : Nat) (object : Object) :
    (m.write address object).objects.size = m.objects.size := by
  simp [write]

end Memory

namespace Datum

/-! ## Marks -/

/-- An integer; there is only one of each small one. -/
def ofInt (i : Int) (mark : Mark) : Datum := .int i (if -5 ≤ i && i ≤ 256 then 0 else mark)

/-- A text; there is only one empty text, and one of each of the first characters. -/
def ofText (t : Text) (mark : Mark) : Datum :=
  .str t (match t with
    | [] => 0
    | [c] => if c.toNat < 256 then 0 else mark
    | _ => mark)

/-- A tuple; there is only one empty one. -/
def ofItems (items : List Datum) (mark : Mark) : Datum :=
  .tuple items (if items.isEmpty then 0 else mark)

/-- A text of which there is only one. -/
def word (t : Text) : Datum := .str t 0

mutual

/-- Whether two things are one and the same. -/
def identical : Datum → Datum → Bool
  | .none, .none => true
  | .bool a, .bool b => a == b
  | .int i a, .int j b => i == j && a == b
  | .float x a, .float y b => x == y && a == b
  | .str s a, .str t b => a == b && s == t
  | .tuple items a, .tuple others b => a == b && identicalAll items others
  | .bytes s, .bytes t => s == t
  | .ref a, .ref b => a == b
  | .cell a, .cell b => a == b
  | .cube a, .cube b => a == b
  | .registry, .registry => true
  | .compiler a, .compiler b => a == b
  | .settings a, .settings b => a == b
  | .builtin a, .builtin b => a == b
  | .type a, .type b => a == b
  | .member s a, .member t b => s == t && a == b
  | .range a b c, .range a' b' c' => a == a' && b == b' && c == c'
  | .other s k a, .other t l b => s == t && k == l && a == b
  | _, _ => false

/-- Whether the members of two sequences are the same ones. -/
def identicalAll : List Datum → List Datum → Bool
  | [], [] => true
  | a :: items, b :: others => identical a b && identicalAll items others
  | _, _ => false

end

/-! ## Equality -/

/-- How many integers there are in a range. -/
def rangeLength (start stop step : Int) : Nat :=
  (if 0 < step then (stop - start + step - 1).fdiv step
  else (start - stop - step - 1).fdiv (-step)).toNat

/-- The members of a range that have to be equal for the range to be. -/
def rangeShape (start stop step : Int) : List Int :=
  match rangeLength start stop step with
  | 0 => [0]
  | 1 => [1, start]
  | n => [(n : Int), start, step]

/-- What is held as the value of a number, if it is one. -/
def numberValue? : Datum → Option Value
  | .bool b => some (.int (if b then 1 else 0))
  | .int i _ => some (.int i)
  | .float x _ => some (.float x)
  | _ => Option.none

/-- Equality of numbers. -/
def equalNumbers (a b : Value) : Bool :=
  match Value.compareNumbers? a b with
  | some (some .eq) => true
  | _ => false

mutual

/-- The key of what equals itself, whatever there is in the memory: an object is looked up as itself. -/
def plainKey : Datum → Key
  | .none => .none
  | .bool b => Key.ofBool b
  | .int i _ => .int i
  | .float x _ => Key.ofFloat x
  | .str t _ => .str t
  | .tuple items _ => .tuple (plainKeys items)
  | .bytes data => .tuple (.object 10 0 :: data.map fun b => .int b.toNat)
  | .ref address => .object 0 address
  | .cell number => .object 1 number
  | .cube number => .object 2 number
  | .registry => .object 3 0
  | .compiler number => .object 11 number
  | .settings number => .object 12 number
  | .builtin name => .tuple [.object 4 0, .str name]
  | .type name => .tuple [.object 5 0, .str name]
  | .member owner name => .tuple [.object 6 0, .str owner, .str name]
  | .range start stop step => .tuple (.object 7 0 :: (rangeShape start stop step).map .int)
  | .other _ k _ => k

/-- The keys of several things that equal themselves. -/
def plainKeys : List Datum → List Key
  | [] => []
  | item :: items => plainKey item :: plainKeys items

end

mutual

/-- Equality, where `held` compares what is held by an address with anything. Things whose type says
what they equal are compared by their keys. Numbers are compared by what they stand for, texts, bytes and
ranges by what they are made of, and tuples by their items, which also count as equal where they are the
same; any other thing equals only itself. -/
def equalBy (held : Datum → Datum → Bool) : Datum → Datum → Bool
  | .other _ k _, b => k.same b.plainKey
  | a, .other _ k _ => a.plainKey.same k
  | .ref a, b => held (.ref a) b
  | a, .ref b => held a (.ref b)
  | .str s _, .str t _ => s == t
  | .tuple items _, .tuple others _ => equalAllBy held items others
  | .range a b c, .range a' b' c' => rangeShape a b c == rangeShape a' b' c'
  | a, b =>
    match a.numberValue?, b.numberValue? with
    | some x, some y => equalNumbers x y
    | _, _ => a.identical b

/-- Equality of sequences. -/
def equalAllBy (held : Datum → Datum → Bool) : List Datum → List Datum → Bool
  | [], [] => true
  | a :: items, b :: others => (a.identical b || equalBy held a b) && equalAllBy held items others
  | _, _ => false

end

/-! ## Types -/

/-- The types that cells and cubes bring along, each with the module it belongs to. -/
def ownTypes : List (String × String) :=
  [("ExecutionShim", "cubecell.shim"), ("StackFrame", "cubecell.shim"), ("Cube", "cubecell.cube"),
    ("CubeRegistry", "cubecell.registry"), ("Cell", "cubecell.cell"),
    ("CellCompiler", "cubecell.compiler"), ("CompilerConfig", "cubecell.config")]

/-- The module that one of these types belongs to. -/
def moduleOfType? (name : Text) : Option Text :=
  (ownTypes.lookup (String.ofList name)).map String.toList

/-- The names of methods with special names that are ordinary methods all the same. -/
def plainSpecialNames : List String :=
  ["__ceil__", "__class_getitem__", "__dir__", "__floor__", "__format__", "__getnewargs__",
    "__getstate__", "__init_subclass__", "__new__", "__reduce__", "__reduce_ex__", "__reversed__",
    "__round__", "__setstate__", "__sizeof__", "__subclasshook__", "__trunc__"]

/-- Operations of the language that a type has as ordinary methods all the same. -/
def plainOperations : List (String × String) :=
  [("list", "__getitem__"), ("dict", "__getitem__"), ("dict", "__contains__"),
    ("set", "__contains__")]

/-- Whether a name has two underscores on both sides. -/
def isSpecialName (name : Text) : Bool :=
  "__".toList.isPrefixOf name && "__".toList.isSuffixOf name && 4 < name.length

/-- Whether a method of a standard type stands for an operation of the language. -/
def isSlot (owner name : Text) : Bool :=
  isSpecialName name && !plainSpecialNames.contains (String.ofList name) &&
    !plainOperations.contains (String.ofList owner, String.ofList name)

/-- The name of a class, as the name of the type of its objects. -/
def className (m : Memory) : Datum → Text
  | .type name => name
  | .ref address =>
    match m.read address with
    | some (.classRecord c) => c.name
    | _ => "type".toList
  | _ => "object".toList

/-- The name of the type of a method that belongs to an object. -/
def boundTypeName : Datum → Text
  | .member owner name =>
    (if (moduleOfType? owner).isSome then "method"
    else if isSlot owner name then "method-wrapper"
    else "builtin_function_or_method").toList
  | .builtin _ => "builtin_function_or_method".toList
  | _ => "method".toList

/-- What objects of standard types compute themselves, by the names of the types. -/
def computedMembers : List (String × List String) :=
  [("int", ["denominator", "imag", "numerator", "real"]), ("float", ["imag", "real"]),
    ("BaseException", ["__cause__", "__context__", "__traceback__", "args"])]

/-- Whether objects of a standard type compute something themselves. -/
def isComputedMember (type name : Text) : Bool :=
  computedMembers.any fun entry => entry.1.toList = type && entry.2.any fun m => m.toList = name

/-- The name of the type of what a type has under a name. -/
def memberTypeName (type name : Text) : Text :=
  (if (moduleOfType? type).isSome then
    if ["cube_name", "names", "identity", "source", "state", "version"].any (·.toList = name) then
      "property"
    else "function"
  else if isComputedMember type name then "getset_descriptor"
  else if name = "__new__".toList then "builtin_function_or_method"
  else if isSlot type name then "wrapper_descriptor"
  else "method_descriptor").toList

/-- The name of the type of a view of a dictionary. -/
def viewTypeName : DictPart → Text
  | .keys => "dict_keys".toList
  | .values => "dict_values".toList
  | .items => "dict_items".toList

/-- The name of the type of an object in the memory. -/
def objectTypeName (m : Memory) : Object → Text
  | .list _ => "list".toList
  | .dict _ => "dict".toList
  | .set _ => "set".toList
  | .frame .. => "StackFrame".toList
  | .variables _ => "dict".toList
  | .procedure _ => "function".toList
  | .bound function _ => boundTypeName function
  | .classRecord _ => "type".toList
  | .instance cls _ _ => cls.className m
  | .exception cls _ _ => cls.className m
  | .above .. => "super".toList
  | .slice .. => "slice".toList
  | .wrapped kind _ => kind
  | .module .. => "module".toList
  | .iterator name _ => name
  | .dictView part _ => viewTypeName part

/-- The name of the type of what is held. -/
def typeName (m : Memory) : Datum → Text
  | .none => "NoneType".toList
  | .bool _ => "bool".toList
  | .int .. => "int".toList
  | .float .. => "float".toList
  | .str .. => "str".toList
  | .tuple .. => "tuple".toList
  | .bytes _ => "bytes".toList
  | .ref address => ((m.read address).map (objectTypeName m)).getD "object".toList
  | .cell _ => "Cell".toList
  | .cube _ => "Cube".toList
  | .registry => "CubeRegistry".toList
  | .compiler _ => "CellCompiler".toList
  | .settings _ => "CompilerConfig".toList
  | .builtin _ => "builtin_function_or_method".toList
  | .type name => if name = "CompilerConfig".toList then "ModelMetaclass".toList else "type".toList
  | .member owner name => memberTypeName owner name
  | .range .. => "range".toList
  | .other name _ _ => name

/-! ## Keys -/

/-- What a class or one that it extends has under a name. -/
def inherited? (m : Memory) (type : Datum) (name : Text) : Option Datum :=
  let own (type : Datum) : Option Datum :=
    match type with
    | .ref address =>
      match m.read address with
      | some (.classRecord c) => c.members.lookup name
      | _ => Option.none
    | _ => Option.none
  let ancestors :=
    match type with
    | .ref address =>
      match m.read address with
      | some (.classRecord c) => c.ancestors
      | _ => []
    | _ => []
  (type :: ancestors).findSome? own

/-- Whether the objects of a class can be looked up. A class that says when its objects are equal, but
not how they are looked up, has no value there. -/
def isHashableClass (m : Memory) (type : Datum) : Bool :=
  match inherited? m type "__hash__".toList with
  | some .none => false
  | _ => true

/-- Whether an object can be looked up: those that can be changed cannot. -/
def isHashable (m : Memory) : Object → Bool
  | .list _ => false
  | .dict _ => false
  | .set _ => false
  | .frame .. => false
  | .variables _ => false
  | .dictView .items _ => false
  | .dictView .keys _ => false
  | .slice .. => false
  | .instance cls core _ =>
    isHashableClass m cls && (match core with
      | .ref _ => false
      | _ => true)
  | .exception cls _ _ => isHashableClass m cls
  | _ => true

/-- The key of a double. What is not a number is looked up as itself. -/
def floatKey (x : Binary64) (mark : Mark) : Key :=
  if x.isNan then .object 9 mark else Key.ofFloat x

/-- The key of something that is looked up as itself. -/
def ownKey : Datum → Key
  | .ref address => .object 0 address
  | .cell number => .object 1 number
  | .cube number => .object 2 number
  | .registry => .object 3 0
  | .compiler number => .object 11 number
  | .settings number => .object 12 number
  | .int i _ => .int i
  | .str t _ => .str t
  | .float x mark => floatKey x mark
  | .builtin name => .tuple [.object 4 0, .str name]
  | .type name => .tuple [.object 5 0, .str name]
  | .member owner name => .tuple [.object 6 0, .str owner, .str name]
  | _ => .none

/-- The key of an object in the memory. A method is looked up by its function and its object, and an
object that holds a number or a text by that. -/
def objectKey (address : Nat) : Object → Key
  | .bound function self => .tuple [.object 13 0, ownKey function, ownKey self]
  | .instance _ .none _ => .object 0 address
  | .instance _ core _ => ownKey core
  | _ => .object 0 address

mutual

/-- The key of what is held; what can be changed has none. -/
def key (m : Memory) : Datum → Except Fault Key
  | .none => .ok .none
  | .bool b => .ok (Key.ofBool b)
  | .int i _ => .ok (.int i)
  | .float x mark => .ok (floatKey x mark)
  | .str t _ => .ok (.str t)
  | .tuple items _ => (keys m items).map .tuple
  | .bytes data => .ok (.tuple (.object 10 0 :: data.map fun b => .int b.toNat))
  | .ref address =>
    match m.read address with
    | some object =>
      if isHashable m object then .ok (objectKey address object)
      else .error (.unhashable (objectTypeName m object))
    | Option.none => .ok (.object 0 address)
  | .cell number => .ok (.object 1 number)
  | .cube number => .ok (.object 2 number)
  | .registry => .ok (.object 3 0)
  | .compiler number => .ok (.object 11 number)
  | .settings number => .ok (.object 12 number)
  | .builtin name => .ok (.tuple [.object 4 0, .str name])
  | .type name => .ok (.tuple [.object 5 0, .str name])
  | .member owner name => .ok (.tuple [.object 6 0, .str owner, .str name])
  | .range start stop step => .ok (.tuple (.object 7 0 :: (rangeShape start stop step).map .int))
  | .other _ k _ => .ok k

/-- The keys of several things. -/
def keys (m : Memory) : List Datum → Except Fault (List Key)
  | [] => .ok []
  | item :: items =>
    match key m item with
    | .error f => .error f
    | .ok k => (keys m items).map (k :: ·)

end

/-- A thing that equals what has the same type and is shown alike. -/
def plain (type shown : Text) : Datum :=
  .other type (.tuple [.object 8 0, .str type, .str shown]) (.ok shown)

/-! ## Values -/

/-- A function that is always there, as it is shown. -/
def builtinText (name : Text) : Text :=
  let shown :=
    match (name.dropWhile (· != '.')) with
    | [] => name
    | _ :: rest => rest
  "<built-in function ".toList ++ shown ++ ['>']

/-- A type that is always there, as it is shown. -/
def typeText (name : Text) : Text :=
  let lead := match moduleOfType? name with
    | some module => module ++ ['.']
    | Option.none => []
  "<class '".toList ++ lead ++ name ++ "'>".toList

/-- What a type has under a name, as it is shown. -/
def memberText (type name : Text) : Text :=
  if (moduleOfType? type).isSome then "<function ".toList ++ type ++ '.' :: (name ++ ['>'])
  else if isComputedMember type name then
    "<attribute '".toList ++ name ++ "' of '".toList ++ type ++ "' objects>".toList
  else if isSlot type name then
    "<slot wrapper '".toList ++ name ++ "' of '".toList ++ type ++ "' objects>".toList
  else "<method '".toList ++ name ++ "' of '".toList ++ type ++ "' objects>".toList

/-- A range, as it is shown. -/
def rangeText (start stop step : Int) : Except Fault Text := do
  let bounds ← ([start, stop] ++ if step = 1 then [] else [step]).mapM decimalText
  return "range(".toList ++ Text.join ", ".toList bounds ++ [')']

/-- The text of something of which only the type matters. -/
def plainText (type : Text) : Text := '<' :: (type ++ " object>".toList)

mutual

/-- What is held, as a value, where the values of references, cells and cubes are given. -/
def viewWith (ref cell cube : Nat → Value) : Datum → Value
  | .none => .none
  | .bool b => .bool b
  | .int i _ => .int i
  | .float x _ => .float x
  | .str t _ => .str t
  | .tuple items _ => .tuple (viewAllWith ref cell cube items)
  | .bytes data => .bytes data
  | .ref address => ref address
  | .cell number => cell number
  | .cube number => cube number
  | .registry =>
    .object "CubeRegistry".toList (.ok (plainText "cubecell.registry.CubeRegistry".toList))
  | .compiler _ =>
    .object "CellCompiler".toList (.ok (plainText "cubecell.compiler.CellCompiler".toList))
  | .settings _ => .object "CompilerConfig".toList (.ok (plainText "CompilerConfig".toList))
  | .builtin name => .object "builtin_function_or_method".toList (.ok (builtinText name))
  | .type name => .object "type".toList (.ok (typeText name))
  | .member owner name => .object (memberTypeName owner name) (.ok (memberText owner name))
  | .range start stop step => .object "range".toList (rangeText start stop step)
  | .other name _ shown => .object name shown

/-- Several things that are held, as values. -/
def viewAllWith (ref cell cube : Nat → Value) : List Datum → List Value
  | [] => []
  | item :: items => viewWith ref cell cube item :: viewAllWith ref cell cube items

end

end Datum

end FormulaCube
