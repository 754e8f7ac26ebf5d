import FormulaCube.World.Basic

/-!
# Types and what they extend

Every type stands in a line: first itself, then all that it extends, what is nearer before what is
farther. What a type has under a name is what the first one in its line has.

* `exceptionKinds` — the standard kinds of exceptions, and what each is a kind of.
* `lineOf` — the line of a type; `mergedLines` makes one line of several.
* `typeOf`, `isKindOf` — the type of something, and whether a type extends another one.
* `inheritedMember?` — what a type has under a name.
* `coreOf` — what an object holds of the standard type that its class extends.
-/

namespace FormulaCube.Run

open Eval

/-! ## Standard types -/

/-- The kinds of exceptions below each kind. -/
def exceptionKinds : List (String × List String) :=
  [("BaseException", ["Exception", "GeneratorExit", "KeyboardInterrupt", "SystemExit"]),
    ("Exception", ["ArithmeticError", "AssertionError", "AttributeError", "BufferError", "EOFError",
      "ImportError", "LookupError", "MemoryError", "NameError", "OSError", "ReferenceError",
      "RuntimeError", "StopAsyncIteration", "StopIteration", "SyntaxError", "SystemError",
      "TypeError", "ValueError", "Warning"]),
    ("ArithmeticError", ["FloatingPointError", "OverflowError", "ZeroDivisionError"]),
    ("ImportError", ["ModuleNotFoundError"]),
    ("LookupError", ["IndexError", "KeyError"]),
    ("NameError", ["UnboundLocalError"]),
    ("OSError", ["BlockingIOError", "ChildProcessError", "ConnectionError", "FileExistsError",
      "FileNotFoundError", "InterruptedError", "IsADirectoryError", "NotADirectoryError",
      "PermissionError", "ProcessLookupError", "TimeoutError"]),
    ("ConnectionError", ["BrokenPipeError", "ConnectionAbortedError", "ConnectionRefusedError",
      "ConnectionResetError"]),
    ("RuntimeError", ["NotImplementedError", "RecursionError"]),
    ("SyntaxError", ["IndentationError"]),
    ("IndentationError", ["TabError"]),
    ("ValueError", ["UnicodeError"]),
    ("UnicodeError", ["UnicodeDecodeError", "UnicodeEncodeError", "UnicodeTranslateError"]),
    ("Warning", ["BytesWarning", "DeprecationWarning", "EncodingWarning", "FutureWarning",
      "ImportWarning", "PendingDeprecationWarning", "ResourceWarning", "RuntimeWarning",
      "SyntaxWarning", "UnicodeWarning", "UserWarning"])]

/-- The kind of exceptions that a kind belongs to. -/
def exceptionBase? (kind : Text) : Option Text :=
  (exceptionKinds.find? fun entry => entry.2.any fun name => name.toList = kind).map (·.1.toList)

/-- Whether a name is that of a kind of exceptions. -/
def isExceptionKind (name : Text) : Bool :=
  name = "BaseException".toList || (exceptionBase? name).isSome

/-- How many kinds of exceptions stand above one at most. -/
def kindLimit : Nat := 8

/-- A kind of exceptions and all kinds that it belongs to, from itself up, at most `depth` of them. -/
def kindsFrom : (depth : Nat) → (kind : Text) → List Text
  | 0, kind => [kind]
  | depth + 1, kind =>
    match exceptionBase? kind with
    | some base => kind :: kindsFrom depth base
    | none => [kind]

/-- The type that all others extend. -/
def objectName : Text := "object".toList

/-- A standard type and all that it extends, from itself up. -/
def standardLine (name : Text) : List Text :=
  if name = objectName then [objectName]
  else if name = "bool".toList then [name, "int".toList, objectName]
  else kindsFrom kindLimit name ++ [objectName]

/-- What is given for an operation that does not apply. -/
def notApplicable : Datum := .plain "NotImplementedType".toList "NotImplemented".toList

/-- Whether an operation does not apply. -/
def isNotApplicable (d : Datum) : Bool := d.identical notApplicable

/-! ## Lines -/

/-- The class at an address, if there is one. -/
def classAt? (d : Datum) : Eval (Option ClassRecord) := do
  match d with
  | .ref address =>
    match ← read address with
    | .classRecord c => return some c
    | _ => return none
  | _ => return none

/-- The line of a type: itself, and all that it extends. -/
def lineOf (type : Datum) : Eval (List Datum) := do
  match type with
  | .type name => return (standardLine name).map .type
  | type =>
    match ← classAt? type with
    | some c => return type :: c.ancestors
    | none => return []

/-- The name of a type. -/
def nameOfType (type : Datum) : Eval Text := return type.className (← get).memory

/-- The name of a type with those of what it is defined in. -/
def pathOfType (type : Datum) : Eval Text := do
  match ← classAt? type with
  | some c => return c.path
  | none => return type.className (← get).memory

/-- Whether something is a type. -/
def isType (d : Datum) : Eval Bool := do
  match d with
  | .type _ => return true
  | d => return (← classAt? d).isSome

/-- The type of something. -/
def typeOf (d : Datum) : Eval Datum := do
  match d with
  | .ref address =>
    match ← read address with
    | .instance type _ _ => return type
    | .exception type _ _ => return type
    | _ => return .type (← typeName d)
  | d => return .type (← typeName d)

/-- Whether a type is another one or extends it. -/
def isKindOf (type kind : Datum) : Eval Bool := do
  return (← lineOf type).any (·.identical kind)

/-- Whether something is an exception, or a kind of exceptions. -/
def isExceptionType (type : Datum) : Eval Bool := isKindOf type (.type "BaseException".toList)

/-- Whether the first of some lines goes on with something that stands farther back in none of them. -/
def mayComeNext (lines : List (List Datum)) (d : Datum) : Bool :=
  lines.all fun line => !(line.tail.any (·.identical d))

/-- One line of several, in which everything stands in the order of all of them: at each step the first
beginning is taken that stands farther back in none. The heads of the lines are given back where no
such line exists. -/
def mergedLines : (bound : Nat) → List (List Datum) → Except (List Datum) (List Datum)
  | 0, _ => .ok []
  | bound + 1, lines =>
    let lines := lines.filter (!·.isEmpty)
    let heads := lines.filterMap (·.head?)
    match heads.find? (mayComeNext lines) with
    | some d =>
      (mergedLines bound (lines.map fun line =>
        if line.head?.any (·.identical d) then line.tail else line)).map (d :: ·)
    | none => if heads.isEmpty then .ok [] else .error heads

/-- What a class stands before that extends these, one after the other. -/
def ancestorsFrom (bases : List Datum) : Eval (Except (List Datum) (List Datum)) := do
  let lines ← bases.mapM lineOf
  let lines := lines ++ [bases]
  return mergedLines lines.flatten.length lines

/-! ## Members -/

/-- The names of what every object has. -/
def objectMembers : List String :=
  ["__delattr__", "__dir__", "__eq__", "__format__", "__ge__", "__getattribute__", "__getstate__",
    "__gt__", "__hash__", "__init__", "__init_subclass__", "__le__", "__lt__", "__ne__", "__new__",
    "__reduce__", "__reduce_ex__", "__repr__", "__setattr__", "__sizeof__", "__str__",
    "__subclasshook__"]

/-- The names of comparisons, which every standard type has of its own. -/
def comparisonMembers : List String :=
  ["__eq__", "__ge__", "__gt__", "__le__", "__lt__", "__ne__", "__hash__", "__repr__", "__new__"]

/-- The names of the operations on integers. -/
def integerMembers : List String :=
  ["__abs__", "__add__", "__and__", "__bool__", "__ceil__", "__divmod__", "__float__", "__floor__",
    "__floordiv__", "__index__", "__int__", "__invert__", "__lshift__", "__mod__", "__mul__", "__neg__",
    "__or__", "__pos__", "__pow__", "__radd__", "__rand__", "__rdivmod__", "__rfloordiv__",
    "__rlshift__", "__rmod__", "__rmul__", "__ror__", "__round__", "__rpow__", "__rrshift__",
    "__rshift__", "__rsub__", "__rtruediv__", "__rxor__", "__sub__", "__truediv__", "__trunc__",
    "__xor__", "bit_count", "bit_length", "conjugate"]

/-- The names of the operations on doubles. -/
def doubleMembers : List String :=
  ["__abs__", "__add__", "__bool__", "__ceil__", "__divmod__", "__float__", "__floor__",
    "__floordiv__", "__int__", "__mod__", "__mul__", "__neg__", "__pos__", "__pow__", "__radd__",
    "__rdivmod__", "__rfloordiv__", "__rmod__", "__rmul__", "__round__", "__rpow__", "__rsub__",
    "__rtruediv__", "__sub__", "__truediv__", "__trunc__", "conjugate", "is_integer"]

/-- The names of what each standard type has beside what every object has. -/
def standardMembers : List (String × List String) :=
  [("object", objectMembers),
    ("int", comparisonMembers ++ integerMembers),
    ("bool", ["__and__", "__new__", "__or__", "__rand__", "__repr__", "__ror__", "__rxor__",
      "__xor__"]),
    ("float", comparisonMembers ++ doubleMembers),
    ("str", comparisonMembers ++ ["__add__", "__contains__", "__getitem__", "__iter__", "__len__",
      "__mod__", "__mul__", "__rmod__", "__rmul__", "__str__", "capitalize", "count", "endswith",
      "find", "index", "isalpha", "isdigit", "islower", "isspace", "isupper", "join", "lower",
      "lstrip", "replace", "rfind", "rindex", "rstrip", "split", "splitlines", "startswith", "strip",
      "upper"]),
    ("bytes", comparisonMembers ++ ["__add__", "__contains__", "__getitem__", "__iter__", "__len__",
      "__mul__"]),
    ("list", comparisonMembers ++ ["__add__", "__contains__", "__delitem__", "__getitem__",
      "__iadd__", "__imul__", "__init__", "__iter__", "__len__", "__mul__", "__reversed__",
      "__rmul__", "__setitem__", "append", "clear", "copy", "count", "extend", "index", "insert",
      "pop", "remove", "reverse", "sort"]),
    ("tuple", comparisonMembers ++ ["__add__", "__contains__", "__getitem__", "__iter__", "__len__",
      "__mul__", "__rmul__", "count", "index"]),
    ("dict", comparisonMembers ++ ["__contains__", "__delitem__", "__getitem__", "__init__",
      "__ior__", "__iter__", "__len__", "__or__", "__ror__", "__setitem__", "clear", "copy", "get",
      "items", "keys", "pop", "popitem", "setdefault", "update", "values"]),
    ("set", comparisonMembers ++ ["__and__", "__contains__", "__init__", "__iter__", "__len__",
      "__or__", "__sub__", "__xor__", "add", "clear", "copy", "difference", "discard",
      "intersection", "pop", "remove", "union", "update"]),
    ("NoneType", ["__bool__", "__new__", "__repr__"]),
    ("range", comparisonMembers ++ ["__bool__", "__contains__", "__getitem__", "__iter__", "__len__",
      "count", "index", "start", "step", "stop"]),
    ("BaseException", ["__init__", "__new__", "__repr__", "__str__", "__setstate__", "add_note",
      "with_traceback"]),
    ("KeyError", ["__str__"]),
    ("OSError", ["__init__", "__new__", "__str__"]),
    ("ImportError", ["__init__", "__str__"]),
    ("SyntaxError", ["__init__", "__str__"]),
    ("StopIteration", ["__init__"]),
    ("SystemExit", ["__init__"]),
    ("dict_keys", ["__and__", "__contains__", "__eq__", "__iter__", "__len__", "__or__", "__repr__",
      "__sub__", "__xor__"]),
    ("dict_values", ["__iter__", "__len__", "__repr__"]),
    ("dict_items", ["__and__", "__contains__", "__eq__", "__iter__", "__len__", "__or__", "__repr__",
      "__sub__", "__xor__"]),
    ("function", ["__call__", "__get__", "__repr__"]),
    ("method", ["__call__", "__eq__", "__get__", "__hash__", "__repr__"]),
    ("builtin_function_or_method", ["__call__", "__eq__", "__hash__", "__repr__"]),
    ("type", ["__call__", "__init__", "__new__", "__repr__", "mro"]),
    ("module", ["__init__", "__repr__"]),
    ("ExecutionShim", ["__init__", "_find_cube", "cube_name", "from_bindings", "get_fixed_cell",
      "get_relative_cell", "get_relative_cube_cell", "run"]),
    ("StackFrame", ["__eq__", "__init__", "__repr__"]),
    ("Cube", ["__init__", "__repr__", "find_cell", "get_cell", "remove_cell", "set_cell"]),
    ("CubeRegistry", ["__contains__", "__init__", "__len__", "clear", "dependency_graph", "get_cube",
      "list_cubes", "names", "register", "remove"]),
    ("Cell", ["__init__", "__repr__", "compile_error", "compiled_artifact", "identity", "source",
      "state", "version"]),
    ("CellCompiler", ["__init__", "references"])]

/-- Whether what is of a standard type cannot be looked up. -/
def isUnhashableType (type : Text) : Bool :=
  ["dict", "list", "set", "slice"].any fun name => name.toList = type

/-- Whether a standard type has something of its own under a name. -/
def hasStandardMember (type name : Text) : Bool :=
  Datum.isComputedMember type name ||
    standardMembers.any fun entry => entry.1.toList = type && entry.2.any fun m => m.toList = name

/-- What a type has of its own under a name. -/
def ownMember? (type : Datum) (name : Text) : Eval (Option Datum) := do
  match type with
  | .type t =>
    if isUnhashableType t && name = "__hash__".toList then return some .none
    else return if hasStandardMember t name then some (.member t name) else none
  | type => return (← classAt? type).bind fun c => c.members.lookup name

/-- What the first type in a line has under a name. -/
def memberAlong (name : Text) (line : List Datum) : Eval (Option Datum) :=
  line.findSomeM? fun type => ownMember? type name

/-- What a type has under a name, of its own or from what it extends. -/
def inheritedMember? (type : Datum) (name : Text) : Eval (Option Datum) := do
  memberAlong name (← lineOf type)

/-! ## Cores -/

/-- Standard types whose objects hold something of their own, in a way that does not go together with
what others hold. -/
def solidTypes : List String :=
  ["AttributeError", "BaseException", "ImportError", "NameError", "OSError", "StopIteration",
    "SyntaxError", "SystemExit", "UnicodeDecodeError", "UnicodeEncodeError", "UnicodeTranslateError",
    "classmethod", "dict", "enumerate", "filter", "float", "int", "list", "map", "property",
    "reversed", "set", "staticmethod", "str", "super", "tuple", "type", "zip"]

/-- The first type in the line of a type whose objects hold something of their own. -/
def solidBase (type : Datum) : Eval Datum := do
  let isSolid : Datum → Bool
    | .type name => solidTypes.any fun s => s.toList = name
    | _ => false
  return ((← lineOf type).find? isSolid).getD (.type objectName)

/-- What an object holds of the standard type that its class extends; anything else is itself. -/
def coreOf (d : Datum) : Eval Datum := do
  match d with
  | .ref address =>
    match ← read address with
    | .instance _ .none _ => return d
    | .instance _ core _ => return core
    | _ => return d
  | d => return d

end FormulaCube.Run
