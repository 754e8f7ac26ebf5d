import FormulaCube.Run.Arguments
import FormulaCube.Run.Operators

/-!
# What is always there

The functions and types that every cell can name without importing anything.

* `standard?` — what a name stands for.
* `onlyArgument`, `boundedArguments`, `optionsOf` — arguments of standard functions, with the faults of
  those that do not fit.
* `makeStandard` — something of a standard type.
-/

namespace FormulaCube.Run

open Eval Code

/-! ## Names -/

/-- The standard functions. -/
def functionNames : List String :=
  ["abs", "all", "any", "bin", "callable", "chr", "divmod", "getattr", "hasattr", "hash", "hex",
    "input", "isinstance", "issubclass", "iter", "len", "max", "min", "next", "oct", "ord", "pow",
    "print", "repr", "round", "setattr", "sorted", "sum"]

/-- The standard types, apart from the kinds of exceptions. -/
def typeNames : List String :=
  ["bool", "classmethod", "dict", "enumerate", "filter", "float", "int", "list", "map", "object",
    "property", "range", "reversed", "set", "slice", "staticmethod", "str", "super", "tuple", "type",
    "zip"]

/-- Values that have names of their own. -/
def namedValues : List (String × Datum) :=
  [("NotImplemented", notApplicable), ("Ellipsis", .plain "ellipsis".toList "Ellipsis".toList),
    ("__debug__", .bool true), ("EnvironmentError", .type "OSError".toList),
    ("IOError", .type "OSError".toList)]

/-- What a name stands for. -/
def standard? (name : Text) : Option Datum :=
  if functionNames.any fun s => s.toList = name then some (.builtin name)
  else if typeNames.any fun s => s.toList = name then some (.type name)
  else if isExceptionKind name then some (.type name)
  else namedValues.lookup (String.ofList name)

/-! ## Arguments -/

/-- A fault about the arguments of a call. -/
def wrongArguments {α : Type} (words : Text) : Eval α := fault (.arguments words)

/-- The fault of arguments that are given by name where none can be. -/
def noNames (name : Text) (named : List (Text × Datum)) : Eval Unit := do
  unless named.isEmpty do wrongArguments (name ++ "() takes no keyword arguments".toList)

/-- The fault of arguments where there are none. -/
def noArguments (name : Text) (positional : List Datum) (named : List (Text × Datum)) :
    Eval Unit := do
  noNames name named
  unless positional.isEmpty do
    wrongArguments (name ++ "() takes no arguments (".toList ++ Text.ofNat positional.length ++
      " given)".toList)

/-- The only argument of a function that takes exactly one. -/
def onlyArgument (name : Text) (positional : List Datum) (named : List (Text × Datum)) :
    Eval Datum := do
  noNames name named
  match positional with
  | [d] => return d
  | ds =>
    wrongArguments (name ++ "() takes exactly one argument (".toList ++ Text.ofNat ds.length ++
      " given)".toList)

/-- So many arguments, in words. -/
def argumentCount (n : Nat) : Text :=
  Text.ofNat n ++ (if n = 1 then " argument" else " arguments").toList

/-- Arguments of which there have to be at least and at most so many. -/
def boundedArguments (name : Text) (least most : Nat) (positional : List Datum) :
    Eval (List Datum) := do
  let n := positional.length
  let got := ", got ".toList ++ Text.ofNat n
  if least ≤ n && n ≤ most then return positional
  else if least = most then wrongArguments (name ++ " expected ".toList ++ argumentCount least ++ got)
  else if n < least then
    wrongArguments (name ++ " expected at least ".toList ++ argumentCount least ++ got)
  else wrongArguments (name ++ " expected at most ".toList ++ argumentCount most ++ got)

/-- The arguments of a function of which some may be given by name; no others may. -/
def optionsOf (name : Text) (options : List String) (named : List (Text × Datum)) : Eval Unit := do
  match named.find? fun entry => options.all fun o => o.toList ≠ entry.1 with
  | some entry =>
    wrongArguments (Text.apostrophe :: (entry.1 ++ "' is an invalid keyword argument for ".toList ++
      name ++ "()".toList))
  | none => return

/-- The arguments of a function by the names of its parameters: those given by place come first. There
may be no others, and no more than there are parameters. -/
def placedOptions (name : Text) (parameters : List String) (positional : List Datum)
    (named : List (Text × Datum)) : Eval (List (Text × Datum)) := do
  let n := positional.length + named.length
  if parameters.length < n then
    wrongArguments (name ++ "() takes at most ".toList ++ argumentCount parameters.length ++
      " (".toList ++ Text.ofNat n ++ " given)".toList)
  else
    optionsOf name parameters named
    let placed := (parameters.map String.toList).zip positional
    match named.find? fun entry => (placed.lookup entry.1).isSome with
    | some entry =>
      wrongArguments ("argument for ".toList ++ name ++ "() given by name ('".toList ++ entry.1 ++
        "') and position (".toList ++
        Text.ofNat ((placed.findIdx fun p => p.1 == entry.1) + 1) ++ [')'])
    | none => return placed ++ named

/-! ## Values of standard types -/

/-- A fresh set of items. -/
def setOf (call : Caller) (items : List Datum) : Eval Datum := do
  let members ← items.foldlM (fun (members : Entries Datum Unit) d => do
    return members.insert (← hashKey call d) d ()) []
  add (.set members)

/-- A range of integers. -/
def rangeOf (call : Caller) (positional : List Datum) : Eval Datum := do
  match ← boundedArguments "range".toList 1 3 positional with
  | [stop] => return .range 0 (← integerOf call stop) 1
  | [start, stop] =>
    let start ← integerOf call start
    return .range start (← integerOf call stop) 1
  | [start, stop, step] =>
    let start ← integerOf call start
    let stop ← integerOf call stop
    let step ← integerOf call step
    if step = 0 then fault (.improper "range() arg 3 must not be zero".toList)
    else return .range start stop step
  | _ => return .none

/-- Fills a dictionary from another one or from pairs, and with entries by name. -/
def fillDictFrom (call : Caller) (name : String) (address : Nat) (positional : List Datum)
    (named : List (Text × Datum)) : Eval Unit := do
  let ds ← boundedArguments name.toList 0 1 positional
  ds.forM (overlayWith call address)
  named.forM fun entry => setEntry call (.ref address) (.word entry.1) entry.2

/-- A dictionary from another one or from pairs, with entries by name. -/
def dictOf (call : Caller) (positional : List Datum) (named : List (Text × Datum)) : Eval Datum := do
  let fresh ← add (.dict [])
  match fresh with
  | .ref address =>
    fillDictFrom call "dict" address positional named
    return fresh
  | _ => return fresh

/-- The argument of a type that takes at most one, by its place. -/
def singleArgument (name : Text) (positional : List Datum) (named : List (Text × Datum)) :
    Eval (Option Datum) := do
  noNames name named
  return (← boundedArguments name 0 1 positional).head?

/-- A text from something, or from bytes in an encoding. -/
def makeText (call : Caller) (positional : List Datum) (named : List (Text × Datum)) :
    Eval Datum := do
  let given ← placedOptions "str".toList ["object", "encoding", "errors"] positional named
  let argument (name : String) : Option Datum := given.lookup name.toList
  for name in ["encoding", "errors"] do
    match argument name with
    | none => pure ()
    | some (.str ..) => pure ()
    | some d =>
      wrongArguments ("str() argument '".toList ++ name.toList ++ "' must be str, not ".toList ++
        (← typeName d))
  match argument "object", (argument "encoding").isSome || (argument "errors").isSome with
  | none, _ => return .word []
  | some d, false => textDatum call d
  | some d, true =>
    match ← coreOf d with
    | .str .. => fault (.typeMisuse "decoding str is not supported".toList)
    | .bytes data => newText (data.map fun b => Char.ofNat b.toNat)
    | _ =>
      fault (.typeMisuse ("decoding to str: need a bytes-like object, ".toList ++ (← typeName d) ++
        " found".toList))

/-- An integer from something, or from a text in a base. -/
def makeInteger (call : Caller) (positional : List Datum) (named : List (Text × Datum)) :
    Eval Datum := do
  let n := positional.length + named.length
  if 2 < n then
    wrongArguments ("int() takes at most 2 arguments (".toList ++ Text.ofNat n ++ " given)".toList)
  else
    optionsOf "int".toList ["base"] named
    match positional, named.lookup "base".toList with
    | [], none => return .ofInt 0 0
    | [], some _ => wrongArguments "int() missing string argument".toList
    | [d], none => toInteger call d
    | [d], some base => toIntegerIn call d base
    | d :: base :: _, _ => toIntegerIn call d base

/-- The bounds of a part. -/
def makeSlice (positional : List Datum) : Eval Datum := do
  match ← boundedArguments "slice".toList 1 3 positional with
  | [upper] => add (.slice .none upper .none)
  | [lower, upper] => add (.slice lower upper .none)
  | lower :: upper :: step :: _ => add (.slice lower upper step)
  | [] => return .none

/-- A fresh exception of a kind. -/
def makeException (kind : Datum) (arguments : List Datum) : Eval Datum := do
  let isSystemFault ← isKindOf kind (.type "OSError".toList)
  match isSystemFault, arguments with
  | true, [number, words, path] =>
    addWith [("filename".toList, path)] (.exception kind [number, words])
  | _, arguments => addWith [] (.exception kind arguments)

/-- Something of a standard type. -/
def makeStandard (call : Caller) (name : Text) (positional : List Datum)
    (named : List (Text × Datum)) : Eval Datum := do
  match String.ofList name with
  | "str" => makeText call positional named
  | "int" => makeInteger call positional named
  | "float" =>
    match ← singleArgument name positional named with
    | some d => toDouble call d
    | none => newFloat (.zero false)
  | "bool" =>
    match ← singleArgument name positional named with
    | some d => return .bool (← isTrue call d)
    | none => return .bool false
  | "list" =>
    match ← singleArgument name positional named with
    | some d => add (.list (← everyMember call d))
    | none => add (.list [])
  | "tuple" =>
    match ← singleArgument name positional named with
    | some (.tuple items mark) => return .tuple items mark
    | some d => newTuple (← everyMember call d)
    | none => newTuple []
  | "set" =>
    match ← singleArgument name positional named with
    | some d => setOf call (← everyMember call d)
    | none => add (.set [])
  | "dict" => dictOf call positional named
  | "range" =>
    noNames name named
    rangeOf call positional
  | "slice" =>
    noNames name named
    makeSlice positional
  | "staticmethod" | "classmethod" => do
    match ← boundedArguments name 1 1 positional with
    | [f] => add (.wrapped name f)
    | _ => return .none
  | "property" => add (.wrapped name (positional.head?.getD .none))
  | "object" =>
    if positional.isEmpty && named.isEmpty then addWith [] (.instance (.type name) .none)
    else wrongArguments "object() takes no arguments".toList
  | _ =>
    if isExceptionKind name then
      noNames name named
      makeException (.type name) positional
    else wrongArguments ("cannot create '".toList ++ name ++ "' instances".toList)

end FormulaCube.Run
