import FormulaCube.Run.Standard

/-!
# Modules

* `moduleOf` — a module by its path.
* `callModuleFunction` — a function of a module.
-/

namespace FormulaCube.Run

open Eval

/-- The modules of the standard library that are found but whose contents are not known here. -/
def otherModules : List String :=
  ["abc", "ast", "base64", "bisect", "calendar", "collections", "contextlib", "copy", "csv",
    "dataclasses", "datetime", "decimal", "enum", "fractions", "functools", "hashlib", "heapq", "io",
    "itertools", "json", "logging", "numbers", "operator", "os", "pathlib", "pprint", "random", "re",
    "secrets", "statistics", "string", "struct", "sys", "textwrap", "threading", "time", "types",
    "typing", "unicodedata", "uuid", "warnings"]

/-- The name of the module of mathematics. -/
def mathName : Text := "math".toList

/-- The functions of the module of mathematics. -/
def mathFunctions : List String := ["ceil", "fabs", "floor", "sqrt", "trunc"]

/-- The contents of the module of mathematics. -/
def mathMembers : List (Text × Datum) :=
  mathFunctions.map (fun name => (name.toList, .builtin (mathName ++ '.' :: name.toList))) ++
    [("pi".toList, .float (.ofDecimal false 3141592653589793 (-15)) 0),
      ("e".toList, .float (.ofDecimal false 2718281828459045 (-15)) 0),
      ("inf".toList, .float (.infinity false) 0), ("nan".toList, .float .nan 0)]

/-- The fault of a module that is not found. -/
def missingModule {α : Type} (name : Text) : Eval α :=
  fault (.missingModule ("No module named '".toList ++ name ++ [Text.apostrophe]))

/-- The first part of a path that leads to a module. -/
def moduleOf (path : List Text) : Eval Datum := do
  match path with
  | [] => missingModule []
  | first :: rest =>
    if first = mathName then
      match rest with
      | [] => add (.module mathName mathMembers)
      | _ =>
        fault (.missingModule ("No module named '".toList ++ Text.join ['.'] path ++
          "'; 'math' is not a package".toList))
    else if otherModules.any fun name => name.toList = first then add (.module first [])
    else missingModule first

/-- A name out of a module. -/
def importedName (module : Datum) (name : Text) : Eval Datum := do
  match module with
  | .ref address =>
    match ← read address with
    | .module moduleName members =>
      match members.lookup name with
      | some d => return d
      | none =>
        if moduleName = mathName then
          fault (.importing ("cannot import name '".toList ++ name ++ "' from 'math' (built-in)".toList))
        else return .plain "module".toList (Datum.plainText "module".toList)
    | _ => return .none
  | _ => return .none

/-- A rounding of a number: objects say themselves what it gives, and an integer is not changed. -/
def roundedBy (call : Caller) (method : String) (rounding : Binary64 → Option Int) (d : Datum) :
    Eval (Option Datum) := do
  match ← askSpecial? call d method [] with
  | some answer => return some answer
  | none =>
    match ← coreOf d with
    | .float x _ => return some (← roundedInteger x (rounding x))
    | core =>
      match indexOf? core with
      | some i => return some (← newInt i)
      | none => return none

/-- A function of the module of mathematics. -/
def callMathFunction (call : Caller) (name : String) (d : Datum) : Eval Datum := do
  match name with
  | "floor" =>
    match ← roundedBy call "__floor__" Binary64.floor? d with
    | some answer => return answer
    | none =>
      let x ← realOf call d
      roundedInteger x x.floor?
  | "ceil" =>
    match ← roundedBy call "__ceil__" Binary64.ceil? d with
    | some answer => return answer
    | none =>
      let x ← realOf call d
      roundedInteger x x.ceil?
  | "trunc" =>
    match ← roundedBy call "__trunc__" Binary64.truncate? d with
    | some answer => return answer
    | none =>
      fault (.typeMisuse ("type ".toList ++ (← typeName d) ++
        " doesn't define __trunc__ method".toList))
  | "fabs" =>
    let x ← realOf call d
    newFloat (if x.isNegative then x.neg else x)
  | _ =>
    let x ← realOf call d
    if x.isNegative && !x.isZero && !x.isNan then fault (.improper "math domain error".toList)
    else newFloat (Binary64.ofFloat x.toFloat.sqrt)

/-- A call of a function of a module. -/
def callModuleFunction (call : Caller) (name : Text) (ds : List Datum)
    (named : List (Text × Datum)) : Eval Datum := do
  let d ← onlyArgument name ds named
  callMathFunction call (String.ofList (name.drop (mathName.length + 1))) d

end FormulaCube.Run
