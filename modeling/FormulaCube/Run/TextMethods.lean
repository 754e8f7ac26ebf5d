import FormulaCube.Run.Standard

/-!
# Methods of texts

* `splitAt`, `wordsOf` — a text in pieces.
* `callTextMethod` — a call of a method of a text.
-/

namespace FormulaCube.Run

open Eval

/-! ## Pieces -/

/-- The texts between the places where a text occurs, looked for from the left, at most `bound` times;
nothing bounds it where there is none. -/
def splitAt (sep : Text) : (bound : Option Nat) → (skip : Nat) → (part : Text) → Text → List Text
  | _, _, part, [] => [part.reverse]
  | bound, skip + 1, part, _ :: t => splitAt sep bound skip part t
  | bound, 0, part, c :: t =>
    if bound ≠ some 0 && sep.isPrefixOf (c :: t) then
      part.reverse :: splitAt sep (bound.map (· - 1)) (sep.length - 1) [] t
    else splitAt sep bound 0 (c :: part) t

/-- The words of a text, between blanks; after so many the rest is one. -/
def wordsOf : (bound : Option Nat) → (part : Text) → Text → List Text
  | _, part, [] => if part.isEmpty then [] else [part.reverse]
  | bound, part, c :: t =>
    if bound = some 0 && part.isEmpty then
      match Text.trimLeft (c :: t) with
      | [] => []
      | rest => [rest]
    else if Text.isBlank c then
      if part.isEmpty then wordsOf bound [] t
      else part.reverse :: wordsOf (bound.map (· - 1)) [] t
    else wordsOf bound (c :: part) t

/-- Texts one after the other with a text between them. -/
def joinedTexts (i : Nat) : List Datum → Eval (List Text)
  | [] => return []
  | d :: ds => do
    match ← coreOf d with
    | .str t _ => return t :: (← joinedTexts (i + 1) ds)
    | _ =>
      fault (.typeMisuse ("sequence item ".toList ++ Text.ofNat i ++
        ": expected str instance, ".toList ++ (← typeName d) ++ " found".toList))

/-- The first place where a text occurs in another one. -/
def placeOfText (needle : Text) : (place : Nat) → Text → Option Nat
  | place, [] => if needle.isEmpty then some place else none
  | place, c :: t =>
    if needle.isPrefixOf (c :: t) then some place else placeOfText needle (place + 1) t

/-! ## Arguments -/

/-- The text that an argument is. -/
def textArgument (name : String) (number : Nat) (d : Datum) : Eval Text := do
  match ← coreOf d with
  | .str t _ => return t
  | _ =>
    fault (.typeMisuse (name.toList ++ "() argument ".toList ++ Text.ofNat number ++
      " must be str, not ".toList ++ (← typeName d)))

/-- The text that is looked for. -/
def soughtText (d : Datum) : Eval Text := do
  match ← coreOf d with
  | .str t _ => return t
  | _ => fault (.typeMisuse ("must be str, not ".toList ++ (← typeName d)))

/-- The arguments of a search. -/
def searchArguments (name : String) (ds : List Datum) : Eval (List Datum) := do
  if ds.isEmpty then
    wrongArguments (name.toList ++ "() takes at least 1 argument (0 given)".toList)
  else if 3 < ds.length then
    wrongArguments (name.toList ++ "() takes at most 3 arguments (".toList ++
      Text.ofNat ds.length ++ " given)".toList)
  else return ds

/-- The part of a text in which something is looked for, and where it begins. -/
def searchedPart (call : Caller) (t : Text) (bounds : List Datum) : Eval (Text × Nat) := do
  let p ← partBetween call t.length (bounds.headD .none) (bounds.tail.headD .none) .none
  return (p.select t, p.start.toNat)

/-! ## Methods -/

/-- A text between the places where another one occurs. -/
def splitText (call : Caller) (t : Text) (d : Datum) (ds : List Datum) (named : List (Text × Datum)) :
    Eval Datum := do
  let given ← placedOptions "split".toList ["sep", "maxsplit"] ds named
  let bound ← match given.lookup "maxsplit".toList with
    | some n => do
      let i ← integerOf call n
      pure (if i < 0 then none else some i.toNat)
    | none => pure none
  let pieces ← match (given.lookup "sep".toList).getD .none with
    | .none => pure (wordsOf bound [] t)
    | sep => do
      match ← coreOf sep with
      | .str [] _ => fault (.improper "empty separator".toList)
      | .str sep _ => pure (splitAt sep bound 0 [] t)
      | _ => fault (.typeMisuse ("must be str or None, not ".toList ++ (← typeName sep)))
  if pieces == [t] then add (.list [d]) else add (.list (← pieces.mapM newText))

/-- A text without certain characters at its ends, or without blanks. -/
def stripText (name : String) (t : Text) (d : Datum) (ds : List Datum) : Eval Datum := do
  let drop : Char → Bool ←
    match ← boundedArguments name.toList 0 1 ds with
    | [] => pure Text.isBlank
    | a :: _ =>
      match ← coreOf a with
      | .none => pure Text.isBlank
      | .str chars _ => pure chars.contains
      | _ => fault (.typeMisuse (name.toList ++ " arg must be None or str".toList))
  let left := if name = "rstrip" then t else t.dropWhile drop
  let both := if name = "lstrip" then left else Text.dropTailWhile drop left
  if both == t then return d else newText both

/-- Whether a text begins or ends with another one, or with one of several. -/
def hasEdge (call : Caller) (name : String) (t : Text) (ds : List Datum) : Eval Datum := do
  match ← searchArguments name ds with
  | [] => return .none
  | d :: bounds =>
    let (t, _) ← searchedPart call t bounds
    let fits (s : Text) : Bool := if name = "startswith" then s.isPrefixOf t else s.isSuffixOf t
    match ← coreOf d with
    | .str s _ => return .bool (fits s)
    | .tuple items _ =>
      return .bool (← items.anyM fun item => do
        match ← coreOf item with
        | .str s _ => return fits s
        | _ =>
          fault (.typeMisuse ("tuple for ".toList ++ name.toList ++
            " must only contain str, not ".toList ++ (← typeName item))))
    | _ =>
      fault (.typeMisuse (name.toList ++ " first arg must be str or a tuple of str, not ".toList ++
        (← typeName d)))

/-- A text in which another one is replaced wherever it occurs. -/
def replaceText (call : Caller) (t : Text) (d : Datum) (ds : List Datum) : Eval Datum := do
  match ← boundedArguments "replace".toList 2 3 ds with
  | a :: b :: more =>
    let old ← textArgument "replace" 1 a
    let new ← textArgument "replace" 2 b
    let bound ← match more with
      | n :: _ => do
        let i ← integerOf call n
        pure (if i < 0 then none else some i.toNat)
      | [] => pure none
    let pieces :=
      if old.isEmpty then
        let all := [] :: t.map fun c => [c]
        match bound with
        | none => all ++ [[]]
        | some n => (all.take n) ++ [(all.drop n).flatten]
      else splitAt old bound 0 [] t
    let result := Text.join new pieces
    if result == t then return d else newText result
  | _ => return .none

/-- How often a text occurs in another one, without overlaps. -/
def countText (call : Caller) (t : Text) (ds : List Datum) : Eval Datum := do
  match ← searchArguments "count" ds with
  | [] => return .none
  | d :: bounds =>
    let needle ← soughtText d
    let (t, _) ← searchedPart call t bounds
    newInt (if needle.isEmpty then (t.length : Int) + 1
      else ((splitAt needle none 0 [] t).length : Int) - 1)

/-- Where a text occurs first in another one. -/
def findText (call : Caller) (name : String) (t : Text) (ds : List Datum) : Eval Datum := do
  match ← searchArguments name ds with
  | [] => return .none
  | d :: bounds =>
    let needle ← soughtText d
    let (part, start) ← searchedPart call t bounds
    match placeOfText needle start part with
    | some place => newInt place
    | none =>
      if name = "index" then fault (.improper "substring not found".toList) else return .ofInt (-1) 0

/-- A method of a text; `label` names it in faults. -/
def callTextMethod (call : Caller) (label : Text) (d : Datum) (t : Text) (name : Text)
    (ds : List Datum) (named : List (Text × Datum)) : Eval Datum := do
  let method := String.ofList name
  if method = "split" then splitText call t d ds named
  else if method = "join" then
    let items ← (everyMember call (← onlyArgument label ds named)).attempt
    match items with
    | .error f =>
      if ← isOfKind ["TypeError"] f then fault (.typeMisuse "can only join an iterable".toList)
      else fail f
    | .ok [.str s mark] => return .str s mark
    | .ok items => newText (Text.join t (← joinedTexts 0 items))
  else
    noNames label named
    match method with
    | "strip" | "lstrip" | "rstrip" => stripText method t d ds
    | "startswith" | "endswith" => hasEdge call method t ds
    | "replace" => replaceText call t d ds
    | "count" => countText call t ds
    | "find" | "index" => findText call method t ds
    | "upper" =>
      noArguments label ds named
      newText (Text.upper t)
    | "lower" =>
      noArguments label ds named
      newText (t.map Char.toLower)
    | _ => fault (.notImplemented ("cells do not use ".toList ++ label))

end FormulaCube.Run
