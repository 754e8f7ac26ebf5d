import FormulaCube.Code.Parts
import FormulaCube.Run.Constants
import FormulaCube.Run.MemberCalls
import FormulaCube.Run.Modules
import FormulaCube.Run.Scope

/-!
# Evaluating expressions

Expressions are evaluated from left to right. What lies inside an expression is evaluated by the
runner handed in, which is one level less deep.

* `Runner` — how what lies inside is evaluated, run and called.
* `assign` — a value is taken apart and its parts are given to targets.
* `valueOf` — the value of an expression.
-/

namespace FormulaCube.Run

open Eval Code

/-- How a block ends. -/
inductive Flow where
  /-- At its end. -/
  | next
  /-- By leaving a loop. -/
  | leave
  /-- By skipping the rest of one turn of a loop. -/
  | skip
  /-- With the result of the function. -/
  | result (d : Datum)

/-- How what lies inside is evaluated, run and called. -/
structure Runner where
  /-- The value of an expression. -/
  value : Scope → Expr → Eval Datum
  /-- The end of a block. -/
  block : Scope → List Stmt → Eval Flow
  /-- The result of a call. -/
  call : Caller

/-- The fault of code that cannot be run here. -/
def unsupported {α : Type} (what : String) : Eval α :=
  fault (.notImplemented ("cells do not run ".toList ++ what.toList))

/-! ## Targets -/

/-- The first members of a walk, as many as asked for if there are so many, and what comes after them
if there are. -/
def takeSome (call : Caller) : (count : Nat) → (taken : List Datum) → Walk →
    Eval (List Datum × Option Walk)
  | 0, taken, walk => return (taken.reverse, some walk)
  | count + 1, taken, walk => do
    match ← walk.next call with
    | none => return (taken.reverse, none)
    | some (d, rest) => takeSome call count (d :: taken) rest

/-- The beginning of a walk through something that may have none, with the words for that. -/
def walkOrElse (call : Caller) (words : Text → Eval Text) (d : Datum) : Eval Walk := do
  match ← (walkOf call d).attempt with
  | .ok walk => return walk
  | .error (.fault (.notIterable type)) => fault (.typeMisuse (← words type))
  | .error f => fail f

/-- The number of targets that take a single value. -/
def singleTargets : List Expr → Nat
  | [] => 0
  | .starred _ :: items => singleTargets items
  | _ :: items => singleTargets items + 1

/-- Whether a target takes all that is left. -/
def hasStar (items : List Expr) : Bool := singleTargets items < items.length

/-- The fault of a value with the wrong number of members. -/
def wrongCount {α : Type} (lead : String) (expected : Text) (got : Option Nat) : Eval α :=
  fault (.improper (lead.toList ++ " values to unpack (expected ".toList ++ expected ++
    (match got with
    | some n => ", got ".toList ++ Text.ofNat n
    | none => []) ++ [')']))

/-- A value taken apart for targets, or the fault that it has not the right number of members. -/
def membersFor (call : Caller) (items : List Expr) (d : Datum) : Eval (List Datum) := do
  let walk ← walkOrElse call
    (fun type => return "cannot unpack non-iterable ".toList ++ type ++ " object".toList) d
  let n := singleTargets items
  let (ds, rest) ← takeSome call n [] walk
  match rest with
  | none =>
    let expected := (if hasStar items then "at least ".toList else []) ++ Text.ofNat n
    if ds.length < n then wrongCount "not enough" expected (some ds.length) else return ds
  | some walk =>
    if hasStar items then return ds ++ (← walk.takeAll call turnLimit [])
    else
      match ← walk.next call with
      | none => return ds
      | some _ => wrongCount "too many" (Text.ofNat n) none

mutual

/-- Gives a value to a target. -/
def assign (r : Runner) (scope : Scope) : Expr → Datum → Eval Unit
  | .name t, d => scope.assignName t d
  | .attribute object name, d => do
    setAttribute r.call (← r.value scope object) (scope.resolve name) d
  | .subscript object index, d => do
    let object ← r.value scope object
    setEntry r.call object (← r.value scope index) d
  | .tuple items, d => do assignAll r scope items (← membersFor r.call items d)
  | .list items, d => do assignAll r scope items (← membersFor r.call items d)
  | .starred item, d => assign r scope item d
  | _, _ => unsupported "this target"

/-- Gives values to targets, one after the other. -/
def assignAll (r : Runner) (scope : Scope) : List Expr → List Datum → Eval Unit
  | [], _ => return
  | .starred item :: items, ds => do
    let n := ds.length - items.length
    assign r scope item (← add (.list (ds.take n)))
    assignAll r scope items (ds.drop n)
  | item :: items, ds => do
    assign r scope item (ds.headD .none)
    assignAll r scope items ds.tail

end

/-! ## Arguments -/

/-- How a function is named in the faults of a call of it. -/
def calledName (call : Caller) (f : Datum) : Eval Text := do
  match ← (attributeOf call f "__qualname__".toList).attempt with
  | .ok (.str path _) =>
    match ← (attributeOf call f "__module__".toList).attempt with
    | .ok (.str module _) =>
      return (if module = "builtins".toList then path else module ++ '.' :: path) ++ "()".toList
    | _ => return path ++ "()".toList
  | _ => textOf call f

/-- An argument by name beside others; no name may be given twice. -/
def withNamed (call : Caller) (f : Datum) (named : List (Text × Datum)) (name : Text) (d : Datum) :
    Eval (List (Text × Datum)) := do
  match named.lookup name with
  | none => return named ++ [(name, d)]
  | some _ =>
    fault (.arguments ((← calledName call f) ++ " got multiple values for keyword argument '".toList ++
      name ++ [Text.apostrophe]))

/-- The entries of a dictionary as arguments by name, beside others. -/
def withEntries (call : Caller) (f : Datum) (named : List (Text × Datum)) (d : Datum) :
    Eval (List (Text × Datum)) := do
  match ← mappingEntries? call d with
  | none =>
    fault (.typeMisuse ((← calledName call f) ++ " argument after ** must be a mapping, not ".toList ++
      (← typeName d)))
  | some entries =>
    entries.foldlM (fun named entry => do
      match ← coreOf entry.1 with
      | .str name _ => withNamed call f named name entry.2
      | _ => fault .keywordTypes) named

/-- The words for a star before something that has no members. -/
def starWords (type : Text) : Eval Text :=
  return "Value after * must be an iterable, not ".toList ++ type

/-- The arguments that are given by their places. -/
def placedArguments (r : Runner) (scope : Scope) :
    List (ArgumentKind × Expr) → Eval (List Datum)
  | [] => return []
  | (.spread, e) :: rest => do
    let walk ← walkOrElse r.call starWords (← r.value scope e)
    let ds ← walk.takeAll r.call turnLimit []
    return ds ++ (← placedArguments r scope rest)
  | (.positional, e) :: rest => do
    let d ← r.value scope e
    return d :: (← placedArguments r scope rest)
  | _ :: rest => placedArguments r scope rest

/-- The arguments that are given by their names. -/
def namedArguments (r : Runner) (scope : Scope) (f : Datum) :
    (named : List (Text × Datum)) → List (ArgumentKind × Expr) → Eval (List (Text × Datum))
  | named, [] => return named
  | named, (.named name, e) :: rest => do
    let named ← withNamed r.call f named name (← r.value scope e)
    namedArguments r scope f named rest
  | named, (.spreadNamed, e) :: rest => do
    let named ← withEntries r.call f named (← r.value scope e)
    namedArguments r scope f named rest
  | named, _ :: rest => namedArguments r scope f named rest

/-- Whether an argument is given by its place. -/
def isPlaced (a : ArgumentKind × Expr) : Bool := a.1 = .positional || a.1 = .spread

/-- The arguments of a call: first those given by their places. Where these are just the members of one
thing, it is gone through at the very end. -/
def argumentsOf (r : Runner) (scope : Scope) (f : Datum) (arguments : List (ArgumentKind × Expr)) :
    Eval (List Datum × List (Text × Datum)) := do
  match arguments.filter isPlaced with
  | [(.spread, e)] =>
    let d ← r.value scope e
    let named ← namedArguments r scope f [] arguments
    let words (type : Text) : Eval Text := do
      return (← calledName r.call f) ++ " argument after * must be an iterable, not ".toList ++ type
    let walk ← walkOrElse r.call words d
    return (← walk.takeAll r.call turnLimit [], named)
  | _ =>
    let ds ← placedArguments r scope arguments
    return (ds, ← namedArguments r scope f [] arguments)

/-! ## Displays -/

/-- The items of a display; `words` are for a star before something that has no members. -/
def displayItems (r : Runner) (scope : Scope) (words : Text → Eval Text) : List Expr → Eval (List Datum)
  | [] => return []
  | .starred e :: rest => do
    let walk ← walkOrElse r.call words (← r.value scope e)
    let ds ← walk.takeAll r.call turnLimit []
    return ds ++ (← displayItems r scope words rest)
  | e :: rest => do
    let d ← r.value scope e
    return d :: (← displayItems r scope words rest)

/-- The items of a list or tuple. -/
def sequenceItems (r : Runner) (scope : Scope) (items : List Expr) : Eval (List Datum) :=
  displayItems r scope starWords items

/-- The members of a set. -/
def setItems (r : Runner) (scope : Scope) (items : List Expr) : Eval (List Datum) :=
  displayItems r scope
    (fun type => return Text.apostrophe :: (type ++ "' object is not iterable".toList)) items

/-- Puts the entries of a display into the dictionary at an address. Those that wait are entered when
there are no more, or before another dictionary is. -/
def fillDict (r : Runner) (scope : Scope) (address : Nat) :
    (waiting : List (Datum × Datum)) → List (Option Expr × Expr) → Eval Unit
  | waiting, [] => waiting.forM fun e => setEntry r.call (.ref address) e.1 e.2
  | waiting, (some key, value) :: rest => do
    let key ← r.value scope key
    let value ← r.value scope value
    fillDict r scope address (waiting ++ [(key, value)]) rest
  | waiting, (none, value) :: rest => do
    waiting.forM fun e => setEntry r.call (.ref address) e.1 e.2
    let d ← r.value scope value
    match ← mappingEntries? r.call d with
    | some entries =>
      entries.forM fun e => setEntry r.call (.ref address) e.1 e.2
      fillDict r scope address [] rest
    | none =>
      fault (.typeMisuse (Text.apostrophe :: ((← typeName d) ++ "' object is not a mapping".toList)))

/-! ## Comprehensions -/

/-- Whether all tests hold. -/
def allHold (r : Runner) (scope : Scope) : List Expr → Eval Bool
  | [] => return true
  | e :: rest => do
    if ← isTrue r.call (← r.value scope e) then allHold r scope rest else return false

section Comprehensions

variable {σ : Type} (r : Runner) (scope : Scope)

/-- What a step makes of a state for each member of a walk that passes all tests. -/
def eachTurn (target : Expr) (tests : List Expr) (step : σ → Eval σ) :
    (turns : Nat) → σ → Walk → Eval σ
  | 0, _, _ => fault .tooDeep
  | turns + 1, s, walk => do
    match ← walk.next r.call with
    | none => return s
    | some (d, rest) =>
      assign r scope target d
      let passes ← allHold r scope tests
      eachTurn target tests step turns (← if passes then step s else pure s) rest

/-- What a step makes of a state in each turn of clauses. -/
def throughClauses (step : σ → Eval σ) : List (ForClause Expr) → σ → Eval σ
  | [], s => step s
  | c :: clauses, s => do
    let walk ← walkOf r.call (← r.value scope c.source)
    eachTurn r scope c.target c.tests (throughClauses step clauses) turnLimit s walk

/-- What a step makes of a state in each turn of a comprehension. Its first source is evaluated
outside; it has variables of its own. -/
def comprehension (label : String) (clauses : List (ForClause Expr)) (step : Scope → σ → Eval σ)
    (s : σ) : Eval σ := do
  match clauses with
  | [] => return s
  | c :: rest =>
    let walk ← walkOf r.call (← r.value scope c.source)
    let inside ← scope.inner label.toList (clauses.flatMap fun c => targetNames c.target)
    eachTurn r inside c.target c.tests (throughClauses r inside (step inside) rest) turnLimit s walk

end Comprehensions

/-- A collection built by going through others. -/
def comprehendedItems (r : Runner) (scope : Scope) (kind : Collection) (item : Expr)
    (clauses : List (ForClause Expr)) : Eval Datum := do
  let collected (label : String) : Eval (List Datum) := do
    let ds ← comprehension r scope label clauses
      (fun inside ds => do return (← r.value inside item) :: ds) []
    return ds.reverse
  match kind with
  | .list => add (.list (← collected "<listcomp>."))
  | .generator => add (.iterator "generator".toList (← collected "<genexpr>."))
  | .set =>
    let members ← comprehension r scope "<setcomp>." clauses
      (fun inside (members : Entries Datum Unit) => do
        let d ← r.value inside item
        return members.insert (← hashKey r.call d) d ()) []
    add (.set members)

/-- A dictionary built by going through collections. -/
def comprehendedEntries (r : Runner) (scope : Scope) (key value : Expr)
    (clauses : List (ForClause Expr)) : Eval Datum := do
  let entries ← comprehension r scope "<dictcomp>." clauses
    (fun inside (entries : Entries Datum Datum) => do
      let k ← r.value inside key
      let v ← r.value inside value
      return entries.insert (← hashKey r.call k) k v) []
  add (.dict entries)

/-! ## Functions -/

/-- The names that belong to a function. -/
def localNames (parameters : List (Parameter Expr)) (body : List Stmt) : List Text :=
  (parameters.map (·.name) ++ boundNames body).eraseDups

/-- The values that parameters have of themselves. -/
def defaultValues (r : Runner) (scope : Scope) :
    List (Parameter Expr) → Eval (List (Text × Datum))
  | [] => return []
  | p :: rest => do
    match p.default with
    | some e =>
      let d ← r.value scope e
      return (scope.resolve p.name, d) :: (← defaultValues r scope rest)
    | none => defaultValues r scope rest

/-- A function with its surroundings. -/
def makeFunction (r : Runner) (scope : Scope) (name : Text) (parameters : List (Parameter Expr))
    (body : List Stmt) (async : Bool) : Eval Datum := do
  let defaults ← defaultValues r scope parameters
  let locals := (localNames parameters body).map scope.resolve
  let deferred :=
    if async then some "coroutine".toList
    else if hasYield body then some "generator".toList
    else none
  addWith [] fun attributes => .procedure {
    name := name
    path := scope.pathOf name
    parameters := parameters.map fun p => { p with name := scope.resolve p.name }
    defaults := defaults
    body := body
    locals := locals
    enclosing := scope.around
    module := scope.module
    globals := (globalNames body).map scope.resolve ++ scope.globalsInside locals
    owner := scope.owner
    constants := scope.constants
    deferred := deferred
    attributes := attributes }

/-! ## Operators -/

/-- The first operand that settles a chain of conditions, or the last one. -/
def settle (r : Runner) (scope : Scope) (verdict : Bool) : List Expr → Eval Datum
  | [] => return .none
  | [e] => r.value scope e
  | e :: rest => do
    let d ← r.value scope e
    if (← isTrue r.call d) = verdict then return d else settle r scope verdict rest

/-- Comparisons of neighbours, up to the first that does not hold. -/
def compareChain (r : Runner) (scope : Scope) (left : Datum) :
    List (Comparison × Expr) → Eval Datum
  | [] => return .bool true
  | (op, e) :: rest => do
    let right ← r.value scope e
    let verdict ← compareBy r.call op left right
    match rest with
    | [] => return verdict
    | rest => if ← isTrue r.call verdict then compareChain r scope right rest else return verdict

/-! ## Texts with expressions filled in -/

/-- What is filled in for a value, after a conversion. -/
def filledIn (r : Runner) (d : Datum) (conversion : Option Char) : Eval Datum := do
  match conversion with
  | some 'r' => newText (← shown r.call d)
  | some _ => textDatum r.call d
  | none =>
    match ← askSpecial? r.call d "__format__" [.word []] with
    | some answer => return answer
    | none => textDatum r.call d

/-- The parts of a text in which expressions are filled in. -/
def filledParts (r : Runner) (scope : Scope) : List Expr → Eval (List Datum)
  | [] => return []
  | .field value label conversion format :: rest => do
    let d ← r.value scope value
    let conversion := if label.isSome && conversion.isNone then some 'r' else conversion
    let d ← filledIn r d conversion
    match format with
    | some (.formatted (_ :: _)) => unsupported "formats"
    | _ =>
      let before ← label.toList.mapM newText
      return before ++ d :: (← filledParts r scope rest)
  | e :: rest => do
    let d ← r.value scope e
    return d :: (← filledParts r scope rest)

/-- The text of parts. A single part is the text itself. -/
def joinedParts (call : Caller) (parts : List Datum) : Eval Datum := do
  match parts with
  | [d] => return d
  | parts => newText (← parts.mapM (textOf call)).flatten

/-! ## Calls -/

/-- What stands after a class in the line of the class of an object, where both follow from where the
code stands. -/
def superOf (scope : Scope) : Eval Datum := do
  let missing (words : String) : Eval Datum := fault (.raised "RuntimeError".toList words.toList)
  match scope.first with
  | none => missing "super(): no arguments"
  | some name =>
    match ← variableAt scope.own name, ← holderOf "__class__".toList scope.enclosing with
    | some (some self), some (_, some type) => objectAbove type self
    | some (some _), some (_, none) => missing "super(): empty __class__ cell"
    | some (some _), none => missing "super(): __class__ cell not found"
    | _, _ => missing "super(): arg[0] deleted"

/-- A call with arguments that are evaluated. A method of a standard type that is called for an object
is called as what the type has. -/
def callWith (r : Runner) (scope : Scope) (isAttribute : Bool) (f : Datum) (ds : List Datum)
    (named : List (Text × Datum)) : Eval Datum := do
  match f with
  | .type ['s', 'u', 'p', 'e', 'r'] =>
    if ds.isEmpty && named.isEmpty then superOf scope else r.call f ds named
  | .ref address =>
    match isAttribute, ← read address with
    | true, .bound (.member owner name) self =>
      if isClassMethod name then r.call f ds named
      else r.call (.member owner name) (self :: ds) named
    | _, _ => r.call f ds named
  | f => r.call f ds named

/-- Whether an expression is an attribute. -/
def isAttribute : Expr → Bool
  | .attribute .. => true
  | _ => false

/-! ## Expressions -/

/-- A number as a constant. -/
def numeralValue (mark : Mark) : Numeral → Datum
  | .int n => .ofInt n mark
  | .float x => .float x mark
  | .imaginary _ => .plain "complex".toList (Datum.plainText "complex".toList)

/-- The value of an expression that may be missing. -/
def optionalValue (r : Runner) (scope : Scope) : Option Expr → Eval Datum
  | some e => r.value scope e
  | none => return .none

/-- The value of an operator on two expressions. -/
def binaryValue (r : Runner) (scope : Scope) (op : BinaryOp) (left right : Expr) : Eval Datum := do
  let a ← r.value scope left
  let d ← combine r.call op a (← r.value scope right)
  if isConstant left && isConstant right && staysConstant op d then
    return settled scope.constants d
  else return d

/-- The value of an expression. -/
def valueOf (r : Runner) (scope : Scope) : Expr → Eval Datum
  | .none => return .none
  | .bool b => return .bool b
  | .number n => return numeralValue scope.constants n
  | .ellipsis => return .plain "ellipsis".toList "Ellipsis".toList
  | .str t => return settled scope.constants (.str t 0)
  | .bytes t => return .bytes (t.map fun c => UInt8.ofNat c.toNat)
  | .formatted parts => do joinedParts r.call (← filledParts r scope parts)
  | .field value label conversion format => do
    joinedParts r.call (← filledParts r scope [.field value label conversion format])
  | .name t => scope.readName t
  | .attribute object name => do
    attributeOf r.call (← r.value scope object) (scope.resolve name)
  | .subscript object index => do
    let d ← r.value scope object
    let value ← entryAt r.call d (← r.value scope index)
    return if isConstant object && isConstant index then settled scope.constants value else value
  | .slice lower upper step => do
    let lower ← optionalValue r scope lower
    let upper ← optionalValue r scope upper
    add (.slice lower upper (← optionalValue r scope step))
  | .call function arguments => do
    let f ← r.value scope function
    let (ds, named) ← argumentsOf r scope f arguments
    callWith r scope (isAttribute function) f ds named
  | .unary op operand => do
    let d ← sign r.call op (← r.value scope operand)
    return if isConstant operand then settled scope.constants d else d
  | .binary op left right => binaryValue r scope op left right
  | .all operands => settle r scope false operands
  | .any operands => settle r scope true operands
  | .compare first rest => do compareChain r scope (← r.value scope first) rest
  | .conditional test yes no => do
    if ← isTrue r.call (← r.value scope test) then r.value scope yes else r.value scope no
  | .lambda parameters body =>
    makeFunction r scope "<lambda>".toList parameters [.result (some body)] false
  | .list items => do add (.list (← sequenceItems r scope items))
  | .tuple items => do
    let d ← newTuple (← sequenceItems r scope items)
    return if areConstants items then settled scope.constants d else d
  | .set items => do setOf r.call (← setItems r scope items)
  | .dict entries => do
    let fresh ← add (.dict [])
    match fresh with
    | .ref address =>
      fillDict r scope address [] entries
      return fresh
    | _ => return fresh
  | .comprehension kind item clauses => comprehendedItems r scope kind item clauses
  | .dictComprehension key value clauses => comprehendedEntries r scope key value clauses
  | .starred _ => unsupported "this use of a star"
  | .await _ => unsupported "anything asynchronous"
  | .yield _ => unsupported "functions that hand out values"
  | .yieldFrom _ => unsupported "functions that hand out values"
  | .named name value => do
    let d ← r.value scope value
    scope.assignName name d
    return d

end FormulaCube.Run
