import FormulaCube.Run.Evaluation

/-!
# Executing statements

* `executeBlock` — statements one after the other.
* `callOf` — a call: of a function, of a class, or of something standard.
* `runner` — code whose calls, blocks and expressions are nested at most `depth` deep.
-/

namespace FormulaCube.Run

open Eval Code

/-! ## Exceptions -/

/-- Stops with an exception. It is put in words by whoever is told of it. -/
def throwException {α : Type} (type : Datum) (address : Nat) : Eval α := do
  let kind := type.className (← get).memory
  fault (.thrown kind [] (← isKindOf type (.type "SyntaxError".toList)) address)

/-- Stops with a thing, if it is an exception. -/
def throwDatum {α : Type} (d : Datum) : Eval α := do
  let wrong : Eval α := fault (.typeMisuse "exceptions must derive from BaseException".toList)
  match d with
  | .ref address =>
    match ← read address with
    | .exception type _ _ => throwException type address
    | _ => wrong
  | _ => wrong

/-- Stops with a fresh exception of a kind. -/
def throwKind {α : Type} (kind : String) (arguments : List Datum) : Eval α := do
  throwDatum (← makeException (.type kind.toList) arguments)

/-- A fault with the words of the exception behind it, if there is one. An exception that cannot be put in
words keeps the fault of the attempt, which may be an exception in its turn; they are followed at most
`depth` deep. A failure about cells comes in the place of the exception. -/
def wordedWithin (call : Caller) : (depth : Nat) → Fault → Eval Fault
  | depth + 1, .thrown kind _ ofSource address => do
    match ← (textOf call (.ref address)).attempt with
    | .ok words => return .thrown kind words ofSource address
    | .error (.fault reason) => return .wordless kind (← wordedWithin call depth reason)
    | .error f => fail f
  | _, f => return f

/-- What something comes to for whoever runs it and puts exceptions in words. -/
def withWords {α : Type} (call : Caller) (x : Eval α) : Eval α := do
  match ← x.attempt with
  | .ok a => return a
  | .error (.fault f) => fault (← wordedWithin call shownDepth f)
  | .error f => fail f

/-- Whether something is an exception. -/
def isException (d : Datum) : Eval Bool := do
  if ← isType d then return false else isExceptionType (← typeOf d)

/-- The exception that a value stands for: itself, or a fresh one of a kind. -/
def exceptionFrom (call : Caller) (d : Datum) : Eval Datum := do
  if (← isType d) && (← isExceptionType d) then
    let made ← call d [] []
    if ← isException made then return made
    else
      fault (.typeMisuse ("calling ".toList ++ (← shown call d) ++
        " should have returned an instance of BaseException, not ".toList ++
        (← shown call (← typeOf made))))
  else if ← isException d then return d
  else fault (.typeMisuse "exceptions must derive from BaseException".toList)

/-- What an exception is said to come from has to be an exception, or nothing. -/
def checkCause (call : Caller) (d : Datum) : Eval Unit := do
  match d with
  | .none => return
  | d =>
    if (← isType d) && (← isExceptionType d) then discard <| call d [] []
    else if ← isException d then return
    else fault (.typeMisuse "exception causes must derive from BaseException".toList)

/-- Raises an exception. -/
def raiseValue (r : Runner) (scope : Scope) (exception cause : Option Expr) : Eval Flow := do
  match exception with
  | none => fault (.raised "RuntimeError".toList "No active exception to reraise".toList)
  | some e =>
    let d ← r.value scope e
    let cause ← optionalValue r scope cause
    let d ← exceptionFrom r.call d
    checkCause r.call cause
    throwDatum d

/-! ## Single statements -/

/-- Changes a target by an operator. -/
def augment (r : Runner) (scope : Scope) (target : Expr) (op : BinaryOp) (value : Expr) :
    Eval Unit := do
  match target with
  | .name t =>
    let old ← scope.readName t
    scope.assignName t (← combineInPlace r.call op old (← r.value scope value))
  | .attribute object name =>
    let object ← r.value scope object
    let name := scope.resolve name
    let old ← attributeOf r.call object name
    setAttribute r.call object name (← combineInPlace r.call op old (← r.value scope value))
  | .subscript object index =>
    let object ← r.value scope object
    let index ← r.value scope index
    let old ← entryAt r.call object index
    setEntry r.call object index (← combineInPlace r.call op old (← r.value scope value))
  | _ => unsupported "this target"

mutual

/-- Takes the value of a target away. -/
def removeTarget (r : Runner) (scope : Scope) : Expr → Eval Unit
  | .name t => scope.deleteName t
  | .attribute object name => do
    deleteAttribute r.call (← r.value scope object) (scope.resolve name)
  | .subscript object index => do
    let object ← r.value scope object
    deleteEntry r.call object (← r.value scope index)
  | .tuple items => removeTargets r scope items
  | .list items => removeTargets r scope items
  | _ => unsupported "this target"

/-- Takes the values of targets away, one after the other. -/
def removeTargets (r : Runner) (scope : Scope) : List Expr → Eval Unit
  | [] => return
  | item :: items => do
    removeTarget r scope item
    removeTargets r scope items

end

/-- Keeps what is noted about a name of a module or class. -/
def keepNote (call : Caller) (scope : Scope) (name : Text) (note : Datum) : Eval Unit := do
  let notes : Text := "__annotations__".toList
  let kept ← match (← variableAt scope.own notes).join with
    | some d => pure d
    | none => do
      let fresh ← add (.dict [])
      setVariable scope.own notes (some fresh)
      pure fresh
  setEntry call kept (.word (scope.resolve name)) note

/-- Notes something about a target, which may get a value. Outside functions the note is evaluated, and
kept if it is about a name. -/
def annotate (r : Runner) (scope : Scope) (target note : Expr) (value : Option Expr) :
    Eval Unit := do
  match value, target with
  | some e, _ => assign r scope target (← r.value scope e)
  | none, .attribute object _ => discard <| r.value scope object
  | none, .subscript object index =>
    let _ ← r.value scope object
    let _ ← r.value scope index
  | none, _ => pure ()
  unless scope.isFunction do
    let d ← r.value scope note
    match target with
    | .name t => keepNote r.call scope t d
    | _ => return

/-- The package of a module, which lies `level` steps above it. -/
def packageOf (scope : Scope) (level : Nat) : Eval (List Text) := do
  match ← variableAt scope.module "__name__".toList with
  | some (some (.str t _)) =>
    let parts := Text.splitOn '.' t
    return parts.take (parts.length - level)
  | _ => return []

/-- Imports modules. -/
def importAll (scope : Scope) : List ImportAlias → Eval Unit
  | [] => return
  | a :: rest => do
    scope.assignName a.name (← moduleOf (a.path.map scope.resolve))
    importAll scope rest

/-- Imports names out of a module. -/
def importEach (scope : Scope) (module : Datum) : List ImportAlias → Eval Unit
  | [] => return
  | a :: rest => do
    scope.assignName a.name (← importedName module (scope.resolve (a.path.headD [])))
    importEach scope module rest

/-- Imports all names out of a module. -/
def importEverything (scope : Scope) (module : Datum) : Eval Unit := do
  match module with
  | .ref address =>
    match ← read address with
    | .module _ members => members.forM fun m => scope.assignName m.1 m.2
    | _ => return
  | _ => return

/-- Imports names out of a module given by its path. -/
def importFrom (scope : Scope) (level : Nat) (path : List Text)
    (names : Option (List ImportAlias)) : Eval Unit := do
  if 0 < level then
    missingModule (Text.join ['.'] (← packageOf scope level))
  else
    let module ← moduleOf (path.map scope.resolve)
    match names with
    | some names => importEach scope module names
    | none => importEverything scope module

/-- Stops if a condition that has to hold does not. -/
def assertThat (r : Runner) (scope : Scope) (test : Expr) (message : Option Expr) : Eval Unit := do
  unless ← isTrue r.call (← r.value scope test) do
    let arguments ← message.toList.mapM (r.value scope)
    throwKind "AssertionError" arguments

/-! ## Loops -/

/-- Turns of a loop while a condition holds; `true` if the loop was not left. -/
def repeatWhile (r : Runner) (scope : Scope) (test : Expr) (body : List Stmt) :
    (turns : Nat) → Eval (Bool × Flow)
  | 0 => fault .tooDeep
  | turns + 1 => do
    if ← isTrue r.call (← r.value scope test) then
      match ← r.block scope body with
      | .leave => return (false, .next)
      | .result d => return (false, .result d)
      | _ => repeatWhile r scope test body turns
    else return (true, .next)

/-- Turns of a loop through a collection; `true` if the loop was not left. -/
def repeatEach (r : Runner) (scope : Scope) (target : Expr) (body : List Stmt) :
    (turns : Nat) → Walk → Eval (Bool × Flow)
  | 0, _ => fault .tooDeep
  | turns + 1, walk => do
    match ← walk.next r.call with
    | none => return (true, .next)
    | some (d, walk) =>
      assign r scope target d
      match ← r.block scope body with
      | .leave => return (false, .next)
      | .result d => return (false, .result d)
      | _ => repeatEach r scope target body turns walk

/-- What comes after a loop, unless it was left. -/
def afterLoop (r : Runner) (scope : Scope) (orelse : List Stmt) : Bool × Flow → Eval Flow
  | (true, _) => r.block scope orelse
  | (false, flow) => return flow

/-! ## Classes -/

/-- The members of a class, from the variables of its body. -/
def membersFrom (values : List (Text × Option Datum)) : List (Text × Datum) :=
  values.filterMap fun v => v.2.map (v.1, ·)

/-- What the body of a class begins with: the module, its own name with those of what it is defined in,
and the text that describes it. -/
def firstMembers (scope : Scope) (path : Text) (body : List Stmt) :
    Eval (List (Text × Option Datum)) := do
  let module ← variableAt scope.module "__name__".toList
  return [("__module__".toList, module.join), ("__qualname__".toList, some (.word path))] ++
    (match description? body with
    | some t => [("__doc__".toList, some (settled scope.constants (.str t 0)))]
    | none => [])

/-- What the body of a class sees. -/
def classScope (scope : Scope) (name path : Text) (body : List Stmt) (own : Nat) (cell : Option Nat) :
    Scope :=
  let owner := ownerOf name
  let names := (boundNames body).map (privateName owner)
  { own := own
    isFunction := false
    enclosing := scope.around
    classCell := cell
    module := scope.module
    globals := (globalNames body).map (privateName owner) ++ scope.globalsInside names
    inherited := scope.inherited
    path := path ++ ['.']
    owner := owner
    constants := scope.constants
    first := none }

/-- Defines a class. What makes it is settled before its body is run. -/
def defineClass (r : Runner) (scope : Scope) (name : Text) (arguments : List (ArgumentKind × Expr))
    (body : List Stmt) : Eval Datum := do
  let (bases, named) ← argumentsOf r scope (.builtin "__build_class__".toList) arguments
  let maker ← classMaker bases named
  let path := scope.pathOf name
  let first ← firstMembers scope path body
  let owner := ownerOf name
  let names := ((boundNames body).map (privateName owner)).filter fun n => (first.lookup n).isNone
  let values := first ++ names.map fun n => (n, none)
  match ← add (.variables values), ← add (.variables [("__class__".toList, none)]) with
  | .ref own, .ref cell =>
    discard <| r.block (classScope scope name path body own (some cell)) body
    let type ← buildClass r.call maker name bases (membersFrom (← variablesAt own)) named
    if (← classAt? type).isSome then setVariable cell "__class__".toList (some type)
    return type
  | d, _ => return d

/-- What decorators make of something, the last of them first. -/
def decorated (r : Runner) (decorators : List Datum) (d : Datum) : Eval Datum :=
  decorators.foldrM (fun f d => r.call f [d] []) d

/-! ## Statements -/

/-- One statement. -/
def executeStatement (r : Runner) (scope : Scope) : Stmt → Eval Flow
  | .expression _ _ value => do
    let _ ← r.value scope value
    return .next
  | .assign targets value => do
    let d ← r.value scope value
    targets.forM fun target => assign r scope target d
    return .next
  | .augmented target op value => do
    augment r scope target op value
    return .next
  | .annotated target note value => do
    annotate r scope target note value
    return .next
  | .pass => return .next
  | .leave => return .leave
  | .skip => return .skip
  | .result value => do return .result (← optionalValue r scope value)
  | .raise exception cause => raiseValue r scope exception cause
  | .delete targets => do
    removeTargets r scope targets
    return .next
  | .assert test message => do
    assertThat r scope test message
    return .next
  | .global _ => return .next
  | .nonlocal _ => return .next
  | .importModules modules => do
    importAll scope modules
    return .next
  | .importNames level path names => do
    importFrom scope level path names
    return .next
  | .branch test yes no => do
    if ← isTrue r.call (← r.value scope test) then r.block scope yes else r.block scope no
  | .loop test body orelse => do
    afterLoop r scope orelse (← repeatWhile r scope test body turnLimit)
  | .each _ target source body orelse => do
    let walk ← walkOf r.call (← r.value scope source)
    afterLoop r scope orelse (← repeatEach r scope target body turnLimit walk)
  | .function async decorators name parameters returns body => do
    let ds ← decorators.mapM (r.value scope)
    let f ← makeFunction r scope name parameters body async
    let _ ← (parameters.filterMap (·.note) ++ returns.toList).mapM (r.value scope)
    scope.assignName name (← decorated r ds f)
    return .next
  | .classDef decorators name arguments body => do
    let ds ← decorators.mapM (r.value scope)
    let c ← defineClass r scope name arguments body
    scope.assignName name (← decorated r ds c)
    return .next
  | .within .. => unsupported "blocks with something to be closed"
  | .attempt .. => unsupported "handlers of exceptions"
  | .select .. => unsupported "matches"

/-- Statements one after the other. -/
def executeBlock (r : Runner) (scope : Scope) : List Stmt → Eval Flow
  | [] => return .next
  | s :: rest => do
    match ← executeStatement r scope s with
    | .next => executeBlock r scope rest
    | flow => return flow

/-! ## Calls -/

/-- The parameters of a function. -/
def signatureOf (p : Procedure) : Signature :=
  ⟨p.path, p.parameters.map fun q => (q.kind, q.name), p.defaults⟩

/-- The scope of a function that is called. -/
def Scope.ofProcedure (p : Procedure) (own : Nat) : Scope where
  own := own
  isFunction := true
  enclosing := p.enclosing
  classCell := none
  module := p.module
  globals := p.globals
  inherited := p.globals
  path := p.path ++ ".<locals>.".toList
  owner := p.owner
  constants := p.constants
  first := (p.parameters.find? fun q => q.kind = .positionOnly || q.kind = .plain).map (·.name)

/-- The values that the parameters of a function get. -/
def receivedValues (call : Caller) (received : Received) : Eval (List (Text × Datum)) := do
  let rest ← received.rest.toList.mapM fun (name, ds) => do return (name, ← newTuple ds)
  let named ← received.named.toList.mapM fun (name, entries) => do
    return (name, ← dictOf call [] entries)
  return received.values ++ rest ++ named

/-- A call of a function. -/
def callProcedure (r : Runner) (p : Procedure) (ds : List Datum) (named : List (Text × Datum)) :
    Eval Datum := do
  let received ← ofExcept ((signatureOf p).receive ds named)
  let values ← receivedValues r.call received
  match p.deferred, ← add (.variables (p.locals.map fun name => (name, values.lookup name))) with
  | some type, _ => return .plain type (Datum.plainText type)
  | none, .ref own =>
    match ← r.block (.ofProcedure p own) p.body with
    | .result d => return d
    | _ => return .none
  | none, d => return d

/-- A call of something in the memory. -/
def callObject (ask : Ask) (r : Runner) (d : Datum) (object : Object) (ds : List Datum)
    (named : List (Text × Datum)) : Eval Datum := do
  match object with
  | .procedure p => callProcedure r p ds named
  | .bound (.member owner name) self =>
    let type ← if isClassMethod name then pure self else typeOf self
    let label := (← pathOfType type) ++ '.' :: name
    callMember ask r.call label owner name (self :: ds) named
  | .bound f self => r.call f (self :: ds) named
  | .classRecord _ => construct r.call d ds named
  | .wrapped ['s', 't', 'a', 't', 'i', 'c', 'm', 'e', 't', 'h', 'o', 'd'] f => r.call f ds named
  | _ =>
    match ← special? d "__call__" with
    | some member => r.call (← memberFor r.call d (← typeOf d) member) ds named
    | none => fault (.notCallable (← typeName d))

/-- A call. -/
def callOf (ask : Ask) (r : Runner) (f : Datum) (ds : List Datum) (named : List (Text × Datum)) :
    Eval Datum := do
  match f with
  | .ref address => callObject ask r f (← read address) ds named
  | .builtin name =>
    if name.contains '.' then callModuleFunction r.call name ds named
    else callFunction r.call name ds named
  | .type name => callType r.call name ds named
  | .member owner name =>
    if Datum.isComputedMember owner name then fault (.notCallable (← typeName f))
    else callMember ask r.call (owner ++ '.' :: name) owner name ds named
  | f => fault (.notCallable (← typeName f))

/-- Code whose calls, blocks and expressions are nested at most `depth` deep. -/
def runner (ask : Ask) : (depth : Nat) → Runner
  | 0 =>
    { value := fun _ _ => fault .tooDeep
      block := fun _ _ => fault .tooDeep
      call := fun _ _ _ => fault .tooDeep }
  | depth + 1 =>
    { value := fun scope e => valueOf (runner ask depth) scope e
      block := fun scope block => executeBlock (runner ask depth) scope block
      call := fun f ds named => callOf ask (runner ask depth) f ds named }

/-- How deeply the code of a cell may be nested when it is run. -/
def codeDepth : Nat := 100000

end FormulaCube.Run
