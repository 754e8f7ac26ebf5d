import FormulaCube.Run.Standard

/-!
# Operations under special names

What the standard types do where the language asks for something can be called by a special name too,
also from a class that extends them.

* `Operation` — what a special name stands for.
* `operationOf?` — the operation of a special name.
* `callOperation` — a call of one.
-/

namespace FormulaCube.Run

open Eval Code

/-- What a special name stands for. -/
inductive Operation where
  /-- A comparison. -/
  | compare (op : Comparison)
  /-- An operator on the object and an operand after it. -/
  | combine (op : BinaryOp)
  /-- An operator on the object and an operand before it. -/
  | combineBack (op : BinaryOp)
  /-- An operator that changes the object. -/
  | change (op : BinaryOp)
  /-- A sign or complement. -/
  | sign (op : UnaryOp)
  /-- The number of members. -/
  | length
  /-- Whether the object counts as true. -/
  | truth
  /-- How the object is shown. -/
  | shown
  /-- The object in running text. -/
  | text
  /-- The number by which the object is looked up. -/
  | hash
  /-- The integer that the object comes to. -/
  | whole
  /-- The integer that the object is rounded down to. -/
  | floor
  /-- The integer that the object is rounded up to. -/
  | ceiling
  /-- The double that the object comes to. -/
  | real
  /-- The size of the object as a number. -/
  | size
  /-- Whether something is a member. -/
  | holds
  /-- What the object has under a key. -/
  | entry
  /-- Puts something under a key. -/
  | setEntry
  /-- Takes what is under a key out. -/
  | deleteEntry
  /-- Goes through the members. -/
  | walk
  deriving DecidableEq, Repr

/-- The comparisons with special names. -/
def namedComparisons : List Comparison :=
  [.equal, .notEqual, .less, .lessEqual, .greater, .greaterEqual]

/-- The operators with two operands. -/
def allOperators : List BinaryOp :=
  [.add, .sub, .mul, .matMul, .div, .floorDiv, .mod, .pow, .shiftLeft, .shiftRight, .bitOr, .bitXor,
    .bitAnd]

/-- The operations with special names. -/
def operationNames : List (String × Operation) :=
  namedComparisons.map (fun op => (comparisonName op, Operation.compare op)) ++
    allOperators.map (fun op => (operatorMethod "" op, Operation.combine op)) ++
    allOperators.map (fun op => (operatorMethod "r" op, Operation.combineBack op)) ++
    allOperators.map (fun op => (operatorMethod "i" op, Operation.change op)) ++
    [("__neg__", Operation.sign .minus), ("__pos__", .sign .plus), ("__invert__", .sign .invert),
      ("__len__", .length), ("__bool__", .truth), ("__repr__", .shown), ("__str__", .text),
      ("__hash__", .hash), ("__int__", .whole), ("__index__", .whole), ("__trunc__", .whole),
      ("__floor__", .floor), ("__ceil__", .ceiling),
      ("__float__", .real), ("__abs__", .size), ("__contains__", .holds), ("__getitem__", .entry),
      ("__setitem__", .setEntry), ("__delitem__", .deleteEntry), ("__iter__", .walk)]

/-- The operation of a special name. -/
def operationOf? (name : Text) : Option Operation := operationNames.lookup (String.ofList name)

/-- How many operands an operation has beside the object. -/
def Operation.arity : Operation → Nat
  | .compare _ | .combine _ | .combineBack _ | .change _ | .holds | .entry | .deleteEntry => 1
  | .setEntry => 2
  | _ => 0

/-- The operands of an operation, of which there have to be as many as it has. -/
def operandsOf (arity : Nat) (name : Text) (ds : List Datum) (named : List (Text × Datum)) :
    Eval (List Datum) := do
  unless named.isEmpty do
    wrongArguments ("wrapper ".toList ++ name ++ "() takes no keyword arguments".toList)
  if ds.length = arity then return ds
  else
    wrongArguments ((if arity = 2 then [' '] else []) ++ "expected ".toList ++ argumentCount arity ++
      ", got ".toList ++ Text.ofNat ds.length)

/-- An outcome, or that the operation does not apply to the types of its operands. -/
def applicable (x : Eval Datum) : Eval Datum := do
  match ← x.attempt with
  | .ok d => return d
  | .error (.fault (.operands ..)) => return notApplicable
  | .error f => fail f

/-- A comparison as every object has it: nothing but the object itself is equal to it. -/
def compareAsObject (call : Caller) (op : Comparison) (a b : Datum) : Eval Datum := do
  match op with
  | .equal => return if a.identical b then .bool true else notApplicable
  | .notEqual =>
    match ← compareFrom call (compareValues call) .equal a b with
    | some d => return .bool !(← isTrue call d)
    | none => return if a.identical b then .bool false else notApplicable
  | _ => return notApplicable

/-- An exception, or anything else, in running text as a standard type says it. -/
def standardText (call : Caller) (owner : Text) (d : Datum) : Eval Datum := do
  match d with
  | .ref address =>
    match ← read address with
    | .exception _ arguments _ =>
      if owner = objectName then newText (← shown call d)
      else newText (← exceptionText call (textOf call) owner arguments)
    | .instance _ (.str t mark) _ => return .str t mark
    | _ => newText (← shown call d)
  | d => textDatum call d

/-- The number without its sign, if it is a number. -/
def sizeOf? (d : Datum) : Eval (Option Datum) := do
  match d, amount? d with
  | .int i _, _ => if 0 ≤ i then return some d else return some (← newInt (-i))
  | _, some (.int i) => return some (← newInt i.natAbs)
  | _, some (.float x) => return some (← newFloat (if x.isNegative then x.neg else x))
  | _, none => return none

/-- A number rounded to an integer. -/
def roundedNumber (rounding : Binary64 → Option Int) (d : Datum) : Eval Datum := do
  match d, indexOf? d with
  | .float x _, _ => roundedInteger x (rounding x)
  | .int i mark, _ => return .int i mark
  | _, some i => return .ofInt i 0
  | _, none => return notApplicable

/-- The number by which something is looked up. -/
def hashNumber (call : Caller) (d : Datum) : Eval Datum := do
  match ← hashKey call d with
  | .tuple [.object 14 0, .int i] => newInt i
  | .int i => newInt (if i = -1 then -2 else i)
  | .object _ number => newInt number
  | _ => return .ofInt 0 0

/-- A call of an operation of a standard type. -/
def callOperation (call : Caller) (owner : Text) (o : Operation) (self : Datum) (ds : List Datum) :
    Eval Datum := do
  let core ← coreOf self
  let other := ds.headD .none
  match o with
  | .compare op =>
    if owner = objectName then compareAsObject call op self other
    else return (← compareStandard call (compareValues call) op self other).getD notApplicable
  | .combine op => applicable (combineStandard call false op self other)
  | .combineBack op => applicable (combineStandard call false op other self)
  | .change op => do
    let d ← combineInPlace call op core other
    return if d.identical core then self else d
  | .sign op => return (← signedAmount op core).getD notApplicable
  | .length => newInt ((← standardLength? self).getD 0)
  | .truth => return .bool (← standardTruth self)
  | .shown =>
    match self with
    | .ref address => newText (← shownObject (shown call) self (← read address))
    | self => newText (← shown call self)
  | .text => standardText call owner self
  | .hash => hashNumber call core
  | .whole => return (← wholePart? call core).getD notApplicable
  | .floor => roundedNumber Binary64.floor? core
  | .ceiling => roundedNumber Binary64.ceil? core
  | .real => return (← doubleOf? call core).getD notApplicable
  | .size => return (← sizeOf? core).getD notApplicable
  | .holds => return .bool (← holdsStandard call self other)
  | .entry => standardEntry call self other
  | .setEntry => do
    setEntry call core other (ds.tail.headD .none)
    return .none
  | .deleteEntry => do
    deleteEntry call core other
    return .none
  | .walk => add (.iterator ((← typeName core) ++ "_iterator".toList) (← everyMember call core))

end FormulaCube.Run
