import FormulaCube.Run.Walk

/-!
# Comparisons

Numbers compare by what they stand for, texts by their characters, and sequences by the first members
that differ. The members of collections count as equal where they are one and the same. Objects compare
as their class says; where nothing else is said, a thing equals only itself and has no order.

* `compareWithin` — comparisons of things that are nested at most so deep.
* `compareBy` — what a comparison gives.
* `equals`, `isAmongBy`, `holds` — equality of members, and whether something contains a member.
-/

namespace FormulaCube.Run

open Eval Code

/-- How a comparison is written. -/
def comparisonText : Comparison → Text
  | .equal => "==".toList
  | .notEqual => "!=".toList
  | .less => ['<']
  | .lessEqual => "<=".toList
  | .greater => ['>']
  | .greaterEqual => ">=".toList
  | .same => "is".toList
  | .notSame => "is not".toList
  | .member => "in".toList
  | .notMember => "not in".toList

/-- The special method that a comparison asks for. -/
def comparisonName : Comparison → String
  | .notEqual => "__ne__"
  | .less => "__lt__"
  | .lessEqual => "__le__"
  | .greater => "__gt__"
  | .greaterEqual => "__ge__"
  | _ => "__eq__"

/-- The comparison that holds between two things if another one holds between them the other way
round. -/
def turned : Comparison → Comparison
  | .less => .greater
  | .lessEqual => .greaterEqual
  | .greater => .less
  | .greaterEqual => .lessEqual
  | op => op

/-- Whether an order is one that a comparison accepts. -/
def accepts : Comparison → Ordering → Bool
  | .less, o => o = .lt
  | .lessEqual, o => o ≠ .gt
  | .greater, o => o = .gt
  | .greaterEqual, o => o ≠ .lt
  | .notEqual, o => o ≠ .eq
  | _, o => o = .eq

/-- Whether a comparison only tells whether two things are equal. -/
def isEquality (op : Comparison) : Bool := op = .equal || op = .notEqual

/-- A comparison of two things of which it is known whether they are equal. -/
def decidedEquality (op : Comparison) (equal : Bool) : Option Datum :=
  if isEquality op then some (.bool (equal == (op = .equal))) else none

/-- How two texts compare. -/
def textOrder (s t : Text) : Ordering :=
  if Text.less s t then .lt else if Text.less t s then .gt else .eq

/-- How bytes compare. -/
def bytesOrder : List UInt8 → List UInt8 → Ordering
  | [], [] => .eq
  | [], _ => .lt
  | _, [] => .gt
  | a :: s, b :: t => if a < b then .lt else if b < a then .gt else bytesOrder s t

/-- A comparison of numbers, if both are. What is not a number differs from everything. -/
def compareNumbers? (op : Comparison) (a b : Datum) : Option Datum := do
  let x ← a.numberValue?
  let y ← b.numberValue?
  match ← Value.compareNumbers? x y with
  | some o => return .bool (accepts op o)
  | none => return .bool (op = .notEqual)

/-! ## Members of collections -/

section Members

variable (call : Caller) (compare : Comparison → Datum → Datum → Eval Datum)

/-- Whether two members are one and the same, or equal. -/
def equalMembers (a b : Datum) : Eval Bool := do
  if a.identical b then return true else isTrue call (← compare .equal a b)

/-- A comparison of sequences: by the first members that differ, and by length where there are none. -/
def compareSequences (op : Comparison) : List Datum → List Datum → Eval Datum
  | [], [] => return .bool (accepts op .eq)
  | [], _ :: _ => return .bool (accepts op .lt)
  | _ :: _, [] => return .bool (accepts op .gt)
  | d :: ds, e :: es => do
    if ← equalMembers call compare d e then compareSequences op ds es
    else
      match op with
      | .equal => return .bool false
      | .notEqual => return .bool true
      | op => compare op d e

/-- Whether every entry is one of the others. -/
def equalEntries (others : Entries Datum Datum) : Entries Datum Datum → Eval Bool
  | [] => return true
  | entry :: entries => do
    match others.find? entry.1 with
    | none => return false
    | some d =>
      if ← equalMembers call compare entry.2.2 d then equalEntries others entries else return false

/-- Whether something is one of these. -/
def isAmongBy (d : Datum) : List Datum → Eval Bool
  | [] => return false
  | e :: es => do if ← equalMembers call compare e d then return true else isAmongBy d es

end Members

/-- A comparison of two sets of keys. -/
def compareSets (op : Comparison) (keys others : List Key) : Bool :=
  let subset := keys.all others.contains
  let superset := others.all keys.contains
  match op with
  | .less => subset && !superset
  | .lessEqual => subset
  | .greater => superset && !subset
  | .greaterEqual => superset
  | .notEqual => !(subset && superset)
  | _ => subset && superset

/-- The keys of what counts as a set: a set, or the keys or the entries of a dictionary. -/
def setKeys? (object : Object) : Eval (Option (List Key)) := do
  match object with
  | .set members => return some (members.map (·.1))
  | .dictView .keys dict =>
    match ← read dict with
    | .dict entries => return some (entries.map (·.1))
    | _ => return none
  | .dictView .items dict =>
    match ← read dict with
    | .dict entries =>
      return some (← entries.mapM fun entry => do return .tuple [entry.1, ← keyOf entry.2.2])
    | _ => return none
  | _ => return none

/-- A comparison of two objects in the memory that a standard type settles, if one does. -/
def compareObjects (call : Caller) (compare : Comparison → Datum → Datum → Eval Datum)
    (op : Comparison) (a b : Object) : Eval (Option Datum) := do
  match a, b with
  | .list ds, .list es =>
    if ds.length ≠ es.length && isEquality op then return decidedEquality op false
    else return some (← compareSequences call compare op ds es)
  | .dict entries, .dict others =>
    if !isEquality op then return none
    else if entries.length ≠ others.length then return decidedEquality op false
    else return decidedEquality op (← equalEntries call compare others entries)
  | .frame cube coordinate, .frame cube' coordinate' =>
    if !isEquality op then return none
    else
      return some (← compareSequences call compare op [cube, coordinate] [cube', coordinate'])
  | .bound f self, .bound g other =>
    return decidedEquality op (f.identical g && self.identical other)
  | .slice a b c, .slice a' b' c' =>
    return some (← compareSequences call compare op [a, b, c] [a', b', c'])
  | a, b =>
    match ← setKeys? a, ← setKeys? b with
    | some keys, some others => return some (.bool (compareSets op keys others))
    | _, _ => return none

/-- A comparison that a standard type settles, if one does. -/
def compareStandard (call : Caller) (compare : Comparison → Datum → Datum → Eval Datum)
    (op : Comparison) (a b : Datum) : Eval (Option Datum) := do
  let a ← coreOf a
  let b ← coreOf b
  match compareNumbers? op a b with
  | some d => return some d
  | none =>
    match a, b with
    | .str s _, .str t _ => return some (.bool (accepts op (textOrder s t)))
    | .bytes s, .bytes t => return some (.bool (accepts op (bytesOrder s t)))
    | .tuple ds _, .tuple es _ => return some (← compareSequences call compare op ds es)
    | .range a b c, .range a' b' c' =>
      return decidedEquality op (Datum.rangeShape a b c == Datum.rangeShape a' b' c')
    | .other _ k _, d => return decidedEquality op (k.same d.plainKey)
    | d, .other _ k _ => return decidedEquality op (d.plainKey.same k)
    | .settings m, .settings n =>
      let w ← get
      return decidedEquality op
        ((w.compilers[m]?.map (·.settings)) == (w.compilers[n]?.map (·.settings)))
    | .ref x, .ref y => compareObjects call compare op (← read x) (← read y)
    | _, _ => return none

/-! ## All comparisons -/

/-- What the class of the first of two things says about a comparison. Where it only says what is equal,
everything else differs. -/
def compareSpecial (call : Caller) (op : Comparison) (a b : Datum) : Eval (Option Datum) := do
  match ← special? a (comparisonName op) with
  | some f =>
    let answer ← callFor call a f [b]
    return if isNotApplicable answer then none else some answer
  | none =>
    if op = .notEqual then
      match ← askApplicable? call a "__eq__" [b] with
      | some d => return some (.bool !(← isTrue call d))
      | none => return none
    else return none

/-- Whether the class of something says something itself about a comparison. -/
def hasSpecialComparison (op : Comparison) (d : Datum) : Eval Bool := do
  if (← special? d (comparisonName op)).isSome then return true
  else if op = .notEqual then return (← special? d "__eq__").isSome
  else return false

/-- What the type of the first of two things says about a comparison. -/
def compareFrom (call : Caller) (compare : Comparison → Datum → Datum → Eval Datum)
    (op : Comparison) (a b : Datum) : Eval (Option Datum) := do
  if ← hasSpecialComparison op a then compareSpecial call op a b
  else compareStandard call compare op a b

/-- Whether the type of the second of two things extends that of the first. Then it is asked first. -/
def isNarrower (a b : Datum) : Eval Bool := do
  let s ← typeOf a
  let t ← typeOf b
  return !s.identical t && (← isKindOf t s)

/-- The outcome of a comparison about which no type says anything. -/
def compareByIdentity (op : Comparison) (a b : Datum) : Eval Datum := do
  match decidedEquality op (a.identical b) with
  | some d => return d
  | none => fault (.unorderable (comparisonText op) (← typeName a) (← typeName b))

/-- Whether a class that cells define has a say in how something behaves. -/
def hasOwnClass (d : Datum) : Eval Bool := do
  match d with
  | .ref address =>
    match ← read address with
    | .instance .. => return true
    | .exception (.ref _) _ _ => return true
    | _ => return false
  | _ => return false

/-- A comparison of two things, of which each type is asked in turn. -/
def compareInTurn (call : Caller) (compare : Comparison → Datum → Datum → Eval Datum)
    (op : Comparison) (a b : Datum) : Eval Datum := do
  let forth := compareFrom call compare op a b
  let back := compareFrom call compare (turned op) b a
  if (← hasOwnClass a) || (← hasOwnClass b) then
    let (first, second) := if ← isNarrower a b then (back, forth) else (forth, back)
    match ← first with
    | some d => return d
    | none =>
      match ← second with
      | some d => return d
      | none => compareByIdentity op a b
  else
    match ← forth with
    | some d => return d
    | none => compareByIdentity op a b

/-- A comparison of things that are nested at most `depth` deep. -/
def compareWithin (call : Caller) : (depth : Nat) → Comparison → Datum → Datum → Eval Datum
  | 0, _, _, _ =>
    fault (.raised "RecursionError".toList
      "maximum recursion depth exceeded in comparison".toList)
  | depth + 1, op, a, b => compareInTurn call (compareWithin call depth) op a b

/-- How deeply things are nested at most that are compared. -/
def comparisonDepth : Nat := 1000

/-- A comparison by value. -/
def compareValues (call : Caller) (op : Comparison) (a b : Datum) : Eval Datum :=
  compareWithin call comparisonDepth op a b

/-- Whether two members of collections are one and the same, or equal. -/
def equals (call : Caller) (a b : Datum) : Eval Bool :=
  equalMembers call (compareValues call) a b

/-! ## Containing -/

/-- Whether what is still to come has a member that equals something. -/
def comesUp (call : Caller) (d : Datum) : (bound : Nat) → Walk → Eval Bool
  | 0, _ => fault .tooDeep
  | bound + 1, walk => do
    match ← walk.next call with
    | none => return false
    | some (e, rest) => if ← equals call e d then return true else comesUp call d bound rest

/-- Whether an integer is one of a range. -/
def isInRange (start stop step i : Int) : Bool :=
  (if 0 < step then start ≤ i && i < stop else stop < i && i ≤ start) && (i - start) % step = 0

/-- Whether something comes up when a thing is gone through. -/
def isFoundIn (call : Caller) (collection d : Datum) : Eval Bool := do
  match ← (walkOf call collection).attempt with
  | .ok walk => comesUp call d turnLimit walk
  | .error f =>
    if ← isOfKind ["TypeError"] f then fault (.notContainer (← typeName collection)) else fail f

/-- Whether an object in the memory contains something. -/
def holdsObject (call : Caller) (collection d : Datum) (object : Object) : Eval Bool := do
  match object with
  | .list ds => isAmongBy call (compareValues call) d ds
  | .dict entries => return (entries.find? (← hashKey call d)).isSome
  | .set members => return (members.find? (← hashKey call d)).isSome
  | .dictView .keys dict =>
    match ← read dict with
    | .dict entries => return (entries.find? (← hashKey call d)).isSome
    | _ => return false
  | _ => isFoundIn call collection d

/-- Whether a collection of a standard type contains something. -/
def holdsStandard (call : Caller) (collection d : Datum) : Eval Bool := do
  match ← coreOf collection with
  | .tuple ds _ => isAmongBy call (compareValues call) d ds
  | .str t _ =>
    match ← coreOf d with
    | .str needle _ => return needle.occursIn t
    | _ => fault (.searchedText (← typeName d))
  | .range start stop step =>
    match d, d.numberValue? with
    | .float .., _ => comesUp call d turnLimit (← walkOf call collection)
    | _, some (.int i) => return isInRange start stop step i
    | _, _ => comesUp call d turnLimit (← walkOf call collection)
  | .bytes _ => comesUp call d turnLimit (← walkOf call collection)
  | .registry => contains .registry d
  | .ref address => holdsObject call collection d (← read address)
  | _ => isFoundIn call collection d

/-- Whether a collection contains something. -/
def holds (call : Caller) (collection d : Datum) : Eval Bool := do
  match ← special? collection "__contains__" with
  | some f => isTrue call (← callFor call collection f [d])
  | none => holdsStandard call collection d

/-! ## What comparisons give -/

/-- What a comparison gives. -/
def compareBy (call : Caller) (op : Comparison) (a b : Datum) : Eval Datum := do
  match op with
  | .same => return .bool (a.identical b)
  | .notSame => return .bool !(a.identical b)
  | .member => return .bool (← holds call b a)
  | .notMember => return .bool !(← holds call b a)
  | op => compareValues call op a b

/-- Whether one thing comes before another one. -/
def isLess (call : Caller) (a b : Datum) : Eval Bool := do
  isTrue call (← compareValues call .less a b)

end FormulaCube.Run
