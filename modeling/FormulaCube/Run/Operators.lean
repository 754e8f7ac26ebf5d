import FormulaCube.Run.Comparison
import FormulaCube.Run.Format

/-!
# Operators

What operators make of their operands. Numbers are combined by arithmetic, sequences are joined and
repeated, sets are intersected and united, and the places of texts are filled. Objects do as their
class says: first that of the left operand, then that of the right one.

* `sign`, `combine` — operators with one and with two operands.
* `combineInPlace` — an operator that changes its target.
-/

namespace FormulaCube.Run

open Eval Code

/-- How an operator is written. -/
def symbol : BinaryOp → Text
  | .add => ['+']
  | .sub => ['-']
  | .mul => ['*']
  | .matMul => ['@']
  | .div => ['/']
  | .floorDiv => "//".toList
  | .mod => ['%']
  | .pow => "**".toList
  | .shiftLeft => "<<".toList
  | .shiftRight => ">>".toList
  | .bitOr => ['|']
  | .bitXor => ['^']
  | .bitAnd => ['&']

/-- The name of the special methods for an operator. -/
def operatorWord : BinaryOp → String
  | .add => "add"
  | .sub => "sub"
  | .mul => "mul"
  | .matMul => "matmul"
  | .div => "truediv"
  | .floorDiv => "floordiv"
  | .mod => "mod"
  | .pow => "pow"
  | .shiftLeft => "lshift"
  | .shiftRight => "rshift"
  | .bitOr => "or"
  | .bitXor => "xor"
  | .bitAnd => "and"

/-- A special method for an operator; the lead tells for which operand. -/
def operatorMethod (lead : String) (op : BinaryOp) : String := "__" ++ lead ++ operatorWord op ++ "__"

/-- How an operator is named in faults. -/
def operatorName (inPlace : Bool) (op : BinaryOp) : Text :=
  if inPlace then symbol op ++ ['=']
  else if op = .pow then "** or pow()".toList
  else symbol op

/-- The fault of operands that do not fit. -/
def misfit {α : Type} (inPlace : Bool) (op : BinaryOp) (a b : Datum) : Eval α := do
  fault (.operands (operatorName inPlace op) (← typeName a) (← typeName b))

/-! ## Sequences -/

/-- The items of a list, if it is one. -/
def listItems? (d : Datum) : Eval (Option (List Datum)) := do
  match ← coreOf d with
  | .ref address =>
    match ← read address with
    | .list items => return some items
    | _ => return none
  | _ => return none

/-- Whether something is a sequence that can be joined and repeated. -/
def isSequence (d : Datum) : Eval Bool := do
  match ← coreOf d with
  | .str .. => return true
  | .tuple .. => return true
  | d => return (← listItems? d).isSome

/-- One sequence after another of the same kind. Where one of them is empty, it is the other one. -/
def concatenate (a b : Datum) : Eval Datum := do
  match ← coreOf a, ← coreOf b with
  | .str s m, .str t n =>
    if t.isEmpty then return .str s m else if s.isEmpty then return .str t n else newText (s ++ t)
  | .tuple items m, .tuple others n =>
    if others.isEmpty then return .tuple items m
    else if items.isEmpty then return .tuple others n
    else newTuple (items ++ others)
  | x, y =>
    match ← listItems? x, ← listItems? y with
    | some items, some others => add (.list (items ++ others))
    | _, _ => fault (.concatenation (← typeName x) (← typeName b))

/-- How many members a sequence may get when it is repeated. -/
def sizeLimit : Nat := 2 ^ 32

/-- Items several times. None stay none, however often they are taken. -/
def copies {α : Type} (times : Nat) (items : List α) : Eval (List α) := do
  if items.isEmpty then return []
  else if sizeLimit < times * items.length then fault (.raised "MemoryError".toList [])
  else return (List.replicate times items).flatten

/-- A sequence several times. Once it is itself. -/
def repeated (d : Datum) (times : Nat) : Eval Datum := do
  match ← coreOf d with
  | .str t mark => if times = 1 then return .str t mark else newText (← copies times t)
  | .tuple items mark => if times = 1 then return .tuple items mark else newTuple (← copies times items)
  | d => add (.list (← copies times ((← listItems? d).getD [])))

/-- The number of times that something stands for. -/
def timesOf (call : Caller) (count : Datum) : Eval Nat := do
  match ← indexOf call count with
  | some n => if fitsWord n then return n.toNat else fault (.overflow wordMisfit)
  | none => fault (.repetition (← typeName count))

/-- A sequence repeated by a number. -/
def repeatBy (call : Caller) (d count : Datum) : Eval Datum := do
  repeated d (← timesOf call count)

/-! ## Sets and dictionaries -/

/-- The members of a set, or of what counts as one, if it does. -/
def setMembers? (d : Datum) : Eval (Option (Entries Datum Unit)) := do
  match ← coreOf d with
  | .ref address =>
    match ← read address with
    | .set members => return some members
    | .dictView .keys dict =>
      match ← read dict with
      | .dict entries => return some (entries.map fun e => (e.1, e.2.1, ()))
      | _ => return none
    | _ => return none
  | _ => return none

/-- The entries of a dictionary, if it is one. -/
def dictEntries? (d : Datum) : Eval (Option (Entries Datum Datum)) := do
  entriesOf? (← coreOf d)

/-- The outcome of an operator on sets, if it applies to them. -/
def combinedSets? (op : BinaryOp) (a b : Entries Datum Unit) : Option (Entries Datum Unit) :=
  let isIn (s : Entries Datum Unit) (m : Key × Datum × Unit) : Bool := (s.find? m.1).isSome
  match op with
  | .sub => some (a.filter fun m => !isIn b m)
  | .bitAnd => some (a.filter (isIn b))
  | .bitOr => some (a ++ b.filter fun m => !isIn a m)
  | .bitXor => some (a.filter (fun m => !isIn b m) ++ b.filter fun m => !isIn a m)
  | _ => none

/-- The entries of one dictionary overlaid with those of another. -/
def overlaid (a b : Entries Datum Datum) : Entries Datum Datum :=
  b.foldl (fun entries entry => entries.insert entry.1 entry.2.1 entry.2.2) a

/-- The members of something that has to be a pair; `i` is its number among the pairs. -/
def pairOf (call : Caller) (i : Nat) (d : Datum) : Eval (Datum × Datum) := do
  match ← (everyMember call d).attempt with
  | .error f => if ← isOfKind ["TypeError"] f then fault (.updateEntry i) else fail f
  | .ok [key, value] => return (key, value)
  | .ok items => fault (.updateLength i items.length)

/-- Puts pairs into a dictionary, one after the other. -/
def setPairs (call : Caller) (dict : Datum) : (i : Nat) → List Datum → Eval Unit
  | _, [] => return
  | i, d :: ds => do
    let (key, value) ← pairOf call i d
    setEntry call dict key value
    setPairs call dict (i + 1) ds

/-- The entries of a dictionary, or of an object that tells its keys. -/
def mappingEntries? (call : Caller) (d : Datum) : Eval (Option (List (Datum × Datum))) := do
  match ← special? d "keys", ← dictEntries? d with
  | none, some entries => return some (entries.map fun entry => (entry.2.1, entry.2.2))
  | none, none => return none
  | some f, _ =>
    let keys ← everyMember call (← callFor call d f [])
    return some (← keys.mapM fun key => do return (key, ← entryAt call d key))

/-- Overlays the dictionary at an address with another one, or with pairs. What was put in before a
fault stays. -/
def overlayWith (call : Caller) (address : Nat) (d : Datum) : Eval Unit := do
  match ← special? d "keys", ← dictEntries? d with
  | none, some entries =>
    match ← read address with
    | .dict own => write address (.dict (overlaid own entries))
    | _ => return
  | none, none => setPairs call (.ref address) 0 (← everyMember call d)
  | some _, _ =>
    ((← mappingEntries? call d).getD []).forM fun entry => setEntry call (.ref address) entry.1 entry.2

/-! ## Operands of standard types -/

/-- Whether something has members or attributes, but cannot be repeated. -/
def isUnrepeatable (d : Datum) : Eval Bool := do
  match d with
  | .range .. => return true
  | .cell _ => return true
  | .cube _ => return true
  | .registry => return true
  | .ref address =>
    match ← read address with
    | .dict _ => return true
    | .set _ => return true
    | .dictView .. => return true
    | .instance .. => return true
    | .exception (.ref _) .. => return true
    | .frame .. => return true
    | _ => return false
  | _ => return false

/-- An operator on sets or dictionaries. -/
def combineTables (inPlace : Bool) (op : BinaryOp) (a b : Datum) : Eval Datum := do
  match ← setMembers? a, ← setMembers? b with
  | some s, some t =>
    match combinedSets? op s t with
    | some members => add (.set members)
    | none => misfit inPlace op a b
  | _, _ =>
    match op, ← dictEntries? a, ← dictEntries? b with
    | .bitOr, some s, some t => add (.dict (overlaid s t))
    | _, _, _ => misfit inPlace op a b

/-- An operator on what are no two numbers. -/
def combineOthers (call : Caller) (inPlace : Bool) (op : BinaryOp) (a b : Datum) : Eval Datum := do
  match op with
  | .add => if ← isSequence a then concatenate a b else misfit inPlace op a b
  | .mul =>
    if ← isSequence a then repeatBy call a b
    else if inPlace && (← isUnrepeatable a) then misfit inPlace op a b
    else if ← isSequence b then repeatBy call b a
    else misfit inPlace op a b
  | .mod =>
    match ← coreOf a with
    | .str t _ => fillPlaces call t b
    | _ => misfit inPlace op a b
  | op => combineTables inPlace op a b

/-- An operator on operands of standard types. -/
def combineStandard (call : Caller) (inPlace : Bool) (op : BinaryOp) (a b : Datum) : Eval Datum := do
  let x ← coreOf a
  let y ← coreOf b
  match combineBools? op x y with
  | some d => return d
  | none =>
    match amount? x, amount? y with
    | some m, some n =>
      match ← combineAmounts op m n with
      | some d => return d
      | none => misfit inPlace op a b
    | _, _ => combineOthers call inPlace op a b

/-! ## All operators -/

/-- What the class of the right operand says, if it has a say: it is asked only where the types
differ. -/
def combineBack (call : Caller) (op : BinaryOp) (a b : Datum) : Eval (Option Datum) := do
  if (← typeOf a).identical (← typeOf b) then return none
  else askApplicable? call b (operatorMethod "r" op) [a]

/-- What the classes of the operands say about an operator, if they say something. -/
def combineSpecial (call : Caller) (op : BinaryOp) (a b : Datum) : Eval (Option Datum) := do
  let forth := askApplicable? call a (operatorMethod "" op) [b]
  if ← isNarrower a b then
    match ← combineBack call op a b with
    | some d => return some d
    | none => forth
  else
    match ← forth with
    | some d => return some d
    | none =>
      match op, ← coreOf a with
      | .mod, .str .. => return none
      | op, _ => combineBack call op a b

/-- An operator with two operands. -/
def combineAs (call : Caller) (inPlace : Bool) (op : BinaryOp) (a b : Datum) : Eval Datum := do
  if (← hasOwnClass a) || (← hasOwnClass b) then
    match ← combineSpecial call op a b with
    | some d => return d
    | none => combineStandard call inPlace op a b
  else combineStandard call inPlace op a b

/-- An operator with two operands. -/
def combine (call : Caller) (op : BinaryOp) (a b : Datum) : Eval Datum :=
  combineAs call false op a b

/-- An operator that changes an object in the memory in place, if the object can be changed so. -/
def changeInPlace (call : Caller) (op : BinaryOp) (address : Nat) (a b : Datum) :
    Eval (Option Datum) := do
  match op, ← read address with
  | .add, .list _ =>
    let more ← everyMember call b
    match ← read address with
    | .list items =>
      write address (.list (items ++ more))
      return some a
    | _ => return some a
  | .mul, .list items =>
    write address (.list (← copies (← timesOf call b) items))
    return some a
  | .bitOr, .dict _ =>
    overlayWith call address b
    return some a
  | op, .set members =>
    match ← setMembers? b with
    | some others =>
      match combinedSets? op members others with
      | some members =>
        write address (.set members)
        return some a
      | none => return none
    | none => return none
  | _, _ => return none

/-- An operator that changes its target. -/
def combineInPlace (call : Caller) (op : BinaryOp) (a b : Datum) : Eval Datum := do
  match ← askApplicable? call a (operatorMethod "i" op) [b] with
  | some d => return d
  | none =>
    match ← coreOf a with
    | .ref address =>
      match ← changeInPlace call op address a b with
      | some d => return d
      | none => combineAs call true op a b
    | _ => combineAs call true op a b

/-- The special method for a sign or complement. -/
def signMethod : UnaryOp → String
  | .plus => "__pos__"
  | .minus => "__neg__"
  | _ => "__invert__"

/-- How a sign or complement is written. -/
def signText : UnaryOp → Char
  | .plus => '+'
  | .minus => '-'
  | _ => '~'

/-- A sign or complement of a number, if it applies. -/
def signedAmount (op : UnaryOp) (d : Datum) : Eval (Option Datum) := do
  match op, d, amount? d with
  | .plus, .int .., _ => return some d
  | .plus, .float .., _ => return some d
  | .plus, _, some a => return some (← a.toDatum)
  | .minus, _, some (.int i) => return some (← newInt (-i))
  | .minus, _, some (.float x) => return some (← newFloat x.neg)
  | .invert, _, some (.int i) => return some (← newInt (-i - 1))
  | _, _, _ => return none

/-- A sign or complement. -/
def sign (call : Caller) (op : UnaryOp) (d : Datum) : Eval Datum := do
  match op with
  | .not => return .bool !(← isTrue call d)
  | op =>
    match ← askSpecial? call d (signMethod op) [] with
    | some answer => return answer
    | none =>
      match ← signedAmount op (← coreOf d) with
      | some answer => return answer
      | none => fault (.unaryOperand [signText op] (← typeName d))

end FormulaCube.Run
