import FormulaCube.Number.Shortest
import FormulaCube.Value.Fault

/-!
# Values

What cells compute with and what coordinates are made of, as trees.

* `Value` — data, and the objects that an answer only describes.
* `Value.shown` — the text of a value as it would be written in cell source.
* `Value.display` — the same, a text standing for itself.
* `Value.coordinateText` — a coordinate as it is written between the parentheses of a shortcut.

Not every value has such a text: integers may have too many digits, values may be nested too deeply, and
an object may fail to say how it is shown.

* `decimalText`, `shownDepth` — the limits.
* `Value.obstacleWithin` — the first fault of the attempt to write a value.
* `Value.written`, `Value.displayed`, `Value.formatted` — the texts, or that fault; `Value.formatted_long` —
  a coordinate that is not written.
-/

namespace FormulaCube

/-! ## Limits -/

/-- The most decimal digits of an integer that is written or read. -/
def decimalLimit : Nat := 4300

/-- The fault of an integer with too many digits to be written. -/
def Fault.longInteger : Fault :=
  .improper ("Exceeds the limit (".toList ++ Text.ofNat decimalLimit ++
    " digits) for integer string conversion; use sys.set_int_max_str_digits() to increase the".toList
    ++ " limit".toList)

/-- An integer in decimal; one with too many digits is not written. -/
def decimalText (i : Int) : Except Fault Text :=
  if 10 ^ decimalLimit ≤ i.natAbs then .error .longInteger else .ok (Text.ofInt i)

/-- How deeply things are nested at most that are shown. -/
def shownDepth : Nat := 1000

/-- The fault of something that is nested too deeply to be shown. -/
def Fault.tooDeepToShow : Fault :=
  .raised "RecursionError".toList
    "maximum recursion depth exceeded while getting the repr of an object".toList

/-! ## Values -/

/-- A value as a tree. -/
inductive Value where
  /-- No value. -/
  | none
  /-- A truth value. -/
  | bool (b : Bool)
  /-- An integer of any size. -/
  | int (i : Int)
  /-- A double-precision number. -/
  | float (x : Binary64)
  /-- A text. -/
  | str (t : Text)
  /-- A list. -/
  | list (items : List Value)
  /-- A tuple. -/
  | tuple (items : List Value)
  /-- A dictionary with its entries in insertion order. -/
  | dict (entries : List (Value × Value))
  /-- A set in the order its members were added. -/
  | set (items : List Value)
  /-- A cell, by its name where it is given and by its description where it is answered. -/
  | cell (text : Text)
  /-- A cube, by its description. -/
  | cube (text : Text)
  /-- One level of nested evaluation: the cube and the input it began with. -/
  | frame (cube coordinate : Value)
  /-- Bytes. -/
  | bytes (data : List UInt8)
  /-- Any other object: the name of its type, and how it is shown, or its fault when it is. -/
  | object (type : Text) (shown : Except Fault Text)
  deriving Repr, Inhabited

namespace Value

/-- The text of a truth value. -/
def boolText (b : Bool) : Text := (if b then "True" else "False").toList

/-- The text of bytes: of those that are printable in ASCII the characters, of others their numbers. -/
def bytesText (data : List UInt8) : Text :=
  let quote := if data.contains 39 && !data.contains 34 then '\x22' else Text.apostrophe
  let byteText (b : UInt8) : Text :=
    let c := Char.ofNat b.toNat
    if c = quote || c = '\\' then ['\\', c]
    else if c = '\t' then "\\t".toList
    else if c = '\n' then "\\n".toList
    else if c = '\r' then "\\r".toList
    else if 32 ≤ b && b < 127 then [c]
    else "\\x".toList ++ [Nat.digitChar (b.toNat / 16), Nat.digitChar (b.toNat % 16)]
  'b' :: quote :: (data.flatMap byteText ++ [quote])

mutual

/-- The text of a value as it would be written in cell source, as far as it can be formed. -/
def shown : Value → Text
  | .none => "None".toList
  | .bool b => boolText b
  | .int i => Text.ofInt i
  | .float x => x.text
  | .str t => Text.quoted t
  | .list items => '[' :: (Text.join ", ".toList (shownAll items) ++ [']'])
  | .tuple [] => "()".toList
  | .tuple [item] => '(' :: (shown item ++ ",)".toList)
  | .tuple items => '(' :: (Text.join ", ".toList (shownAll items) ++ [')'])
  | .dict entries => '\x7b' :: (Text.join ", ".toList (shownEntries entries) ++ ['\x7d'])
  | .set [] => "set()".toList
  | .set items => '\x7b' :: (Text.join ", ".toList (shownAll items) ++ ['\x7d'])
  | .cell text => text
  | .cube text => text
  | .frame name input =>
    "StackFrame(cube=".toList ++ shown name ++ ", coordinate=".toList ++ shown input ++ [')']
  | .bytes data => bytesText data
  | .object _ (.ok text) => text
  | .object _ (.error _) => []

/-- The texts of several values. -/
def shownAll : List Value → List Text
  | [] => []
  | item :: items => shown item :: shownAll items

/-- The texts of the entries of a dictionary. -/
def shownEntries : List (Value × Value) → List Text
  | [] => []
  | (key, value) :: entries =>
    (shown key ++ ": ".toList ++ shown value) :: shownEntries entries

end

/-- The text of a value in running text, as far as it can be formed: a text is itself, anything else is
shown. -/
def display : Value → Text
  | .str t => t
  | value => value.shown

/-- One entry of a coordinate: the axis as itself, the value as shown. -/
def entryText (entry : Value × Value) : Text :=
  entry.1.display ++ ": ".toList ++ entry.2.shown

/-- A coordinate as it is written in cell source, as far as it can be; what is no dictionary is shown as a
value. -/
def coordinateText : Value → Text
  | .dict entries => Text.join ", ".toList (entries.map entryText)
  | value => value.shown

/-! ## What cannot be written -/

/-- The fault of the attempt to form a text. -/
def obstacleOf : Except Fault Text → Option Fault
  | .ok _ => Option.none
  | .error f => some f

/-- The first fault of the attempt to write a value, where things are nested at most `depth` deep. -/
def obstacleWithin : (depth : Nat) → Value → Option Fault
  | 0, _ => some .tooDeepToShow
  | depth + 1, value =>
    match value with
    | .int i => obstacleOf (decimalText i)
    | .list items | .tuple items | .set items => items.findSome? (obstacleWithin depth)
    | .dict entries =>
      entries.findSome? fun entry =>
        (obstacleWithin depth entry.1).or (obstacleWithin depth entry.2)
    | .frame name input => (obstacleWithin depth name).or (obstacleWithin depth input)
    | .object _ shown => obstacleOf shown
    | _ => Option.none

/-- The first fault of the attempt to write a value. -/
def obstacle? (value : Value) : Option Fault := value.obstacleWithin shownDepth

/-- The first fault of the attempt to put a value into running text. -/
def displayObstacle? : Value → Option Fault
  | .str _ => Option.none
  | value => value.obstacle?

/-- The first fault of the attempt to write a coordinate. -/
def coordinateObstacle? : Value → Option Fault
  | .dict entries =>
    entries.findSome? fun entry => entry.1.displayObstacle?.or entry.2.obstacle?
  | value => value.obstacle?

/-- A text, unless there is an obstacle to it. -/
def textUnless (obstacle : Option Fault) (t : Text) : Except Fault Text :=
  match obstacle with
  | some f => .error f
  | Option.none => .ok t

/-- The text of a value as it would be written in cell source. -/
def written (value : Value) : Except Fault Text := textUnless value.obstacle? value.shown

/-- The text of a value in running text. -/
def displayed (value : Value) : Except Fault Text := textUnless value.displayObstacle? value.display

/-- A coordinate as it is written in cell source. -/
def formatted (value : Value) : Except Fault Text :=
  textUnless value.coordinateObstacle? value.coordinateText

/-- An integer with one digit too many. -/
def long : Value := .int ((10 ^ decimalLimit : Nat) : Int)

theorem obstacle?_long : long.obstacle? = some .longInteger := by
  have hlong {i : Int} (h : 10 ^ decimalLimit ≤ i.natAbs) : decimalText i = .error .longInteger := if_pos h
  rw [obstacle?, shownDepth, long, obstacleWithin, hlong (Nat.le_of_eq (Int.natAbs_natCast _).symm),
    obstacleOf]

/-- **A coordinate with such an integer in it cannot be written.** -/
theorem formatted_long (axis : Text) : (dict [(.str axis, long)]).formatted = .error .longInteger := by
  have hobstacle : (dict [(.str axis, long)]).coordinateObstacle? = some .longInteger := by
    rw [coordinateObstacle?, List.findSome?_cons, displayObstacle?, obstacle?_long]
    rfl
  rw [formatted, hobstacle]
  rfl

/-! ## Types -/

/-- The name of a value's type. -/
def typeName : Value → Text
  | .none => "NoneType".toList
  | .bool _ => "bool".toList
  | .int _ => "int".toList
  | .float _ => "float".toList
  | .str _ => "str".toList
  | .list _ => "list".toList
  | .tuple _ => "tuple".toList
  | .dict _ => "dict".toList
  | .set _ => "set".toList
  | .cell _ => "Cell".toList
  | .cube _ => "Cube".toList
  | .frame .. => "StackFrame".toList
  | .bytes _ => "bytes".toList
  | .object type _ => type

/-- Whether a value counts as nothing where a condition is asked for: no value, falsehood, zero, or an
empty text or collection. -/
def isEmptyValue : Value → Bool
  | .none => true
  | .bool b => !b
  | .int i => i = 0
  | .float x => x.isZero
  | .str t => t.isEmpty
  | .list items => items.isEmpty
  | .tuple items => items.isEmpty
  | .dict entries => entries.isEmpty
  | .set items => items.isEmpty
  | .bytes data => data.isEmpty
  | _ => false

end Value

end FormulaCube
