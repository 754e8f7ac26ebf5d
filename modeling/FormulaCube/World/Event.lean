import FormulaCube.Value.Basic

/-!
# Events

What compilers and registries report while they work.

* `Event` — one report.
* `Event.fields` — what it says, in the order of the names.
* `LogLevel` — how urgent reports are, and which of them pass.
-/

namespace FormulaCube

/-- How urgent a report is. -/
inductive LogLevel where
  | debug | info | warning | error | critical
  deriving DecidableEq, Repr

namespace LogLevel

/-- All levels, the least urgent first. -/
def all : List LogLevel := [.debug, .info, .warning, .error, .critical]

/-- The name of a level. -/
def label : LogLevel → Text
  | .debug => "debug".toList
  | .info => "info".toList
  | .warning => "warning".toList
  | .error => "error".toList
  | .critical => "critical".toList

/-- The number of a level. -/
def number : LogLevel → Nat
  | .debug => 10
  | .info => 20
  | .warning => 30
  | .error => 40
  | .critical => 50

/-- The names of all levels in upper case. -/
def labels : List Text := all.map fun level => level.label.upper

/-- The level of a name in upper case. -/
def ofUpper? (name : Text) : Option LogLevel := all.find? fun level => level.label.upper = name

/-- The number below which reports are dropped, for a level by its name in letters of any case. -/
def thresholdOf (name : Text) : Except Fault Int :=
  match ofUpper? name.upper with
  | some level => .ok level.number
  | none =>
    .error (.improper ("unknown log level ".toList ++ Text.quoted name ++ ", expected one of ".toList ++
      Text.join ", ".toList labels))

/-- The same for a level by its number: only those of the levels are known, and zero. -/
def thresholdAt (number : Int) : Except Fault Int :=
  if number = 0 || all.any fun level => (level.number : Int) = number then .ok number
  else .error (.missingKey (Text.ofInt number))

end LogLevel

/-- One report. -/
structure Event where
  /-- What happened. -/
  name : Text
  /-- How urgent it is. -/
  level : LogLevel
  /-- What it is about. -/
  details : List (Text × Value)
  deriving Repr

namespace Event

/-- What a report says, in the order of the names. -/
def fields (event : Event) : List (Text × Value) :=
  (("event".toList, Value.str event.name) :: ("level".toList, .str event.level.label) ::
    event.details).mergeSort fun a b => !Text.less b.1 a.1

/-- Whether a report passes where reports below a number are dropped. -/
def passes (event : Event) (least : Int) : Bool := least ≤ (event.level.number : Int)

end Event

end FormulaCube
