import FormulaCube.Markup.Tag
import FormulaCube.Value.Fault

/-!
# Dates and points in time

* `Moment` — the numbers of a date and perhaps a time.
* `moment?` — what is written in a text.
* `Moment.check` — what is wrong with a date or time that does not exist.
* `Tag.ofPlain` — what a plain scalar stands for by its spelling.
-/

namespace FormulaCube.Markup

/-- How far the clocks of a zone are ahead. -/
structure ZoneShift where
  /-- They are behind instead. -/
  behind : Bool
  /-- The hours. -/
  hours : Nat
  /-- The minutes. -/
  minutes : Nat
  deriving DecidableEq, Repr

/-- A time of day. -/
structure DayTime where
  /-- The hour. -/
  hour : Nat
  /-- The minute. -/
  minute : Nat
  /-- The second. -/
  second : Nat
  /-- The zone, where it is given by numbers. -/
  zone : Option ZoneShift
  deriving DecidableEq, Repr

/-- A date, perhaps with a time. -/
structure Moment where
  /-- The year. -/
  year : Nat
  /-- The month. -/
  month : Nat
  /-- The day. -/
  day : Nat
  /-- The time. -/
  time : Option DayTime
  deriving DecidableEq, Repr

/-! ## Reading -/

/-- A number of at least and at most so many digits, and what follows it. -/
def takeNumber (least most : Nat) (t : Text) : Option (Nat × Text) :=
  let digits := (t.take most).takeWhile Text.isAsciiDigit
  if least ≤ digits.length then some (Text.digitsValue digits, t.drop digits.length) else none

/-- What follows this character. -/
def takeChar (c : Char) (t : Text) : Option Text :=
  if t.head? = some c then some (t.drop 1) else none

/-- The text without blanks in front. -/
def skipBlanks (t : Text) : Text := t.dropWhile fun c => c = ' ' || c = '\t'

/-- The zone at the end of a time: a letter, or a sign and numbers. -/
def zone? (t : Text) : Option (Option ZoneShift) :=
  match t with
  | [] => none
  | ['Z'] => some none
  | sign :: rest => do
    if sign != '+' && sign != '-' then none
    else
      let (hours, rest) ← takeNumber 1 2 rest
      if rest.isEmpty then some (some ⟨sign = '-', hours, 0⟩)
      else
        let (minutes, rest) ← takeNumber 2 2 (← takeChar ':' rest)
        if rest.isEmpty then some (some ⟨sign = '-', hours, minutes⟩) else none

/-- A time of day up to the end of the text, with a fraction of the second that does not matter. -/
def dayTime? (t : Text) : Option DayTime := do
  let (hour, t) ← takeNumber 1 2 t
  let (minute, t) ← takeNumber 2 2 (← takeChar ':' t)
  let (second, t) ← takeNumber 2 2 (← takeChar ':' t)
  let t := if t.head? = some '.' then (t.drop 1).dropWhile Text.isAsciiDigit else t
  if t.isEmpty then some ⟨hour, minute, second, none⟩
  else return ⟨hour, minute, second, ← zone? (skipBlanks t)⟩

/-- The date, perhaps with a time, that a text is. -/
def moment? (t : Text) : Option Moment := do
  let (year, t) ← takeNumber 4 4 t
  let (month, t) ← takeNumber 1 2 (← takeChar '-' t)
  let (day, t) ← takeNumber 1 2 (← takeChar '-' t)
  match t with
  | [] => some ⟨year, month, day, none⟩
  | c :: rest =>
    if c = 'T' || c = 't' then return ⟨year, month, day, some (← dayTime? rest)⟩
    else if c = ' ' || c = '\t' then return ⟨year, month, day, some (← dayTime? (skipBlanks rest))⟩
    else none

/-! ## Checking -/

/-- Whether a year has a day more. -/
def isLeapYear (year : Nat) : Bool := year % 4 = 0 && (year % 100 != 0 || year % 400 = 0)

/-- How many days a month has. -/
def daysOf (year month : Nat) : Nat :=
  if month = 2 then (if isLeapYear year then 29 else 28)
  else if [4, 6, 9, 11].contains month then 30
  else 31

/-- How many minutes the clocks of a zone are ahead. -/
def ZoneShift.total (z : ZoneShift) : Int :=
  let n : Int := z.hours * 60 + z.minutes
  if z.behind then -n else n

/-- How many minutes a day has. -/
def dayMinutes : Int := 24 * 60

/-- A span of time in whole days and the seconds that are left. -/
def spanText (minutes : Int) : Text :=
  let days := minutes.fdiv dayMinutes
  let seconds := minutes.fmod dayMinutes * 60
  let parts :=
    (if days = 0 then [] else ["days=".toList ++ Text.ofInt days]) ++
      (if seconds = 0 then [] else ["seconds=".toList ++ Text.ofInt seconds])
  "datetime.timedelta(".toList ++ (if parts.isEmpty then ['0'] else Text.join ", ".toList parts) ++
    [')']

/-- The name of the type of a moment. -/
def Moment.typeName (m : Moment) : Text :=
  (if m.time.isSome then "datetime" else "date").toList

/-- Nothing if a moment exists, and otherwise what is wrong with it. The zone is looked at first. -/
def Moment.check (m : Moment) : Except Fault Unit := do
  let wrong (words : String) : Except Fault Unit := .error (.improper words.toList)
  match m.time.bind (·.zone) with
  | some z =>
    unless -dayMinutes < z.total && z.total < dayMinutes do
      throw (.improper ("offset must be a timedelta strictly between -timedelta(hours=24) and ".toList ++
        "timedelta(hours=24), not ".toList ++ spanText z.total ++ ['.']))
  | none => pure ()
  if m.year = 0 then wrong "year 0 is out of range"
  if m.month = 0 || 12 < m.month then wrong "month must be in 1..12"
  if m.day = 0 || daysOf m.year m.month < m.day then wrong "day is out of range for month"
  match m.time with
  | some time =>
    if 23 < time.hour then wrong "hour must be in 0..23"
    if 59 < time.minute then wrong "minute must be in 0..59"
    if 59 < time.second then wrong "second must be in 0..59"
  | none => pure ()

/-- Whether a date or a point in time is written here; a date alone has two digits for month and day. -/
def isMoment (t : Text) : Bool := isDate t || ((moment? t).bind (·.time)).isSome

namespace Tag

/-- What a plain scalar stands for by its spelling. -/
def ofPlain (t : Text) : Tag :=
  let word := String.ofList t
  if truthWords.contains word then .truth
  else if isDouble t then .double
  else if isInteger t then .integer
  else if word = "<<" then .merge
  else if nullWords.contains word then .null
  else if isMoment t then .moment
  else if word = "=" then .whole
  else if ["!", "&", "*"].contains word then .unknown
  else .text

end Tag

end FormulaCube.Markup
