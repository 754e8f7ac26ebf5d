import FormulaCube.Text.Digit

/-!
# Arguments of a command

The words after a command's name are options, which begin with a dash, and places. An option may be
shortened as long as it stays unambiguous, may get its value after an equals sign, and options of one
letter may stand together. After two dashes everything is a place.

* `Switch`, `Place`, `Form` — what a command accepts.
* `Role`, `roleOf?` — what a single word is taken for.
* `readWords` — what is given, in the order in which it takes effect, and what is wrong at the end.
-/

namespace FormulaCube.CommandLine

/-- An option of a command. -/
structure Switch where
  /-- The ways to write it. -/
  names : List Text
  /-- A value follows. -/
  takesValue : Bool
  deriving DecidableEq, Repr

/-- What stands in the place of a command that is no option. -/
inductive Place where
  /-- One word. -/
  | one
  /-- Words up to the next option. -/
  | several
  /-- All further words, options too. -/
  | rest
  deriving DecidableEq, Repr

/-- What a command accepts. -/
structure Form where
  /-- The options. -/
  switches : List Switch
  /-- The place. -/
  place : Place

/-- An option as it is written. -/
structure Occurrence where
  /-- The option. -/
  switch : Switch
  /-- The way it is written. -/
  name : Text
  /-- Its value stands after an equals sign. -/
  isAssigned : Bool
  /-- What is written into the same word after its name. -/
  explicit : Option Text
  deriving Repr

/-- What a word is taken for. -/
inductive Role where
  /-- A word in a place. -/
  | word
  /-- The two dashes after which everything is a place. -/
  | dashes
  /-- An option. -/
  | option (o : Occurrence)
  /-- Something like an option, but unknown. -/
  | unknown
  deriving Repr

/-- A word and what it is taken for. -/
structure Item where
  /-- The word. -/
  text : Text
  /-- What it is taken for. -/
  role : Role
  deriving Repr

/-- Something that is given. -/
inductive Given where
  /-- An option, with its value if it takes one. -/
  | option (name : Text) (value : Text)
  /-- The words in the place. -/
  | placed (words : List Text)
  deriving Repr

/-- What is given, in the order in which it takes effect. -/
structure Reading where
  /-- What is given. -/
  given : List Given
  /-- Words that are left over. -/
  extra : List Text
  /-- Something is wrong after that. -/
  isWrong : Bool
  deriving Repr

/-! ## What words are taken for -/

namespace Form

/-- The options with the ways to write them. -/
def spellings (form : Form) : List (Text × Switch) :=
  form.switches.flatMap fun s => s.names.map (·, s)

/-- The option that is written in exactly this way. -/
def named? (form : Form) (name : Text) : Option Switch := form.spellings.lookup name

end Form

/-- A word up to its first equals sign, and what follows that. -/
def splitAssignment (t : Text) : Text × Option Text :=
  match t.dropWhile (· != '=') with
  | [] => (t, none)
  | _ :: value => (t.takeWhile (· != '='), some value)

/-- The options that a word with two dashes may be short for. -/
def longCandidates (form : Form) (t : Text) : List Occurrence :=
  let (lead, value) := splitAssignment t
  (form.spellings.filter fun entry => lead.isPrefixOf entry.1).map fun entry =>
    ⟨entry.2, entry.1, value.isSome, value⟩

/-- The options that a word with one dash may be short for: one of a single letter with something
written after it, or a longer one. -/
def shortCandidates (form : Form) (t : Text) : List Occurrence :=
  form.spellings.filterMap fun entry =>
    if entry.1 = t.take 2 then some ⟨entry.2, entry.1, false, some (t.drop 2)⟩
    else if t.isPrefixOf entry.1 then some ⟨entry.2, entry.1, false, none⟩
    else none

/-- Whether a word is a negative number, which is no option. -/
def isNegativeNumber (t : Text) : Bool :=
  match t with
  | '-' :: number =>
    let whole := number.takeWhile Text.isDigit
    match number.dropWhile Text.isDigit with
    | [] => !whole.isEmpty
    | '.' :: fraction => !fraction.isEmpty && fraction.all Text.isDigit
    | _ => false
  | _ => false

/-- What a word that is not written exactly as an option is taken for; nothing if it is ambiguous. -/
def inexactRole? (form : Form) (t : Text) : Option Role :=
  let candidates :=
    if "--".toList.isPrefixOf t then longCandidates form t else shortCandidates form t
  match candidates with
  | [o] => some (.option o)
  | _ :: _ :: _ => none
  | [] => some (if isNegativeNumber t || t.contains ' ' then .word else .unknown)

/-- What a word is taken for; nothing if it is ambiguous. -/
def roleOf? (form : Form) (t : Text) : Option Role :=
  if t.head? ≠ some '-' then some .word
  else
    match form.named? t with
    | some s => some (.option ⟨s, t, false, none⟩)
    | none =>
      if t.length = 1 then some .word
      else
        match splitAssignment t with
        | (name, some value) =>
          match form.named? name with
          | some s => some (.option ⟨s, name, true, some value⟩)
          | none => inexactRole? form t
        | _ => inexactRole? form t

/-- What the words are taken for; nothing if one is ambiguous. -/
def itemsOf? (form : Form) : List Text → Option (List Item)
  | [] => some []
  | t :: words =>
    if t = "--".toList then some (⟨t, .dashes⟩ :: words.map fun w => ⟨w, .word⟩)
    else do
      let role ← roleOf? form t
      let items ← itemsOf? form words
      return ⟨t, role⟩ :: items

/-! ## Places -/

/-- Whether an item is taken for an option. -/
def Item.isOption (item : Item) : Bool :=
  match item.role with
  | .option _ => true
  | .unknown => true
  | _ => false

/-- Whether an item is the two dashes. -/
def Item.isDashes (item : Item) : Bool :=
  match item.role with
  | .dashes => true
  | _ => false

/-- How many items a place takes from the front; none if it cannot be filled. -/
def placeSize (place : Place) (items : List Item) : Nat :=
  let lead := (items.takeWhile Item.isDashes).length
  match items.drop lead with
  | [] => 0
  | item :: rest =>
    if item.isOption then 0
    else
      match place with
      | .one => lead + 1 + (rest.takeWhile Item.isDashes).length
      | .several => lead + 1 + (rest.takeWhile fun i => !i.isOption).length
      | .rest => items.length

/-- The words of a place. The first two dashes are no word, except where options are taken too. -/
def placedWords (place : Place) (items : List Item) : List Text :=
  let words := items.map (·.text)
  if place = .rest then words else words.erase "--".toList

/-! ## Options -/

/-- Options of one letter that stand together, from one of them with the rest of the word. At most
`bound` letters are looked at. -/
def letters (form : Form) : (bound : Nat) → Switch → Text → (isAssigned : Bool) → Text → Reading
  | 0, _, _, _, _ => ⟨[], [], true⟩
  | bound + 1, _, name, isAssigned, explicit =>
    match explicit with
    | [] => ⟨[], [], true⟩
    | c :: more =>
      if isAssigned || c = '-' then ⟨[], [], true⟩
      else
        let this := Given.option name []
        match form.named? ['-', c] with
        | none => ⟨[this], ['-' :: c :: more], false⟩
        | some next =>
          match more with
          | [] => ⟨[this, .option ['-', c] []], [], false⟩
          | '=' :: value =>
            let further := letters form bound next ['-', c] true value
            if further.isWrong then ⟨[], [], true⟩
            else ⟨this :: further.given, further.extra, false⟩
          | more =>
            let further := letters form bound next ['-', c] false more
            if further.isWrong then ⟨[], [], true⟩
            else ⟨this :: further.given, further.extra, false⟩

/-- What an option gives, with the items after it; the number tells how many of these it takes. -/
def readOption (form : Form) (o : Occurrence) (rest : List Item) : Reading × Nat :=
  match o.switch.takesValue, o.explicit with
  | true, some value => (⟨[.option o.name value], [], false⟩, 0)
  | true, none =>
    match rest with
    | item :: _ =>
      match item.role with
      | .word => (⟨[.option o.name item.text], [], false⟩, 1)
      | _ => (⟨[], [], true⟩, 0)
    | [] => (⟨[], [], true⟩, 0)
  | false, none => (⟨[.option o.name []], [], false⟩, 0)
  | false, some explicit =>
    if "--".toList.isPrefixOf o.name then (⟨[], [], true⟩, 0)
    else (letters form explicit.length o.switch o.name o.isAssigned explicit, 0)

/-! ## All words -/

/-- What is given before something else. -/
def Reading.before (first second : Reading) : Reading :=
  ⟨first.given ++ second.given, first.extra ++ second.extra, second.isWrong⟩

/-- Reads items from the front, options and the place in turns, at most `bound` times. -/
def readItems (form : Form) : (bound : Nat) → (isFilled : Bool) → List Item → Reading
  | 0, _, items => ⟨[], items.map (·.text), false⟩
  | bound + 1, isFilled, items =>
    let size := if isFilled then 0 else placeSize form.place items
    let placed := Given.placed (placedWords form.place (items.take size))
    match items with
    | [] => ⟨[], [], false⟩
    | item :: rest =>
      match item.role with
      | .option o =>
        let (reading, taken) := readOption form o rest
        if reading.isWrong then reading
        else reading.before (readItems form bound isFilled (rest.drop taken))
      | .unknown => Reading.before ⟨[], [item.text], false⟩ (readItems form bound isFilled rest)
      | _ =>
        if 0 < size then
          Reading.before ⟨[placed], [], false⟩ (readItems form bound true (items.drop size))
        else
          Reading.before ⟨[], [item.text], false⟩ (readItems form bound isFilled rest)

/-- What the words give. -/
def readWords (form : Form) (words : List Text) : Reading :=
  match itemsOf? form words with
  | none => ⟨[], [], true⟩
  | some items => readItems form (items.length + 1) false items

end FormulaCube.CommandLine
