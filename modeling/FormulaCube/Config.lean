import FormulaCube.Cell.Settings
import FormulaCube.Files
import FormulaCube.Markup.Content
import FormulaCube.Text.Identifier
import FormulaCube.Text.Sextets
import FormulaCube.Value.Order
import FormulaCube.Value.Written

/-!
# Configuration

Settings come from their defaults, a configuration file and the environment; what comes later wins.

* `SettingProblem`, `ConfigError` — what can be wrong with settings.
* `Settings.ofEntries` — settings from named values.
* `Settings.load` — settings from a file and the environment.
* `Settings.toEntries` — the settings as named values.
-/

namespace FormulaCube

/-- What is wrong with a setting. -/
inductive SettingProblem where
  /-- A text that is no identifier. -/
  | notIdentifier (given : Text)
  /-- No text. -/
  | notText
  /-- Bytes that are no text. -/
  | undecodable
  /-- A text or number that stands for no truth value. -/
  | unclearTruth
  /-- Nothing that could stand for a truth value. -/
  | notTruth
  /-- A number with a fraction. -/
  | fraction
  /-- A number that is not finite. -/
  | notFinite
  /-- A text that is no number. -/
  | unreadableNumber
  /-- A number with too many digits. -/
  | hugeNumber
  /-- No number. -/
  | notNumber
  /-- A number below zero. -/
  | negative
  /-- No setting of this name exists. -/
  | unknown
  /-- Settings do not change once they are made. -/
  | frozen
  deriving DecidableEq, Repr

namespace SettingProblem

/-- The short name of a problem. -/
def label : SettingProblem → Text
  | .notIdentifier _ => "value_error".toList
  | .notText => "string_type".toList
  | .undecodable => "string_unicode".toList
  | .unclearTruth => "bool_parsing".toList
  | .notTruth => "bool_type".toList
  | .fraction => "int_from_float".toList
  | .notFinite => "finite_number".toList
  | .unreadableNumber => "int_parsing".toList
  | .hugeNumber => "int_parsing_size".toList
  | .notNumber => "int_type".toList
  | .negative => "greater_than_equal".toList
  | .unknown => "extra_forbidden".toList
  | .frozen => "frozen_instance".toList

/-- A problem in words. -/
def message : SettingProblem → Text
  | .notIdentifier given =>
    "Value error, class_prefix must be a Python identifier, got ".toList ++ Text.quoted given
  | .notText => "Input should be a valid string".toList
  | .undecodable =>
    "Input should be a valid string, unable to parse raw data as a unicode string".toList
  | .unclearTruth => "Input should be a valid boolean, unable to interpret input".toList
  | .notTruth => "Input should be a valid boolean".toList
  | .fraction => "Input should be a valid integer, got a number with a fractional part".toList
  | .notFinite => "Input should be a finite number".toList
  | .unreadableNumber =>
    "Input should be a valid integer, unable to parse string as an integer".toList
  | .hugeNumber =>
    "Unable to parse input string as an integer, exceeded maximum size".toList
  | .notNumber => "Input should be a valid integer".toList
  | .negative => "Input should be greater than or equal to 0".toList
  | .unknown => "Extra inputs are not permitted".toList
  | .frozen => "Instance is frozen".toList

end SettingProblem

/-- A problem with the setting of a name. -/
structure SettingError where
  /-- The name. -/
  setting : Text
  /-- What is wrong. -/
  problem : SettingProblem
  deriving DecidableEq, Repr

/-- Why there are no settings. -/
inductive ConfigError where
  /-- Problems with single settings. -/
  | settings (errors : List SettingError)
  /-- Another fault. -/
  | fault (f : Fault)
  deriving Repr

/-! ## Single settings -/

/-- The largest number of a machine word with a sign, plus one. -/
def wordLimit : Int := 2 ^ 63

/-- A text, which bytes may stand for. -/
def readText : Value → Except SettingProblem Text
  | .str t => .ok t
  | .object ['s', 't', 'r'] _ => .error .undecodable
  | .bytes data =>
    match Text.utf8? data with
    | some t => .ok t
    | none => .error .undecodable
  | _ => .error .notText

/-- An identifier. -/
def readIdentifier (value : Value) : Except SettingProblem Text := do
  let t ← readText value
  if Text.isIdentifier t then return t else throw (.notIdentifier t)

/-- The words for truth. -/
def truthWords : List Text :=
  ["1", "on", "t", "true", "y", "yes"].map String.toList

/-- The words for falsehood. -/
def falsehoodWords : List Text :=
  ["0", "off", "f", "false", "n", "no"].map String.toList

/-- The truth value that one of the words in either case stands for. -/
def textTruth (t : Text) : Except SettingProblem Bool :=
  let word := t.map Char.toLower
  if truthWords.contains word then .ok true
  else if falsehoodWords.contains word then .ok false
  else .error .unclearTruth

/-- A truth value, or something that stands for one: a word, or the numbers zero and one. -/
def readTruth : Value → Except SettingProblem Bool
  | .bool b => .ok b
  | .str t => textTruth t
  | .bytes data =>
    match Text.utf8? data with
    | some t => textTruth t
    | none => .error .unclearTruth
  | .object ['s', 't', 'r'] _ => .error .undecodable
  | .int i =>
    if i = 0 then .ok false
    else if i = 1 then .ok true
    else if -wordLimit ≤ i && i < wordLimit then .error .unclearTruth
    else .error .notTruth
  | .float x =>
    match x.toInt? with
    | some i =>
      if i = 0 then .ok false
      else if i = 1 then .ok true
      else if -wordLimit < i && i < wordLimit then .error .unclearTruth
      else .error .notTruth
    | none => .error .notTruth
  | _ => .error .notTruth

/-- White space without the separators of information. -/
def isPlainBlank (c : Char) : Bool := Text.isBlank c && !(28 ≤ c.toNat && c.toNat ≤ 31)

/-- A number without the zeros in front of it. Underscores between these zeros go with them, and the
last of the zeros stays where nothing or a point follows. -/
def withoutLeadingZeros : (last : Char) → Text → Option Text
  | last, [] => some [last]
  | last, c :: t =>
    if c = '0' || c = '_' then withoutLeadingZeros c t
    else if c = '.' then some (last :: c :: t)
    else if c = '-' || ('1' ≤ c && c ≤ '9') then some (c :: t)
    else none

/-- A number without the zeros behind its point, of which there has to be one. -/
def withoutFraction (t : Text) : Option Text :=
  match t.dropWhile (· != '.') with
  | [] => some t
  | _ :: zeros =>
    if zeros.isEmpty || !zeros.all (· = '0') then none else some (t.takeWhile (· != '.'))

/-- A number without the underscores in it; those at its ends and those beside another one stay. -/
def withoutMarks (t : Text) : Text :=
  if t.head? = some '_' || t.getLast? = some '_' || hasDoubleMark t then t
  else t.filter (· != '_')

/-- A written integer without everything around its digits but the sign for less than zero. -/
def cleanNumeral (t : Text) : Option Text := do
  let t := Text.dropTailWhile isPlainBlank (t.dropWhile isPlainBlank)
  let (plus, t) := if t.head? = some '+' then (true, t.drop 1) else (false, t)
  let t ←
    match t with
    | '0' :: rest => withoutLeadingZeros '0' rest
    | '-' :: _ => if plus then none else some t
    | c :: _ => if '1' ≤ c && c ≤ '9' then some t else none
    | [] => none
  return withoutMarks (← withoutFraction t)

/-- The number of characters beyond which a text is not read as a number. -/
def numberTextLimit : Nat := 4300

/-- The integer that a text is written as. -/
def textInteger (t : Text) : Except SettingProblem Int :=
  match cleanNumeral t with
  | none => .error .unreadableNumber
  | some s =>
    let (negative, digits) := if s.head? = some '-' then (true, s.drop 1) else (false, s)
    let n : Int := Text.digitsValue digits
    if digits.isEmpty || !digits.all Text.isAsciiDigit ||
        (digits.head? = some '0' && digits.length != 1) then .error .unreadableNumber
    else if numberTextLimit < s.length then .error .hugeNumber
    else .ok (if negative then -n else n)

/-- An integer, or something that stands for one. -/
def readInteger : Value → Except SettingProblem Int
  | .int i => .ok i
  | .bool b => .ok (if b then 1 else 0)
  | .str t => textInteger t
  | .bytes data =>
    match Text.utf8? data with
    | some t => textInteger t
    | none => .error .unreadableNumber
  | .object ['s', 't', 'r'] _ => .error .undecodable
  | .float x =>
    match x.toInt? with
    | some i => if -wordLimit ≤ i && i < wordLimit then .ok i else .error .hugeNumber
    | none => .error (if x.isFinite then .fraction else .notFinite)
  | _ => .error .notNumber

/-- A number of characters. -/
def readLimit (value : Value) : Except SettingProblem Nat := do
  let i ← readInteger value
  if i < 0 then throw .negative
  return i.toNat

/-! ## Settings -/

/-- The names of the settings. -/
def settingNames : List Text :=
  ["class_prefix", "hoist_imports", "include_source_in_errors", "max_error_source_length"].map
    String.toList

/-- The value given for a name. -/
def given? (entries : List (Value × Value)) (name : String) : Option Value :=
  (entries.find? fun entry => entry.1.same (.str name.toList)).map (·.2)

/-- A setting that is read if it is given, and has a default otherwise. -/
def setting {α : Type} (entries : List (Value × Value)) (name : String)
    (read : Value → Except SettingProblem α) (default : α) : Except SettingError α :=
  match given? entries name with
  | none => .ok default
  | some value => (read value).mapError fun problem => ⟨name.toList, problem⟩

/-- The error of a result. -/
def errorOf {ε α : Type} : Except ε α → List ε
  | .ok _ => []
  | .error e => [e]

/-- The names among the keys, which must all be texts. -/
def namesOf (entries : List (Value × Value)) : Option (List Text) :=
  entries.mapM fun entry =>
    match entry.1 with
    | .str t => some t
    | _ => none

/-- Settings from named values. All problems are reported: those of known settings in the order of the
settings, then the unknown names in the order given. -/
def Settings.ofEntries (entries : List (Value × Value)) : Except ConfigError Settings :=
  match namesOf entries with
  | none => .error (.fault .keywordTypes)
  | some names =>
    let defaults : Settings := {}
    let lead := setting entries "class_prefix" readIdentifier defaults.classLead
    let hoist := setting entries "hoist_imports" readTruth defaults.hoistImports
    let quotes := setting entries "include_source_in_errors" readTruth defaults.quotesSource
    let limit := setting entries "max_error_source_length" readLimit defaults.quoteLimit
    let unknown := (names.filter fun name => !settingNames.contains name).map fun name =>
      (⟨name, .unknown⟩ : SettingError)
    match lead, hoist, quotes, limit, unknown with
    | .ok lead, .ok hoist, .ok quotes, .ok limit, [] => .ok ⟨lead, hoist, quotes, limit⟩
    | lead, hoist, quotes, limit, unknown =>
      .error (.settings (errorOf lead ++ errorOf hoist ++ errorOf quotes ++ errorOf limit ++
        unknown))

/-- The settings as named values. -/
def Settings.toEntries (settings : Settings) : List (Text × Value) :=
  settingNames.zip [.str settings.classLead, .bool settings.hoistImports,
    .bool settings.quotesSource, .int settings.quoteLimit]

/-- The name of the type of settings. -/
def settingsType : Text := "CompilerConfig".toList

/-- The settings as named values, from a dictionary of all that belongs to them. -/
def replacedEntries (entries : List (Value × Value)) : Except ConfigError (List (Text × Value)) :=
  settingNames.mapM fun name =>
    match given? entries (String.ofList name) with
    | some value => .ok (name, value)
    | none => .error (.fault (.noAttribute settingsType name))

/-- The settings after a value is given to a name. Settings do not change; what has a name that begins
with an underscore is not one of them, but a few of these names stand for the settings as a whole. -/
def Settings.assign (settings : Settings) (name : Text) (value : Value) :
    Except ConfigError (List (Text × Value)) :=
  match String.ofList name, value with
  | "__dict__", .dict entries => replacedEntries entries
  | "__dict__", value =>
    .error (.fault (.typeMisuse ("__dict__ must be set to a dictionary, not a '".toList ++
      value.typeName ++ [Text.apostrophe])))
  | "__class__", value =>
    .error (.fault (.typeMisuse ("__class__ must be set to a class, not '".toList ++
      value.typeName ++ "' object".toList)))
  | "__weakref__", _ =>
    .error (.fault (.attributeWords ("attribute '__weakref__' of '".toList ++ settingsType ++
      "' objects is not writable".toList)))
  | _, _ =>
    if name.head? = some '_' then .ok settings.toEntries
    else .error (.settings [⟨name, .frozen⟩])

/-- What the names of settings begin with in the environment. -/
def environmentLead : Text := "CUBECELL_".toList

/-- The settings given by the environment. -/
def environmentEntries (environment : List (Text × Text)) : List (Value × Value) :=
  settingNames.filterMap fun name =>
    (environment.lookup (environmentLead ++ name.upper)).map fun t => (.str name, .str t)

/-- The entries with other entries put over them. -/
def overlay (entries others : List (Value × Value)) : List (Value × Value) :=
  (Value.ofEntries (entries ++ others)).toOption.getD entries

/-- The entries of a configuration file; a text without values has none. -/
def fileEntries (path : Text) (t : Text) : Except Fault (List (Value × Value)) :=
  match Markup.content t with
  | .error f => .error f
  | .ok (.dict entries) => .ok entries
  | .ok value =>
    if value.isEmptyValue then .ok []
    else .error (.improper (path ++ ": expected a mapping at top level".toList))

/-- Settings from a file, if a path is given, and from the environment. -/
def Settings.load (files : Files) (path : Option Text) (environment : List (Text × Text)) :
    Except ConfigError Settings := do
  let entries ←
    match path with
    | none => pure []
    | some path =>
      ((files.read path).bind (fileEntries path)).mapError ConfigError.fault
  Settings.ofEntries (overlay entries (environmentEntries environment))

end FormulaCube
