import FormulaCube.Text.Basic

/-!
# Tags of configuration texts

A tag says what kind of value a part stands for. Where none is written, a plain scalar tells by its
spelling.

* `Tag` — the tags that mean something here.
* `Tag.ofName` — the tag of a full name.
-/

namespace FormulaCube.Markup

/-- What kind of value a part stands for. -/
inductive Tag where
  /-- No value. -/
  | null
  /-- A truth value. -/
  | truth
  /-- An integer. -/
  | integer
  /-- A double. -/
  | double
  /-- Bytes, in the letters of base 64. -/
  | binary
  /-- A date or a point in time. -/
  | moment
  /-- A mapping whose order matters. -/
  | orderedMapping
  /-- A sequence of pairs. -/
  | pairs
  /-- A set. -/
  | set
  /-- A text. -/
  | text
  /-- A sequence. -/
  | sequence
  /-- A mapping. -/
  | mapping
  /-- As a key: the entries of another mapping belong to this one. -/
  | merge
  /-- As a key: the value that stands for the whole mapping. -/
  | whole
  /-- Anything else, which cannot be read. -/
  | unknown
  deriving DecidableEq, Repr, Inhabited

/-! ## Spellings -/

/-- A digit or an underscore. -/
def isDigitPart (c : Char) : Bool := Text.isAsciiDigit c || c = '_'

/-- A digit in hexadecimal or an underscore. -/
def isHexPart (c : Char) : Bool := isDigitPart c || ('a' ≤ c && c ≤ 'f') || ('A' ≤ c && c ≤ 'F')

/-- The text without a sign in front. -/
def unsigned : Text → Text
  | '-' :: rest => rest
  | '+' :: rest => rest
  | t => t

/-- Whether a text is a digit with digits and underscores after it. -/
def isGrouped : Text → Bool
  | c :: rest => Text.isAsciiDigit c && rest.all isDigitPart
  | [] => false

/-- A place of a number to the base sixty: at most two digits, below sixty. -/
def isSixtieth : Text → Bool
  | [c] => Text.isAsciiDigit c
  | [c, d] => '0' ≤ c && c ≤ '5' && Text.isAsciiDigit d
  | _ => false

/-- Whether an integer is written here. -/
def isInteger (t : Text) : Bool :=
  match unsigned t with
  | ['0'] => true
  | '0' :: 'b' :: rest => !rest.isEmpty && rest.all fun c => c = '0' || c = '1' || c = '_'
  | '0' :: 'x' :: rest => !rest.isEmpty && rest.all isHexPart
  | '0' :: rest => rest.all fun c => ('0' ≤ c && c ≤ '7') || c = '_'
  | digits =>
    match Text.splitOn ':' digits with
    | first :: places => isGrouped first && places.all isSixtieth
    | [] => false

/-- Whether an exponent is written here, or nothing. -/
def isExponent : Text → Bool
  | [] => true
  | e :: sign :: digits =>
    (e = 'e' || e = 'E') && (sign = '+' || sign = '-') && !digits.isEmpty &&
      digits.all Text.isAsciiDigit
  | _ => false

/-- Whether a double is written here. Without a digit before the point there is no sign. -/
def isDouble (t : Text) : Bool :=
  let digits := unsigned t
  let whole := digits.takeWhile (· != '.')
  match digits.dropWhile (· != '.') with
  | [] => false
  | _ :: fraction =>
    [".inf", ".Inf", ".INF"].any (fun s => s.toList = digits) ||
      [".nan", ".NaN", ".NAN"].any (fun s => s.toList = t) ||
      (if whole.isEmpty then
        t.head? = some '.' && isGrouped (fraction.takeWhile isDigitPart) &&
          isExponent (fraction.dropWhile isDigitPart)
      else
        match Text.splitOn ':' whole with
        | [first] => isGrouped first && isExponent (fraction.dropWhile isDigitPart)
        | first :: places =>
          isGrouped first && places.all isSixtieth && fraction.all isDigitPart
        | [] => false)

/-- Whether a text consists of at least and at most so many digits. -/
def areDigits (least most : Nat) (t : Text) : Bool :=
  least ≤ t.length && t.length ≤ most && t.all Text.isAsciiDigit

/-- Whether a date is written here with two digits for month and day. -/
def isDate (t : Text) : Bool :=
  match Text.splitOn '-' t with
  | [year, month, day] => areDigits 4 4 year && areDigits 2 2 month && areDigits 2 2 day
  | _ => false

/-- The words for truth and falsehood. -/
def truthWords : List String :=
  ["yes", "Yes", "YES", "no", "No", "NO", "true", "True", "TRUE", "false", "False", "FALSE",
    "on", "On", "ON", "off", "Off", "OFF"]

/-- The words for no value. -/
def nullWords : List String := ["", "~", "null", "Null", "NULL"]

namespace Tag

/-- The names of the tags, after what they have in common. -/
def names : List (String × Tag) :=
  [("null", .null), ("bool", .truth), ("int", .integer), ("float", .double), ("binary", .binary),
    ("timestamp", .moment), ("omap", .orderedMapping), ("pairs", .pairs), ("set", .set),
    ("str", .text), ("seq", .sequence), ("map", .mapping), ("merge", .merge), ("value", .whole)]

/-- What the names of the tags begin with. -/
def standardLead : Text := "tag:yaml.org,2002:".toList

/-- The tag of a full name. -/
def ofName (name : Text) : Tag :=
  ((names.find? fun entry => standardLead ++ entry.1.toList = name).map (·.2)).getD .unknown

end Tag

end FormulaCube.Markup
