import FormulaCube.Shortcut.Rule

/-!
# Coordinates in shortcuts

Between the parentheses of a shortcut stands a coordinate: entries `axis: value`, spread entries
`**mapping`, or a single expression.

* `ShortcutError` — what can be wrong with a shortcut, where, and in which text.
* `coordinateLiteral` — the expression that a coordinate stands for: a dictionary display if it has
  entries, and otherwise the text itself.
-/

namespace FormulaCube

/-- What is wrong with a shortcut. -/
inductive ShortcutProblem where
  /-- The parenthesis of a head is not closed. -/
  | unbalanced (rule : Rule)
  /-- An entry has no axis that can be written before a colon, or no value. -/
  | invalidEntry
  /-- Some entries have an axis and others have none. -/
  | mixedEntries
  /-- A problem stated in words. -/
  | stated (message : Text)
  deriving DecidableEq, Repr

/-- The problem in words. -/
def ShortcutProblem.words : ShortcutProblem → Text
  | .unbalanced rule => "unbalanced parentheses in ".toList ++ rule.label ++ " shortcut".toList
  | .invalidEntry => "invalid coordinate entry".toList
  | .mixedEntries => "coordinate mixes keyed and bare entries".toList
  | .stated message => message

/-- An error in a shortcut: the problem, its offset, and the text in question. -/
structure ShortcutError where
  /-- What is wrong. -/
  problem : ShortcutProblem
  /-- The offset at which it is reported. -/
  position : Int
  /-- The text that it is about. -/
  text : Text
  deriving DecidableEq, Repr

/-- The error in words. -/
def ShortcutError.message (e : ShortcutError) : Text :=
  e.problem.words ++ " at offset ".toList ++ Text.ofInt e.position ++ ": ".toList ++
    Text.quoted e.text

/-- An entry of a coordinate. -/
inductive CoordinateEntry where
  /-- `**mapping`: all entries of another coordinate. -/
  | spread (text : Text)
  /-- `axis: value`, the axis already quoted. -/
  | keyed (axis value : Text)
  /-- Anything else. -/
  | bare
  deriving DecidableEq, Repr

namespace CoordinateEntry

/-- A name of ASCII letters, digits and underscores that does not begin with a digit. -/
def isSimpleName : Text → Bool
  | [] => false
  | c :: rest => Text.isAsciiNameStart c && rest.all Text.isAsciiWord

/-- A text between two equal marks that does not contain the mark. -/
def isQuotedAxis : Text → Bool
  | [] => false
  | mark :: rest =>
    Text.isQuote mark && rest.dropWhile (· != mark) = [mark]

/-- An axis as it is written in a dictionary display: a bare name is quoted, a quoted text stays. -/
def axis? (key : Text) : Option Text :=
  let key := key.trim
  if isSimpleName key then some (Text.quoted key)
  else if isQuotedAxis key then some key
  else none

/-- Reads one entry; it is an error if there is a colon but no axis before or no value after. -/
def ofText (position : Int) (item : Text) : Except ShortcutError CoordinateEntry :=
  let trimmed := item.trim
  if "**".toList.isPrefixOf trimmed then .ok (.spread trimmed)
  else
    match splitTopLevel ':' item with
    | key :: second :: more =>
      let value := (Text.join [':'] (second :: more)).trim
      match axis? key with
      | some axis =>
        if value.isEmpty then .error ⟨.invalidEntry, position, trimmed⟩
        else .ok (.keyed axis value)
      | none => .error ⟨.invalidEntry, position, trimmed⟩
    | _ => .ok .bare

/-- Whether the entry makes the coordinate a dictionary. -/
def isKeyed : CoordinateEntry → Bool
  | .bare => false
  | _ => true

/-- The entry in a dictionary display. -/
def text : CoordinateEntry → Text
  | .spread text => text
  | .keyed axis value => axis ++ ": ".toList ++ value
  | .bare => []

end CoordinateEntry

/-- The expression that a coordinate stands for. Comments are dropped. Without any entry the text
itself is the expression; entries and bare items together are an error. -/
def coordinateLiteral (t : Text) (position : Int) : Except ShortcutError Text := do
  let trimmed := (withoutComments t).trim
  if trimmed.isEmpty then return "\x7b\x7d".toList
  let items := (splitTopLevel ',' trimmed).filter fun item => !item.isBlankText
  let entries ← items.mapM (CoordinateEntry.ofText position)
  if !entries.any CoordinateEntry.isKeyed then return trimmed
  if !entries.all CoordinateEntry.isKeyed then throw ⟨.mixedEntries, position, trimmed⟩
  return '\x7b' :: (Text.join ", ".toList (entries.map CoordinateEntry.text) ++ ['\x7d'])

end FormulaCube
