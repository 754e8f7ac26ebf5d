import FormulaCube.Shortcut.Expansion
import Mathlib.Tactic.Lemma

/-!
# Well-formed fragments of cell source

Cell source as a tree: plain characters, literals, groups in brackets, and shortcuts with their
coordinates.

* `Fragment` — the trees, of three kinds: code, the coordinate of a shortcut, and its entries.
* `Fragment.render` — the text of a tree.
* `Fragment.WellFormed` — what the texts in a tree must be so that they are read as the tree says.
* `Fragment.translation` — the text in which every shortcut is replaced by its call, in one pass
  over the tree.

Nothing here scans a text. That expanding the text of a well-formed tree gives its translation is
`expand_render`, in the module on translations.
-/

namespace FormulaCube

/-! ## Parts of fragments -/

/-- A pair of brackets. -/
inductive Bracket where
  | round | square | curly
  deriving DecidableEq, Repr

namespace Bracket

/-- The opening bracket. -/
def opener : Bracket → Char
  | .round => '('
  | .square => '['
  | .curly => '\x7b'

/-- The closing bracket. -/
def closer : Bracket → Char
  | .round => ')'
  | .square => ']'
  | .curly => '\x7d'

end Bracket

/-- The axis of an entry, as it is written. -/
inductive Axis where
  /-- A bare name. -/
  | name (t : Text)
  /-- A text between two equal marks. -/
  | quoted (mark : Char) (body : Text)
  deriving DecidableEq, Repr

namespace Axis

/-- The axis as it is written in a coordinate. -/
def text : Axis → Text
  | .name t => t
  | .quoted mark body => mark :: (body ++ [mark])

/-- The axis as it is written in a dictionary display. -/
def display : Axis → Text
  | .name t => '\'' :: (t ++ ['\''])
  | .quoted mark body => mark :: (body ++ [mark])

/-- A bare name is an identifier of ASCII characters. Between marks there is neither the mark nor a
backslash, a sigil, or the end of the line. -/
def WellFormed : Axis → Prop
  | .name t => CoordinateEntry.isSimpleName t = true
  | .quoted mark body =>
    Text.isQuote mark = true ∧
      ∀ c ∈ body, c ≠ mark ∧ c ≠ Text.backslash ∧ c ≠ '\n' ∧ isSigil c = false

end Axis

/-- What stands before the value of an entry. -/
inductive EntryLead where
  /-- An axis and a colon, with blanks around the axis. -/
  | keyed (before : Text) (axis : Axis) (after : Text)
  /-- Two stars. -/
  | spread (before : Text)
  deriving DecidableEq, Repr

namespace EntryLead

/-- The text before a value. -/
def text : EntryLead → Text
  | .keyed before axis after => before ++ (axis.text ++ (after ++ [':']))
  | .spread before => before ++ ['*', '*']

/-- The entry in a dictionary display. -/
def display (value : Text) : EntryLead → Text
  | .keyed _ axis _ => axis.display ++ (": ".toList ++ value.trim)
  | .spread _ => "**".toList ++ value.trimRight

/-- Around an axis there are only blanks. -/
def WellFormed : EntryLead → Prop
  | .keyed before axis after =>
    before.isBlankText = true ∧ axis.WellFormed ∧ after.isBlankText = true
  | .spread before => before.isBlankText = true

end EntryLead

/-- The text begins with a mark of literals. -/
def startsQuote : Text → Bool
  | [] => false
  | c :: _ => Text.isQuote c

/-- The text after the opening mark of a literal is the rest of that literal and ends with its
closing mark. -/
def closesLine (mark : Char) : Text → Bool
  | [] => false
  | c :: rest =>
    if c = Text.backslash then
      match rest with
      | [] => false
      | _ :: more => closesLine mark more
    else if c = mark then rest.isEmpty
    else if c = '\n' then false
    else closesLine mark rest

/-- The text after three opening marks ends with the first three marks in a row. -/
def closesBlock (mark : Char) : Text → Bool
  | [] => false
  | c :: rest =>
    if [mark, mark, mark].isPrefixOf (c :: rest) then rest = [mark, mark] else closesBlock mark rest

/-- The text is a literal that is closed, in one mark or in three. -/
def isClosedLiteral : Text → Bool
  | [] => false
  | mark :: rest =>
    Text.isQuote mark &&
      if [mark, mark].isPrefixOf rest then closesBlock mark (rest.drop 2) else closesLine mark rest

/-- A character of plain text: neither a sigil nor a bracket, and neither a literal nor a comment
begins with it. -/
def isPlain (c : Char) : Bool :=
  !(isSigil c || Text.isQuote c || c = '#' || (closer? c).isSome || isCloser c)

/-- The name of a cube: a letter or an underscore, then letters, digits, underscores and dots. -/
def isCubeName : Text → Bool
  | [] => false
  | c :: rest => Text.isAsciiNameStart c && rest.all Rule.isNamePart

/-- The name in a shortcut is one that its form can have. -/
def Rule.Admits (rule : Rule) : Option Text → Prop
  | some name => rule.isNamed = true ∧ isCubeName name = true
  | none => rule.isNamed = false

/-! ## Fragments -/

/-- The kinds of fragments. -/
inductive Spot where
  | code | coordinate | entries
  deriving DecidableEq

/-- A fragment of cell source. -/
inductive Fragment : Spot → Type where
  /-- The end of a sequence. -/
  | empty : Fragment .code
  /-- A plain character, and what follows it. -/
  | plain (c : Char) (rest : Fragment .code) : Fragment .code
  /-- A literal with its marks. -/
  | literal (body : Text) (rest : Fragment .code) : Fragment .code
  /-- A group in brackets. -/
  | group (bracket : Bracket) (inner rest : Fragment .code) : Fragment .code
  /-- A shortcut. -/
  | shortcut (rule : Rule) (name : Option Text) (coordinate : Fragment .coordinate)
      (rest : Fragment .code) : Fragment .code
  /-- A coordinate of blanks. -/
  | blank (t : Text) : Fragment .coordinate
  /-- A coordinate without entries. -/
  | bare (f : Fragment .code) : Fragment .coordinate
  /-- A coordinate with entries. -/
  | keyed (entries : Fragment .entries) : Fragment .coordinate
  /-- The last entry. -/
  | last (lead : EntryLead) (value : Fragment .code) : Fragment .entries
  /-- An entry and a comma, and the entries after it. -/
  | more (lead : EntryLead) (value : Fragment .code) (rest : Fragment .entries) : Fragment .entries

namespace Fragment

variable {s : Spot}

/-- The text of a fragment. -/
@[simp] def render : {s : Spot} → Fragment s → Text
  | _, .empty => []
  | _, .plain c rest => c :: rest.render
  | _, .literal body rest => body ++ rest.render
  | _, .group bracket inner rest =>
    bracket.opener :: (inner.render ++ bracket.closer :: rest.render)
  | _, .shortcut rule name coordinate rest =>
    rule.sigil :: (name.getD [] ++ '(' :: (coordinate.render ++ ')' :: rest.render))
  | _, .blank t => t
  | _, .bare f => f.render
  | _, .keyed entries => entries.render
  | _, .last lead value => lead.text ++ value.render
  | _, .more lead value rest => lead.text ++ (value.render ++ ',' :: rest.render)

/-- The separator stands nowhere outside brackets, literals and shortcuts. Entries have separators
of their own. -/
@[simp] def lacks (sep : Char) : {s : Spot} → Fragment s → Bool
  | _, .empty => true
  | _, .plain c rest => c != sep && rest.lacks sep
  | _, .literal _ rest => rest.lacks sep
  | _, .group _ _ rest => rest.lacks sep
  | _, .shortcut _ _ _ rest => rest.lacks sep
  | _, .blank t => !t.contains sep
  | _, .bare f => f.lacks sep
  | _, .keyed entries => entries.lacks sep
  | _, .last _ _ => false
  | _, .more _ _ _ => false

/-- How deep shortcuts are nested. -/
@[simp] def depth : {s : Spot} → Fragment s → Nat
  | _, .empty => 0
  | _, .plain _ rest => rest.depth
  | _, .literal _ rest => rest.depth
  | _, .group _ inner rest => max inner.depth rest.depth
  | _, .shortcut _ _ coordinate rest => max (coordinate.depth + 1) rest.depth
  | _, .blank _ => 0
  | _, .bare f => f.depth
  | _, .keyed entries => entries.depth
  | _, .last _ value => value.depth
  | _, .more _ value rest => max value.depth rest.depth

/-- A fragment that stands after the character `prev` and is read as its tree says.

* Plain text has no sigils, marks, hashes or brackets, and no two literals touch.
* A shortcut does not stand directly after a word character.
* A coordinate without entries is not blank, has no colon or comma of its own, and does not look
  like a spread entry. The value of an entry is not blank and has no comma of its own. -/
@[simp] def WellFormed : {s : Spot} → (prev : Option Char) → Fragment s → Prop
  | _, _, .empty => True
  | _, _, .plain c rest => isPlain c = true ∧ rest.WellFormed (some c)
  | _, _, .literal body rest =>
    isClosedLiteral body = true ∧ (∀ c ∈ body, isSigil c = false) ∧
      startsQuote rest.render = false ∧ rest.WellFormed body.getLast?
  | _, _, .group bracket inner rest =>
    inner.WellFormed (some bracket.opener) ∧ rest.WellFormed (some bracket.closer)
  | _, prev, .shortcut rule name coordinate rest =>
    Rule.mayPrecede prev = true ∧ rule.Admits name ∧ coordinate.WellFormed (some '(') ∧
      rest.WellFormed (some ')')
  | _, _, .blank t => t.isBlankText = true
  | _, prev, .bare f =>
    f.WellFormed prev ∧ f.render.isBlankText = false ∧ f.lacks ',' = true ∧ f.lacks ':' = true ∧
      "**".toList.isPrefixOf f.render.trim = false
  | _, prev, .keyed entries => entries.WellFormed prev
  | _, _, .last lead value =>
    lead.WellFormed ∧ value.WellFormed lead.text.getLast? ∧ value.render.isBlankText = false ∧
      value.lacks ',' = true
  | _, _, .more lead value rest =>
    lead.WellFormed ∧ value.WellFormed lead.text.getLast? ∧ value.render.isBlankText = false ∧
      value.lacks ',' = true ∧ rest.WellFormed (some ',')

/-- The call of a method of the running cell, with the name of a cube if there is one. -/
def callText (rule : Rule) (name : Option Text) (coordinate : Text) : Text :=
  let arguments :=
    match name with
    | some name => '\'' :: (name ++ ("', ".toList ++ coordinate))
    | none => coordinate
  match rule with
  | .fixedCube => "self.get_fixed_cell(".toList ++ (arguments ++ [')'])
  | .relativeCube => "self.get_relative_cube_cell(".toList ++ (arguments ++ [')'])
  | .relative => "self.get_relative_cell(".toList ++ (arguments ++ [')'])
  | .relativeAt => "self.get_relative_cell(".toList ++ (arguments ++ [')'])

/-- The text in which every shortcut is replaced by its call. A coordinate becomes the expression
that it stands for: a dictionary display with all its entries, an empty one if it is blank, and
otherwise the expression itself. -/
@[simp] def translation : {s : Spot} → Fragment s → Text
  | _, .empty => []
  | _, .plain c rest => c :: rest.translation
  | _, .literal body rest => body ++ rest.translation
  | _, .group bracket inner rest =>
    bracket.opener :: (inner.translation ++ bracket.closer :: rest.translation)
  | _, .shortcut rule name coordinate rest =>
    callText rule name coordinate.translation ++ rest.translation
  | _, .blank _ => "\x7b\x7d".toList
  | _, .bare f => f.translation.trim
  | _, .keyed entries => '\x7b' :: (entries.translation ++ ['\x7d'])
  | _, .last lead value => lead.display value.translation
  | _, .more lead value rest =>
    lead.display value.translation ++ (", ".toList ++ rest.translation)

end Fragment

end FormulaCube
