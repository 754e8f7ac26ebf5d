import FormulaCube.Failure

/-!
# Expanding shortcuts

Every shortcut in a text is replaced by the call it stands for, one form after the other; the
coordinate of a shortcut is expanded, with all forms, before it is put into the call.

* `expandForm` — one pass: replaces all shortcuts of one form from left to right.
* `expandWithin` — all passes, with a bound on how deep shortcuts may be nested.
* `expand` — all passes. The number of sigils bounds the nesting, because the coordinate of a
  shortcut lacks the sigil of its head.

Expansions of coordinates are calls within calls, which the language nests only so deep.

* `expandLevels` — all passes with that many levels of them. Where they do not suffice, that is a fault.
* `expandIn` — what `expand` gives, as far as the levels suffice.
-/

namespace FormulaCube

/-- Errors among which are those in shortcuts. -/
class HasShortcutErrors (ε : Type) where
  /-- An error in a shortcut as one of them. -/
  ofShortcut : ShortcutError → ε

export HasShortcutErrors (ofShortcut)

instance : HasShortcutErrors ShortcutError := ⟨id⟩

instance : HasShortcutErrors Failure := ⟨.shortcut⟩

/-- Replaces all shortcuts of one form in a text that begins at offset `start` of its source and
follows the character `prev`. `nested` expands a coordinate that begins at the given offset. -/
def expandForm {ε : Type} [HasShortcutErrors ε] (nested : Int → Text → Except ε Text) (rule : Rule)
    (start : Int) (prev : Option Char) (t : Text) : Except ε Text :=
  match _h : rule.findHead prev t with
  | none => .ok t
  | some head =>
    let headAt := start + head.before.length
    let inner := headAt + head.length
    match closingParen? head.after with
    | none =>
      .error (ofShortcut ⟨.unbalanced rule, headAt, (t.drop head.before.length).take 60⟩)
    | some close =>
      match nested inner (head.after.take close) with
      | .error e => .error e
      | .ok coordinate =>
        match coordinateLiteral coordinate inner with
        | .error e => .error (ofShortcut e)
        | .ok literal =>
          match expandForm nested rule (inner + close + 1) (some ')')
              (head.after.drop (close + 1)) with
          | .error e => .error e
          | .ok rest => .ok (head.before ++ rule.rewrite head.name literal ++ rest)
termination_by t.length
decreasing_by
  have := Rule.findHead_length _h
  simp only [List.length_drop]
  omega

/-- Replaces the shortcuts of each of the forms in turn, in a text that begins at offset `start` of
its source; shortcuts are nested at most `depth` deep. -/
def expandWithin (rules : List Rule) :
    (depth : Nat) → (start : Int) → Text → Except ShortcutError Text
  | 0, _, t => .ok t
  | depth + 1, start, t =>
    rules.foldlM (fun t rule => expandForm (expandWithin rules depth) rule start none t) t

/-- Whether the character is a sigil of some form. -/
def isSigil (c : Char) : Bool := c = '$' || c = '@'

/-- The number of sigils in a text. -/
def sigilCount (t : Text) : Nat := t.countP isSigil

/-- Replaces all shortcuts of the given forms by the calls they stand for. -/
def expand (rules : List Rule) (t : Text) : Except ShortcutError Text :=
  expandWithin rules (sigilCount t) 0 t

/-! ## Levels -/

/-- Replaces the shortcuts of each of the forms in turn, in a text that begins at offset `start` of
its source, where there are that many levels for this expansion and those within it. -/
def expandLevels (rules : List Rule) :
    (levels : Nat) → (start : Int) → Text → Except Failure Text
  | 0, _, _ => .error (.fault .tooDeep)
  | levels + 1, start, t =>
    rules.foldlM (fun t rule => expandForm (expandLevels rules levels) rule start none t) t

/-- Replaces all shortcuts of the given forms by the calls they stand for, with that many levels. -/
def expandIn (levels : Nat) (rules : List Rule) (t : Text) : Except Failure Text :=
  expandLevels rules levels 0 t

/-- The levels that there are for an expansion: calls are nested at most a thousand deep, each level takes
two of them, and some are taken by what asks for the expansion. -/
def expansionLevels : Nat := 490

end FormulaCube
