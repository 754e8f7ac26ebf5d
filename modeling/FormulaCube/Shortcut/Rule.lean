import FormulaCube.Shortcut.Piece

/-!
# The four shortcuts

A shortcut names another cell by a sigil, perhaps the name of a cube, and a coordinate between
parentheses. It stands for a call on the running cell.

* `Rule` — the four forms.
* `Rule.findHead` — the first place where a form begins: its sigil, name and parenthesis, not
  directly after a word character.
* `Rule.rewrite` — the call that a form stands for.
-/

namespace FormulaCube

/-- The form of a shortcut. -/
inductive Rule where
  /-- `$name(…)`: a cell of the named cube at exactly this coordinate. -/
  | fixedCube
  /-- `$(…)`: a cell of the same cube at the input overlaid with this coordinate. -/
  | relative
  /-- `@name(…)`: a cell of the named cube at the input overlaid with this coordinate. -/
  | relativeCube
  /-- `@(…)`: another spelling of `$(…)`. -/
  | relativeAt
  deriving DecidableEq, Repr

namespace Rule

/-- All forms in the order in which they are applied: with a name before without. -/
def all : List Rule := [.fixedCube, .relative, .relativeCube, .relativeAt]

/-- The name of the form. -/
def label : Rule → Text
  | .fixedCube => "fixed_cube_cell".toList
  | .relative => "relative_cell".toList
  | .relativeCube => "relative_cube_cell".toList
  | .relativeAt => "relative_cell_at".toList

/-- The form of the given name. -/
def ofLabel? (t : Text) : Option Rule := all.find? fun rule => rule.label = t

/-- The character the form begins with. -/
def sigil : Rule → Char
  | .fixedCube => '$'
  | .relative => '$'
  | .relativeCube => '@'
  | .relativeAt => '@'

/-- Whether the form gives the name of a cube. -/
def isNamed : Rule → Bool
  | .fixedCube => true
  | .relative => false
  | .relativeCube => true
  | .relativeAt => false

/-- The forms that give the name of a cube. -/
def named : List Rule := all.filter isNamed

/-! ## Heads -/

/-- A character that the name of a cube may go on with. -/
def isNamePart (c : Char) : Bool := Text.isAsciiWord c || c = '.'

/-- The name at the beginning of a text, if one stands there, and what follows it. -/
def name? : Text → Option (Text × Text)
  | [] => none
  | c :: rest =>
    if Text.isAsciiNameStart c then
      some (c :: rest.takeWhile isNamePart, rest.dropWhile isNamePart)
    else none

/-- What follows an opening parenthesis at the beginning of the text. -/
def afterParen? : Text → Option Text
  | '(' :: rest => some rest
  | _ => none

/-- The name in a head of this form at the beginning of the text, and what follows the head. -/
def headHere? (rule : Rule) : Text → Option (Option Text × Text)
  | [] => none
  | c :: rest =>
    if c = rule.sigil then
      if rule.isNamed then
        match name? rest with
        | some (name, more) => (afterParen? more).map fun after => (some name, after)
        | none => none
      else (afterParen? rest).map fun after => (none, after)
    else none

/-- A head found in a text: the text before it, the name in it, and the text after it. -/
structure Head where
  /-- What stands before the sigil. -/
  before : Text
  /-- The name of the cube, if the form gives one. -/
  name : Option Text
  /-- What stands after the opening parenthesis. -/
  after : Text
  deriving DecidableEq, Repr

/-- The number of characters of the head itself. -/
def Head.length (head : Head) : Nat := (head.name.getD []).length + 2

/-- Whether a head may follow the character. -/
def mayPrecede : Option Char → Bool
  | none => true
  | some c => !Text.isAsciiWord c

/-- The first head of this form in a text that follows the character `prev`. -/
def findHead (rule : Rule) : (prev : Option Char) → Text → Option Head
  | _, [] => none
  | prev, c :: rest =>
    match if mayPrecede prev then rule.headHere? (c :: rest) else none with
    | some (name, after) => some ⟨[], name, after⟩
    | none =>
      match rule.findHead (some c) rest with
      | some head => some { head with before := c :: head.before }
      | none => none

/-- The first head that begins at position `start` or later: where it begins and ends, and its name.
A position before the text counts as the first one, a position beyond it as the end; what stands
before the position still decides whether a head may begin there. -/
def matchFrom (rule : Rule) (t : Text) (start : Int) : Option (Nat × Nat × Option Text) :=
  let start := min start.toNat t.length
  (rule.findHead (t.take start).getLast? (t.drop start)).map fun head =>
    let begins := start + head.before.length
    (begins, begins + head.length, head.name)

/-- A parenthesis takes up one character. -/
theorem afterParen?_length {t after : Text} (h : afterParen? t = some after) :
    after.length < t.length := by
  unfold afterParen? at h
  split at h <;> simp_all

/-- What follows a name is shorter than the text. -/
theorem name?_length {t name more : Text} (h : name? t = some (name, more)) :
    more.length < t.length := by
  cases t with
  | nil => simp [name?] at h
  | cons c rest =>
    simp only [name?] at h
    split at h
    · simp only [Option.some.injEq, Prod.mk.injEq] at h
      have := (List.dropWhile_sublist isNamePart (l := rest)).length_le
      rw [← h.2, List.length_cons]
      omega
    · simp at h

/-- What follows a head at the beginning of a text is shorter than the text. -/
theorem headHere?_length {rule : Rule} {t : Text} {name : Option Text} {after : Text}
    (h : rule.headHere? t = some (name, after)) : after.length < t.length := by
  cases t with
  | nil => simp [headHere?] at h
  | cons c rest =>
    simp only [headHere?] at h
    split at h
    · split at h
      · split at h
        · rename_i found more hname
          have hmore := name?_length hname
          simp only [Option.map_eq_some_iff, Prod.mk.injEq] at h
          obtain ⟨_, hafter, -, rfl⟩ := h
          have := afterParen?_length hafter
          simp only [List.length_cons]
          omega
        · simp at h
      · simp only [Option.map_eq_some_iff, Prod.mk.injEq] at h
        obtain ⟨_, hafter, -, rfl⟩ := h
        have := afterParen?_length hafter
        simp only [List.length_cons]
        omega
    · simp at h

/-- What follows a head is shorter than the text it was found in. -/
theorem findHead_length {rule : Rule} {prev : Option Char} {t : Text} {head : Head}
    (h : rule.findHead prev t = some head) : head.after.length < t.length := by
  induction t generalizing prev head with
  | nil => simp [findHead] at h
  | cons c rest ih =>
    simp only [findHead] at h
    split at h
    · rename_i name after hhere
      simp only [Option.some.injEq] at h
      subst h
      split at hhere
      · exact headHere?_length hhere
      · simp at hhere
    · split at h
      · rename_i inner hinner
        simp only [Option.some.injEq] at h
        subst h
        have := ih hinner
        simp only [List.length_cons]
        omega
      · simp at h

/-! ## Calls -/

/-- A name as it is written in a call; where there is none, no value is written. -/
def nameLiteral : Option Text → Text
  | some name => Text.quoted name
  | none => "None".toList

/-- The call that a shortcut with this name and this coordinate stands for. -/
def rewrite (rule : Rule) (name : Option Text) (coordinate : Text) : Text :=
  match rule with
  | .fixedCube =>
    "self.get_fixed_cell(".toList ++ nameLiteral name ++ ", ".toList ++ coordinate ++ [')']
  | .relativeCube =>
    "self.get_relative_cube_cell(".toList ++ nameLiteral name ++ ", ".toList ++ coordinate ++
      [')']
  | .relative => "self.get_relative_cell(".toList ++ coordinate ++ [')']
  | .relativeAt => "self.get_relative_cell(".toList ++ coordinate ++ [')']

end Rule

end FormulaCube
