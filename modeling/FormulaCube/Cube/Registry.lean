import FormulaCube.Text.Basic

/-!
# The registry of cubes

Cubes are found by their names. Whoever changes the registry copies the map, changes the copy, and
publishes it; whoever looks a name up sees a published map.

* `Directory` — the map, in the order in which the names came.
* `Change`, `Change.apply` — the changes.
* `Writing`, `Writing.step` — a change as small steps under a lock.
-/

namespace FormulaCube

/-- Names and what they stand for, in the order in which the names came. -/
abbrev Directory (α : Type) := List (Text × α)

namespace Directory

variable {α : Type}

/-- What a name stands for. -/
def find? (directory : Directory α) (name : Text) : Option α := List.lookup name directory

/-- Enters a cube: in the place of one with the same name, or at the end. -/
def insert : Directory α → Text → α → Directory α
  | [], name, cube => [(name, cube)]
  | (n, c) :: rest, name, cube =>
    if n = name then (n, cube) :: rest else (n, c) :: insert rest name cube

/-- The directory without a name. -/
def erase : Directory α → Text → Directory α
  | [], _ => []
  | (n, c) :: rest, name => if n = name then rest else (n, c) :: erase rest name

/-- The names. -/
def names (directory : Directory α) : List Text := directory.map (·.1)

end Directory

/-- A change of the registry. -/
inductive Change (α : Type) where
  /-- A cube is entered under a name. -/
  | register (name : Text) (cube : α)
  /-- A name is taken out. -/
  | remove (name : Text)
  /-- All names are taken out. -/
  | clear
  deriving Repr

/-- The directory after a change. -/
def Change.apply {α : Type} : Change α → Directory α → Directory α
  | .register name cube, directory => directory.insert name cube
  | .remove name, directory => directory.erase name
  | .clear, _ => []

/-- What a change finds: the cube that had the name before. -/
def Change.found? {α : Type} : Change α → Directory α → Option α
  | .register name _, directory => directory.find? name
  | .remove name, directory => directory.find? name
  | .clear, _ => none

/-! ## Small steps -/

/-- What all writers and readers share. -/
structure Published (α : Type) where
  /-- The map that readers see. -/
  directory : Directory α
  /-- The writer that holds the lock. -/
  holder : Option Nat

/-- Where a writer stands. -/
inductive Writing (α : Type) where
  /-- The lock is about to be taken. -/
  | waiting (change : Change α)
  /-- The map is about to be copied. -/
  | copying (change : Change α)
  /-- The copy is about to be changed. -/
  | changing (change : Change α) (copy : Directory α)
  /-- The changed copy is about to be published. -/
  | publishing (found : Option α) (copy : Directory α)
  /-- The lock is about to be released. -/
  | releasing (found : Option α)
  /-- The change is made; `found` is what had the name before. -/
  | done (found : Option α)

/-- The next step of writer number `me`; one that waits for the lock, or is done, has none. -/
def Writing.step {α : Type} (me : Nat) (s : Published α) :
    Writing α → Option (Writing α × Published α)
  | .waiting change =>
    match s.holder with
    | none => some (.copying change, { s with holder := some me })
    | some _ => none
  | .copying change => some (.changing change s.directory, s)
  | .changing change copy => some (.publishing (change.found? copy) (change.apply copy), s)
  | .publishing found copy => some (.releasing found, { s with directory := copy })
  | .releasing found => some (.done found, { s with holder := none })
  | .done _ => none

end FormulaCube
