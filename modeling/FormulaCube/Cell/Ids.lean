import FormulaCube.Text.Basic

/-!
# Numbers of compilations

Every compilation gets a number of its own, which makes the names that it generates unique.

* `IdSource.sequential` — increasing numbers from a start.
* `IdSource.wide` — names of 32 hexadecimal digits, for names beyond one run.
* `IdSource.take` — the next numbers of a source.
-/

namespace FormulaCube

/-- Where the numbers of compilations come from: the next number, and how it is written. -/
structure IdSource where
  /-- The next number. -/
  next : Int
  /-- They are written as 32 hexadecimal digits. -/
  isWide : Bool
  deriving DecidableEq, Repr

namespace IdSource

/-- Increasing numbers from a start. -/
def sequential (start : Int) : IdSource := ⟨start, false⟩

/-- Numbers written as 32 hexadecimal digits. -/
def wide (start : Nat) : IdSource := ⟨start, true⟩

/-- The number from which a source counts whose start is not given. -/
def defaultStart : Int := 1000

/-- How the next number is written. -/
def text (source : IdSource) : Text :=
  if source.isWide then Text.hex 32 source.next.toNat else Text.ofInt source.next

/-- The source after the next number was drawn. -/
def rest (source : IdSource) : IdSource := { source with next := source.next + 1 }

/-- The next `count` numbers. -/
def take (source : IdSource) : (count : Nat) → List IdSource
  | 0 => []
  | count + 1 => source :: source.rest.take count

end IdSource

end FormulaCube
