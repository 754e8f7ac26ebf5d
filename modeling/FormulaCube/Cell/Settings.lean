import FormulaCube.Value.Fault

/-!
# Settings of a compiler

* `Settings` — the settings with their defaults.
* `Settings.quote` — how much of a source is quoted in messages.
* `CellKind` — how the source of a cell is read.
-/

namespace FormulaCube

/-- How the source of a cell is read. -/
inductive CellKind where
  /-- As the body of a function, whose final expression is the value. -/
  | expression
  /-- As the methods of a class, one of which is asked for. -/
  | methods
  deriving DecidableEq, Repr

/-- The kind of the given name. -/
def CellKind.ofLabel? (t : Text) : Option CellKind :=
  if t = "expression".toList then some .expression
  else if t = "method".toList then some .methods
  else none

/-- The kind of the given name; it is a fault if there is none. -/
def CellKind.read (t : Text) : Except Fault CellKind :=
  match CellKind.ofLabel? t with
  | some kind => .ok kind
  | none => .error (.improper (Text.quoted t ++ " is not a valid CellKind".toList))

/-- The name of a kind. -/
def CellKind.label : CellKind → Text
  | .expression => "expression".toList
  | .methods => "method".toList

/-- What can be set about compiling. -/
structure Settings where
  /-- What the names of generated classes begin with. -/
  classLead : Text := "CubeCell".toList
  /-- Import statements move to the top of the generated module. -/
  hoistImports : Bool := true
  /-- Sources are quoted in messages. -/
  quotesSource : Bool := true
  /-- The number of characters of a source that are quoted. -/
  quoteLimit : Nat := 200
  deriving DecidableEq, Repr

/-- A source as it is quoted in messages: cut at the limit, or not at all. -/
def Settings.quote (settings : Settings) (source : Text) : Text :=
  if !settings.quotesSource then "<hidden>".toList
  else if source.length ≤ settings.quoteLimit then source
  else source.take settings.quoteLimit ++ "...".toList

end FormulaCube
