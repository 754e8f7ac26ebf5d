import FormulaCube.Cell.Settings
import FormulaCube.Code.Result
import FormulaCube.Failure
import FormulaCube.Shortcut.Expansion
import FormulaCube.Shortcut.Placeholder
import FormulaCube.Source.Imports
import FormulaCube.Source.Indentation

/-!
# Generated modules

The source of a cell becomes a module with one class. An expression becomes the body of the method
that is run; methods become the methods of the class.

* `className` — the name of the class, an identifier of ASCII characters.
* `generate` — the module of a cell.
-/

namespace FormulaCube

/-- A generated module: the name of its class, and its text. -/
structure GeneratedModule where
  /-- The name of the class. -/
  className : Text
  /-- The text of the module. -/
  text : Text
  deriving DecidableEq, Repr

/-- The names under which an expression reaches its surroundings. -/
def localsLine : Text :=
  ("input, output, stack, cube, registry = " ++
    "(self.input, self.output, self.stack, self.cube, self.registry)").toList

/-- The name of the class for a cell of a cube, in the compilation with the given number. -/
def className (settings : Settings) (cube number : Text) : Text :=
  identifierOf (settings.classLead ++ '_' :: cube ++ '_' :: number)

/-- Blanks to the left of a block. -/
def blanks (width : Nat) : Text := List.replicate width ' '

/-- The body of the class. -/
def classBody (kind : CellKind) (source : Text) : Except Fault Text :=
  match kind with
  | .methods =>
    .ok (if source.isBlankText then blanks 4 ++ "pass".toList else indent (blanks 4) source)
  | .expression => do
    let body ← Code.withResult source
    return "    def run(self):\n".toList ++ indent (blanks 8) (localsLine ++ '\n' :: body)

/-- The module around the body of a class. -/
def moduleText (imports : List Text) (name body : Text) : Text :=
  (Text.join ['\n'] imports ++ "\n\n\nclass ".toList ++ name ++ "(ExecutionShim):\n".toList ++
    body ++ ['\n']).dropWhile (· == '\n')

/-- The module for a source in a cell of a cube, in the compilation with the given number. -/
def generate (settings : Settings) (rules : List Rule) (kind : CellKind) (cube number source : Text) :
    Except Failure GeneratedModule := do
  let expanded ← expandIn expansionLevels rules (fillPlaceholders number source)
  let margined := Text.trimNewlines (dedent expanded)
  let extraction : ImportExtraction :=
    if settings.hoistImports then extractImports margined else ⟨[], margined⟩
  let name := className settings cube number
  let body ← (classBody kind extraction.source).mapError Failure.fault
  return ⟨name, moduleText extraction.imports name body⟩

end FormulaCube
