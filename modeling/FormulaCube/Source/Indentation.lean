import FormulaCube.Shortcut.Piece

/-!
# Indentation

Moving a block of source to the right or to the left margin. Lines that begin inside a string
literal belong to the literal and stay as they are.

* `literalLines` — which lines begin inside a literal.
* `indent` — puts blanks before every line of code.
* `dedent` — takes away the blanks that all lines of code have in common.
-/

namespace FormulaCube

/-- For each literal, the numbers of the lines on which it begins and ends; a newline that ends the
literal still belongs to its last line. -/
def literalLines (t : Text) : List (Nat × Nat) :=
  (stringSpans t).map fun span =>
    ((t.take span.1).count '\n', (t.take (span.2 - 1)).count '\n')

/-- Whether line number `i` begins inside a literal. -/
def beginsInLiteral (spans : List (Nat × Nat)) (i : Nat) : Bool :=
  spans.any fun span => span.1 < i && i ≤ span.2

/-- The lines of a text with the information whether they begin inside a literal. -/
def markedLines (t : Text) : List (Text × Bool) :=
  let spans := literalLines t
  ((Text.splitOn '\n' t).zipIdx).map fun (line, i) => (line, beginsInLiteral spans i)

/-- Puts `margin` before every line that holds code. -/
def indent (margin t : Text) : Text :=
  Text.join ['\n'] ((markedLines t).map fun (line, inside) =>
    if line.isBlankText || inside then line else margin ++ line)

/-- The longest text that both texts begin with. -/
def commonLead : Text → Text → Text
  | a :: s, b :: t => if a = b then a :: commonLead s t else []
  | _, _ => []

/-- The blanks that all the lines begin with. -/
def commonMargin : List Text → Text
  | [] => []
  | line :: lines =>
    lines.foldl (fun margin other => commonLead margin (other.takeWhile Text.isBlank))
      (line.takeWhile Text.isBlank)

/-- Takes the common blanks of the lines of code away from every line; blank lines become empty. -/
def dedent (t : Text) : Text :=
  let lines := markedLines t
  let code := lines.filter fun (line, inside) => !line.isBlankText && !inside
  let margin := commonMargin (code.map (·.1))
  Text.join ['\n'] (lines.map fun (line, inside) =>
    if inside then line else if line.isBlankText then [] else line.drop margin.length)

end FormulaCube
