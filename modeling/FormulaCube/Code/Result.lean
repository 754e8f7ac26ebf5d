import FormulaCube.Code.Statement
import FormulaCube.Value.Fault

/-!
# The result of a body

A body of statements whose last one is an expression has the value of that expression as its result.

* `finalExpression?` — where the last statement of a body begins, if it is an expression.
* `withResultAt` — a body with an expression returned that begins at a place, whoever gives that.
* `withResult` — the body with its final expression returned.
-/

namespace FormulaCube.Code

/-- The line and the number of bytes in it where the last statement of a body begins, if the body is
a valid program and that statement is an expression. -/
def finalExpression? (t : Text) : Option (Nat × Nat) := do
  match (← program? t).getLast? with
  | some (.expression line column _) => some (line, column)
  | _ => none

/-- Puts the word that returns a value before the given number of bytes of a line. -/
def returnFrom (column : Nat) (line : Text) : Text :=
  let chars := Text.charsWithin column line
  line.take chars ++ "return ".toList ++ line.drop chars

/-- The body with the value of an expression as its result, if it is said where one begins. A blank body has
no value, and any other body stays as it is. -/
def withResultAt (place? : Option (Nat × Nat)) (t : Text) : Except Fault Text :=
  if t.isBlankText then .ok "return None".toList
  else if t.contains '\x00' then .error .nullCharacter
  else
    match place? with
    | some (line, column) =>
      .ok (Text.join ['\n'] (t.lines.modify (line - 1) (returnFrom column)))
    | none => .ok t

/-- The body with the value of its final expression as its result. A body that is no valid program, or that
ends otherwise, stays as it is. -/
def withResult (t : Text) : Except Fault Text := withResultAt (finalExpression? t) t

end FormulaCube.Code
