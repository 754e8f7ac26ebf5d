import FormulaCube.Code.Tree
import FormulaCube.World.Basic

/-!
# Constants

Within one module there is only one of each constant, and what consists of constants alone counts as one
where it is not too large.

* `isConstant` — whether an expression consists of constants alone.
* `settled` — a value with the mark of the constants of a module.
-/

namespace FormulaCube.Run

open Code

mutual

/-- Whether an expression consists of constants alone. -/
def isConstant : Expr → Bool
  | .none => true
  | .bool _ => true
  | .number _ => true
  | .ellipsis => true
  | .str _ => true
  | .bytes _ => true
  | .unary _ operand => isConstant operand
  | .binary _ left right => isConstant left && isConstant right
  | .subscript object index => isConstant object && isConstant index
  | .tuple items => areConstants items
  | _ => false

/-- Whether expressions consist of constants alone. -/
def areConstants : List Expr → Bool
  | [] => true
  | e :: es => isConstant e && areConstants es

end

/-- How many members a repeated tuple has at most that still counts as a constant. -/
def constantItems : Nat := 256

/-- How many characters a repeated text has at most that still counts as a constant. -/
def constantCharacters : Nat := 4096

/-- How large an integer is at most that an operator makes fast grow and that still counts as a
constant. -/
def constantSize : Nat := 2 ^ 128

/-- Whether what an operator gives for constants still counts as one. -/
def staysConstant (op : BinaryOp) (d : Datum) : Bool :=
  match op, d with
  | .mul, .str t _ => t.length ≤ constantCharacters
  | .mul, .tuple items _ => items.length ≤ constantItems
  | .mul, .int i _ | .pow, .int i _ | .shiftLeft, .int i _ => i.natAbs < constantSize
  | _, _ => true

mutual

/-- A value with the mark of the constants of a module. Of texts that look like names there is only
one of each at all. -/
def settled (mark : Mark) : Datum → Datum
  | .int i _ => .ofInt i mark
  | .float x _ => .float x mark
  | .str t _ => if t.all Text.isAsciiWord then .word t else .ofText t mark
  | .tuple items _ => .ofItems (allSettled mark items) mark
  | d => d

/-- Values with the mark of the constants of a module. -/
def allSettled (mark : Mark) : List Datum → List Datum
  | [] => []
  | d :: ds => settled mark d :: allSettled mark ds

end

end FormulaCube.Run
