import FormulaCube.Code.Lexer
import FormulaCube.Code.Tree

/-!
# Reading tokens

A reader takes tokens from the front of a list and gives a result, or gives nothing. Where a choice is
open, the second reader starts from the tokens that the first one started from.

* `Reader` — readers.
* `Reader.mark`, `Reader.word`, `Reader.name` — the single tokens.
* `Reader.many`, `Reader.manyAfter` — repetition.
-/

namespace FormulaCube.Code

/-- What takes tokens from the front of a list. -/
abbrev Reader := StateT (List Token) Option

namespace Reader

/-- The next lexeme, which stays. -/
def peek : Reader Lexeme := do
  match ← get with
  | [] => return .finish
  | token :: _ => return token.lexeme

/-- The lexeme after the next, which stays. -/
def peekSecond : Reader Lexeme := do
  match ← get with
  | _ :: token :: _ => return token.lexeme
  | _ => return .finish

/-- The line and the column of the next token. -/
def place : Reader (Nat × Nat) := do
  match ← get with
  | [] => failure
  | token :: _ => return (token.line, token.column)

/-- Takes the next token. -/
def advance : Reader Unit := do
  match ← get with
  | [] => failure
  | _ :: tokens => set tokens

/-- Whether the lexeme is this mark. -/
def isMark (m : String) : Lexeme → Bool
  | .mark s => s == m
  | _ => false

/-- Whether the lexeme is this reserved word. -/
def isWord (w : String) : Lexeme → Bool
  | .keyword s => s == w
  | _ => false

/-- Whether this mark comes next. -/
def atMark (m : String) : Reader Bool := return isMark m (← peek)

/-- Whether this reserved word comes next. -/
def atWord (w : String) : Reader Bool := return isWord w (← peek)

/-- Takes this mark if it comes next, and says whether it did. -/
def takesMark (m : String) : Reader Bool := do
  if ← atMark m then
    advance
    return true
  else return false

/-- Takes this reserved word if it comes next, and says whether it did. -/
def takesWord (w : String) : Reader Bool := do
  if ← atWord w then
    advance
    return true
  else return false

/-- Takes this mark. -/
def mark (m : String) : Reader Unit := do
  unless ← takesMark m do failure

/-- Takes this reserved word. -/
def word (w : String) : Reader Unit := do
  unless ← takesWord w do failure

/-- Takes this lexeme, which carries nothing. -/
def layout (lexeme : Lexeme) : Reader Unit := do
  if (← peek) = lexeme then advance else failure

/-- Takes a name. -/
def name : Reader Text := do
  match ← peek with
  | .name t =>
    advance
    return t
  | _ => failure

/-- Results as long as the reader gives one, and at most `bound` of them. -/
def manyAtMost {α : Type} (p : Reader α) : (bound : Nat) → Reader (List α)
  | 0 => return []
  | bound + 1 =>
    (do
      let x ← p
      let xs ← manyAtMost p bound
      return x :: xs) <|> return []

/-- Results as long as the reader gives one; each takes a token at least. -/
def many {α : Type} (p : Reader α) : Reader (List α) := do
  manyAtMost p (← get).length

/-- Results, each after the mark. -/
def manyAfter {α : Type} (m : String) (p : Reader α) : Reader (List α) :=
  many do
    mark m
    p

/-- Results with the mark between them, at least one. -/
def separated {α : Type} (m : String) (p : Reader α) : Reader (List α) := do
  let first ← p
  return first :: (← manyAfter m p)

/-- The result of the reader on these tokens; what it leaves does not matter. -/
def within {α : Type} (tokens : List Token) (p : Reader α) : Reader α :=
  StateT.lift ((p.run tokens).map (·.1))

end Reader

end FormulaCube.Code
