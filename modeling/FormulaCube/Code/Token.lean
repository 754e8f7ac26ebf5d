import FormulaCube.Number.Shortest
import FormulaCube.Text.Normal

/-!
# Tokens

What the source of a cell is made of when it is read as a program.

* `Lexeme` — the kinds of tokens, with what they carry.
* `Token` — a lexeme and where it begins.
* `isKeyword` — the words that are no names.
-/

namespace FormulaCube.Code

/-- A number written in a program. -/
inductive Numeral where
  /-- An integer. -/
  | int (n : Nat)
  /-- A double. -/
  | float (x : Binary64)
  /-- An imaginary number, by its size. -/
  | imaginary (x : Binary64)
  deriving DecidableEq, Repr

/-- A string literal as it is written: the letters before its marks and the text between them. -/
structure Quotation where
  /-- The literal is a sequence of bytes. -/
  bytes : Bool
  /-- Backslashes stand for themselves. -/
  raw : Bool
  /-- Expressions in braces are filled in. -/
  formatted : Bool
  /-- What stands between the marks. -/
  body : Text
  deriving DecidableEq, Repr

/-- A token without its place. -/
inductive Lexeme where
  /-- A word that the language reserves. -/
  | keyword (word : String)
  /-- Any other word. -/
  | name (t : Text)
  /-- A number. -/
  | number (n : Numeral)
  /-- A string literal. -/
  | quotation (q : Quotation)
  /-- An operator, a bracket or a separator. -/
  | mark (s : String)
  /-- The end of a line that holds code. -/
  | newline
  /-- A line stands further to the right than the one before. -/
  | indent
  /-- A block ends before this line. -/
  | dedent
  /-- The end of the source. -/
  | finish
  deriving DecidableEq, Repr

/-- A token with the line it begins on, counted from one, and the number of bytes before it in that
line. -/
structure Token where
  /-- What the token is. -/
  lexeme : Lexeme
  /-- The number of its line. -/
  line : Nat
  /-- The number of bytes before it in its line. -/
  column : Nat
  deriving DecidableEq, Repr

/-- The reserved words. -/
def keywords : List String :=
  ["False", "None", "True", "and", "as", "assert", "async", "await", "break", "class",
    "continue", "def", "del", "elif", "else", "except", "finally", "for", "from", "global",
    "if", "import", "in", "is", "lambda", "nonlocal", "not", "or", "pass", "raise", "return",
    "try", "while", "with", "yield"]

/-- Whether a word is reserved. -/
def isKeyword (word : String) : Bool := keywords.contains word

/-- The token of a word. All spellings of a name are one name. -/
def Lexeme.ofWord (t : Text) : Lexeme :=
  let word := String.ofList t
  if isKeyword word then .keyword word else .name t.normal

end FormulaCube.Code
