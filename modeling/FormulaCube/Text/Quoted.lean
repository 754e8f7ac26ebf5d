import FormulaCube.Text.Basic
import FormulaCube.Text.Printable

/-!
# Quoted texts

How a text is shown between quotation marks, in messages and in generated code.

* `Text.quoted` — the shown form. The mark is the apostrophe, or the double quote where the text
  has an apostrophe and no double quote, so that escaping is needed as rarely as possible.
* `Text.quotedJson` — the form of a JSON string that is plain ASCII.
-/

namespace FormulaCube.Text

/-- The apostrophe. -/
def apostrophe : Char := '\x27'

/-- The double quote. -/
def doubleQuote : Char := '\x22'

/-- The backslash. -/
def backslash : Char := '\x5c'

/-- Whether the character begins a string literal. -/
def isQuote (c : Char) : Bool := c = apostrophe || c = doubleQuote

/-- The mark a text is quoted with. -/
def quoteMark (t : Text) : Char :=
  if t.contains apostrophe && !t.contains doubleQuote then doubleQuote else apostrophe

/-- One character between quotation marks `mark`: the mark and the backslash are escaped, three
control characters have a letter of their own, and what cannot be printed is given by number. -/
def escapedChar (mark c : Char) : Text :=
  if c = mark || c = backslash then [backslash, c]
  else if c = '\n' then [backslash, 'n']
  else if c = '\r' then [backslash, 'r']
  else if c = '\t' then [backslash, 't']
  else if isPrintable c then [c]
  else if c.toNat < 0x100 then backslash :: 'x' :: hex 2 c.toNat
  else if c.toNat < 0x10000 then backslash :: 'u' :: hex 4 c.toNat
  else backslash :: 'U' :: hex 8 c.toNat

/-- The text between quotation marks, escaped so that it reads back as itself. -/
def quoted (t : Text) : Text :=
  let mark := quoteMark t
  mark :: (t.flatMap (escapedChar mark) ++ [mark])

/-- One character of a JSON string in plain ASCII: characters beyond the basic plane are written as
two surrogates. -/
def jsonChar (c : Char) : Text :=
  if c = doubleQuote || c = backslash then [backslash, c]
  else if c = '\n' then [backslash, 'n']
  else if c = '\r' then [backslash, 'r']
  else if c = '\t' then [backslash, 't']
  else if c.toNat = 8 then [backslash, 'b']
  else if c.toNat = 12 then [backslash, 'f']
  else if 32 ≤ c.toNat && c.toNat ≤ 126 then [c]
  else if c.toNat < 0x10000 then backslash :: 'u' :: hex 4 c.toNat
  else
    let n := c.toNat - 0x10000
    (backslash :: 'u' :: hex 4 (0xd800 + n / 0x400)) ++
      (backslash :: 'u' :: hex 4 (0xdc00 + n % 0x400))

/-- The text as a JSON string in plain ASCII. -/
def quotedJson (t : Text) : Text :=
  doubleQuote :: (t.flatMap jsonChar ++ [doubleQuote])

end FormulaCube.Text
