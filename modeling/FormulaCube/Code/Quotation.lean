import FormulaCube.Code.Numeral
import FormulaCube.Shortcut.Piece
import FormulaCube.Text.CharacterName

/-!
# Reading string literals

* `quotation?` — the string literal at the beginning of a text.
* `unescaped?` — the characters that the text between the marks stands for.
* `FormatPiece`, `formatPieces?` — the parts of a literal in which expressions are filled in.
-/

namespace FormulaCube.Code

/-! ## Where a literal ends -/

/-- The text up to the first mark that is not escaped, and what follows it. The line must not end
before. -/
def closeShort (mark : Char) : Text → Option (Text × Text)
  | [] => none
  | c :: rest =>
    if c = mark then some ([], rest)
    else if c = '\n' then none
    else if c = Text.backslash then
      match rest with
      | [] => none
      | d :: more => (closeShort mark more).map fun (body, after) => (c :: d :: body, after)
    else (closeShort mark rest).map fun (body, after) => (c :: body, after)

/-- The text up to the first three marks in a row of which the first is not escaped, and what
follows them. -/
def closeLong (mark : Char) : Text → Option (Text × Text)
  | [] => none
  | c :: rest =>
    if [mark, mark, mark].isPrefixOf (c :: rest) then some ([], rest.drop 2)
    else if c = Text.backslash then
      match rest with
      | [] => none
      | d :: more => (closeLong mark more).map fun (body, after) => (c :: d :: body, after)
    else (closeLong mark rest).map fun (body, after) => (c :: body, after)

/-- The text between marks, the first of which has been read, and what follows. -/
def closeQuotation (mark : Char) (t : Text) : Option (Text × Text) :=
  if [mark, mark].isPrefixOf t then closeLong mark (t.drop 2) else closeShort mark t

/-- What the letters before a string literal say, if they may stand there. -/
def quotationOf? (letters : Text) (body : Text) : Option Quotation :=
  let letters := String.ofList (letters.map Char.toLower)
  if letters = "" || letters = "u" then some ⟨false, false, false, body⟩
  else if letters = "r" then some ⟨false, true, false, body⟩
  else if letters = "b" then some ⟨true, false, false, body⟩
  else if letters = "br" || letters = "rb" then some ⟨true, true, false, body⟩
  else if letters = "f" then some ⟨false, false, true, body⟩
  else if letters = "fr" || letters = "rf" then some ⟨false, true, true, body⟩
  else none

/-- Whether a string literal begins with the text: at most two letters and a mark. -/
def startsQuotation (t : Text) : Bool :=
  let letters := t.takeWhile Text.isAsciiLetter
  match t.dropWhile Text.isAsciiLetter with
  | mark :: _ => Text.isQuote mark && (quotationOf? letters []).isSome
  | [] => false

/-- The string literal at the beginning of a text, and what follows it. -/
def quotation? (t : Text) : Option (Quotation × Text) :=
  match t.dropWhile Text.isAsciiLetter with
  | mark :: rest => do
    let (body, after) ← closeQuotation mark rest
    let q ← quotationOf? (t.takeWhile Text.isAsciiLetter) body
    some (q, after)
  | [] => none

/-! ## Escapes -/

/-- A digit in octal. -/
def isOctalDigit (c : Char) : Bool := '0' ≤ c && c ≤ '7'

/-- The number of characters and the character of an escape that gives exactly `width` digits in
hexadecimal, at the beginning of a text. -/
def hexEscape? (width : Nat) (t : Text) : Option (Nat × Char) :=
  let digits := t.take width
  let n := radixValue 16 digits
  if digits.length = width && digits.all isHexDigit && n < 0x110000 then
    some (width, if 0xd800 ≤ n && n < 0xe000 then '\ufffd' else Char.ofNat n)
  else none

/-- The number of characters and the character of an escape that names it, after its letter. -/
def nameEscape? (t : Text) : Option (Nat × Char) :=
  match t with
  | '\x7b' :: rest =>
    let name := rest.takeWhile (· != '\x7d')
    if name.length < rest.length then
      (Text.named? name).map fun c => (name.length + 2, c)
    else none
  | _ => none

/-- The letters that stand for a control character after a backslash. -/
def letterEscape? (c : Char) : Option Char :=
  if c = 'n' then some '\n'
  else if c = 't' then some '\t'
  else if c = 'r' then some '\r'
  else if c = 'a' then some '\x07'
  else if c = 'b' then some '\x08'
  else if c = 'f' then some '\x0c'
  else if c = 'v' then some '\x0b'
  else none

/-- The characters that a text with escapes stands for, after `skip` characters that belong to an
escape. A backslash that begins no escape stands for itself. -/
def unescapedFrom (bytes : Bool) : (skip : Nat) → Text → Option Text
  | _, [] => some []
  | skip + 1, _ :: rest => unescapedFrom bytes skip rest
  | 0, c :: rest =>
    if c = Text.backslash then
      match rest with
      | [] => some [c]
      | d :: more =>
        if d = '\n' then unescapedFrom bytes 1 rest
        else if d = Text.backslash || Text.isQuote d then
          (unescapedFrom bytes 1 rest).map (d :: ·)
        else if isOctalDigit d then
          let digits := (rest.take 3).takeWhile isOctalDigit
          (unescapedFrom bytes digits.length rest).map (Char.ofNat (radixValue 8 digits) :: ·)
        else
          match letterEscape? d with
          | some control => (unescapedFrom bytes 1 rest).map (control :: ·)
          | none =>
            let escape : Option (Option (Nat × Char)) :=
              if d = 'x' then some (hexEscape? 2 more)
              else if bytes then none
              else if d = 'u' then some (hexEscape? 4 more)
              else if d = 'U' then some (hexEscape? 8 more)
              else if d = 'N' then some (nameEscape? more)
              else none
            match escape with
            | none => (unescapedFrom bytes 0 rest).map (c :: ·)
            | some none => none
            | some (some (width, e)) => (unescapedFrom bytes (width + 1) rest).map (e :: ·)
    else (unescapedFrom bytes 0 rest).map (c :: ·)

/-- The characters that the text of a literal stands for; bytes must be written in ASCII. -/
def unescaped? (raw bytes : Bool) (t : Text) : Option Text :=
  if bytes && t.any fun c => 128 ≤ c.toNat then none
  else if raw then some t
  else unescapedFrom bytes 0 t

/-! ## Literals in which expressions are filled in -/

/-- A part of a literal in which expressions are filled in. -/
inductive FormatPiece where
  /-- Characters that stand for themselves. -/
  | literal (t : Text)
  /-- An expression, the text that is put before its value, how the value is converted, and the
  format. -/
  | field (expression : Text) (label : Option Text) (conversion : Option Char)
    (format : Option (List FormatPiece))

/-- A brace. -/
def isBrace (c : Char) : Bool := c = '\x7b' || c = '\x7d'

/-- Puts characters before the first of two texts. -/
def before (lead : Text) (found : Option (Text × Text)) : Option (Text × Text) :=
  found.map fun (body, after) => (lead ++ body, after)

/-- The characters before the next expression, escapes included, and what follows them. `top` says
that this is no format of another expression; there two braces stand for one, and a closing brace
must not stand alone. `named` says that the name of a character is being read. -/
def formatLiteral (raw top : Bool) : (named : Bool) → Text → Option (Text × Text)
  | _, [] => some ([], [])
  | true, c :: rest => before [c] (formatLiteral raw top (c != '\x7d') rest)
  | false, c :: rest =>
    if c = Text.backslash && !raw then
      match rest with
      | [] => some ([c], [])
      | d :: more =>
        if d = 'N' then
          match more with
          | [] => some ([c, d], [])
          | e :: more => before [c, d, e] (formatLiteral raw top (e = '\x7b') more)
        else if isBrace d then
          match more with
          | e :: more =>
            if top && e = d then before [c, d] (formatLiteral raw top false more)
            else if top && d = '\x7d' then none
            else some ([c], d :: e :: more)
          | [] => if top && d = '\x7d' then none else some ([c], [d])
        else before [c, d] (formatLiteral raw top false more)
    else if isBrace c then
      match rest with
      | d :: more =>
        if top && d = c then before [c] (formatLiteral raw top false more)
        else if top && c = '\x7d' then none
        else some ([], c :: rest)
      | [] => if top && c = '\x7d' then none else some ([], [c])
    else before [c] (formatLiteral raw top false rest)

/-- The text of an expression up to the character that ends it, and what follows. `opened` are the
brackets that it has to close, `quote` the mark of the literal inside it that is being read, and
whether it stands three times. -/
def formatExpression : (opened : Text) → (quote : Option (Char × Bool)) → Text →
    Option (Text × Text)
  | _, _, [] => none
  | opened, some (mark, long), c :: rest =>
    if c = Text.backslash then none
    else if c = mark then
      if long then
        match rest with
        | d :: e :: more =>
          if d = mark && e = mark then before [c, d, e] (formatExpression opened none more)
          else before [c] (formatExpression opened (some (mark, long)) (d :: e :: more))
        | _ => none
      else before [c] (formatExpression opened none rest)
    else before [c] (formatExpression opened (some (mark, long)) rest)
  | opened, none, c :: rest =>
    if c = Text.backslash || c = '#' then none
    else if Text.isQuote c then
      match rest with
      | d :: e :: more =>
        if d = c && e = c then
          before [c, d, e] (formatExpression opened (some (c, true)) more)
        else before [c] (formatExpression opened (some (c, false)) (d :: e :: more))
      | rest => before [c] (formatExpression opened (some (c, false)) rest)
    else
      match closer? c with
      | some close => before [c] (formatExpression (close :: opened) none rest)
      | none =>
        if opened.isEmpty && "!=<>".toList.contains c && rest.head? = some '=' then
          match rest with
          | d :: more => before [c, d] (formatExpression opened none more)
          | [] => none
        else if opened.isEmpty && "!:=\x7d".toList.contains c then some ([], c :: rest)
        else if isCloser c then
          match opened with
          | [] => none
          | close :: opened =>
            if c = close then before [c] (formatExpression opened none rest) else none
        else before [c] (formatExpression opened none rest)

/-- A blank in the sense of ASCII. -/
def isAsciiBlank (c : Char) : Bool := c = ' ' || (9 ≤ c.toNat && c.toNat ≤ 13)

/-- The text before the value of an expression that is followed by an equals sign, and what follows
it. -/
def formatLabel (expression t : Text) : Option Text × Text :=
  match t with
  | '=' :: rest =>
    (some (expression ++ '=' :: rest.takeWhile isAsciiBlank), rest.dropWhile isAsciiBlank)
  | t => (none, t)

/-- How a value is converted, and what follows; `none` if no conversion of that name exists. -/
def formatConversion (t : Text) : Option (Option Char × Text) :=
  match t with
  | '!' :: c :: rest => if "sra".toList.contains c then some (some c, rest) else none
  | '!' :: [] => none
  | t => some (none, t)

/-- The parts of a text and what follows them; at most `fuel` parts are read, and expressions are
nested in formats at most `depth` deep. -/
def formatPiecesFrom (raw : Bool) :
    (fuel depth : Nat) → (top : Bool) → Text → Option (List FormatPiece × Text)
  | 0, _, _, _ => none
  | fuel + 1, depth, top, t => do
    let (written, rest) ← formatLiteral raw top false t
    let literal ← unescaped? raw false written
    let lead := if literal.isEmpty then [] else [FormatPiece.literal literal]
    match rest, depth with
    | '\x7b' :: rest, depth + 1 =>
      let (expression, rest) ← formatExpression [] none rest
      if expression.all fun c => c = ' ' || c = '\t' || c = '\n' || c = '\x0c' then none
      let (label, rest) := formatLabel expression rest
      let (conversion, rest) ← formatConversion rest
      let (format, rest) ←
        match rest with
        | ':' :: rest =>
          (formatPiecesFrom raw fuel depth false rest).map fun (pieces, rest) =>
            (some pieces, rest)
        | rest => some (none, rest)
      match rest with
      | '\x7d' :: rest =>
        let conversion :=
          if label.isSome && format.isNone && conversion.isNone then some 'r' else conversion
        let (pieces, rest) ← formatPiecesFrom raw fuel (depth + 1) top rest
        some (lead ++ FormatPiece.field expression label conversion format :: pieces, rest)
      | _ => none
    | '\x7b' :: _, 0 => none
    | rest, _ => some (lead, rest)

/-- The parts of a literal in which expressions are filled in. -/
def formatPieces? (raw : Bool) (t : Text) : Option (List FormatPiece) :=
  match formatPiecesFrom raw (t.length + 1) 2 true t with
  | some (pieces, []) => some pieces
  | _ => none

end FormulaCube.Code
