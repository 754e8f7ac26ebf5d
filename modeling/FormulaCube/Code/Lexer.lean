import FormulaCube.Code.Quotation
import FormulaCube.Text.Identifier

/-!
# From text to tokens

The layout of lines is part of the language: blocks are marked by how far their lines stand to the
right, and a line ends where no bracket is open.

* `Margin` — how far a line stands to the right.
* `lexeme?` — the word, number, literal or mark at the beginning of a text.
* `tokens?` — the tokens of a source.
-/

namespace FormulaCube.Code

/-! ## Margins -/

/-- How far a line stands to the right, measured twice: with a tab reaching to the next multiple of
eight, and with a tab counting as one. Lines are compared only where both measures agree. -/
structure Margin where
  /-- With wide tabs. -/
  wide : Nat
  /-- With narrow tabs. -/
  narrow : Nat
  deriving DecidableEq, Repr

/-- What has been read at the beginning of a line: the margin so far, the margin at the first
backslash, and the place reached. -/
structure LineStart where
  /-- The margin of the characters read. -/
  margin : Margin
  /-- The margin at the first line break that a backslash hides; it counts unless it is zero. -/
  fixed : Nat
  /-- The number of the line. -/
  line : Nat
  /-- The bytes read in the line. -/
  column : Nat

/-- Reads blanks at the beginning of a line, over line breaks hidden by a backslash. -/
def lineStart : LineStart → Text → Option (LineStart × Text)
  | s, [] => some (s, [])
  | s, c :: rest =>
    if c = ' ' then
      lineStart { s with margin := ⟨s.margin.wide + 1, s.margin.narrow + 1⟩, column := s.column + 1 }
        rest
    else if c = '\t' then
      lineStart
        { s with margin := ⟨(s.margin.wide / 8 + 1) * 8, s.margin.narrow + 1⟩,
                 column := s.column + 1 }
        rest
    else if c = '\x0c' then
      lineStart { s with margin := ⟨0, 0⟩, column := s.column + 1 } rest
    else if c = Text.backslash then
      match rest with
      | '\n' :: d :: more =>
        lineStart
          { s with fixed := if s.fixed = 0 then s.margin.wide else s.fixed,
                   line := s.line + 1, column := 0 }
          (d :: more)
      | _ => none
    else some (s, c :: rest)

/-- The margin that counts for a line. -/
def LineStart.effective (s : LineStart) : Margin :=
  if s.fixed = 0 then s.margin else ⟨s.fixed, s.fixed⟩

/-- The margins of the open blocks after a line with a margin, and the tokens for the change. Before
the line the margins of the open blocks are `top` and those below; `none` if the margins do not
agree. -/
def changeMargin (margin top : Margin) (below : List Margin) :
    Option (List Lexeme × List Margin) :=
  if margin.wide = top.wide then
    if margin.narrow = top.narrow then some ([], top :: below) else none
  else if top.wide < margin.wide then
    if top.narrow < margin.narrow then some ([.indent], margin :: top :: below) else none
  else
    match below with
    | [] => none
    | next :: below =>
      if next.wide < margin.wide then none
      else (changeMargin margin next below).map fun (lexemes, margins) =>
        (.dedent :: lexemes, margins)

/-! ## Lexemes -/

/-- The marks of three and of two characters. -/
def longMarks : List String :=
  ["**=", "//=", "<<=", ">>=", "...", "!=", "%=", "&=", "**", "*=", "+=", "-=", "->", "//", "/=",
    ":=", "<<", "<=", "==", ">=", ">>", "@=", "^=", "|="]

/-- The marks of one character. -/
def shortMarks : Text := "%&()*+,-./:;<=>@[]^\x7b|\x7d~".toList

/-- The longest mark at the beginning of a text, and what follows it. -/
def mark? (t : Text) : Option (String × Text) :=
  match longMarks.find? fun m => m.toList.isPrefixOf t with
  | some m => some (m, t.drop m.length)
  | none =>
    match t with
    | c :: rest => if shortMarks.contains c then some (c.toString, rest) else none
    | [] => none

/-- The lexeme at the beginning of a text that does not begin with a blank, and what follows it. -/
def lexeme? (t : Text) : Option (Lexeme × Text) :=
  match t with
  | [] => none
  | c :: rest =>
    if startsQuotation t then (quotation? t).map fun (q, after) => (.quotation q, after)
    else if isWordStart c then
      let word := t.takeWhile isWordPart
      if Text.isIdentifier word then some (.ofWord word, t.dropWhile isWordPart) else none
    else if Text.isAsciiDigit c || (c = '.' && (rest.head?.map Text.isAsciiDigit).getD false) then
      (numeral? t).map fun (n, after) => (.number n, after)
    else (mark? t).map fun (m, after) => (.mark m, after)

/-- The open brackets after a lexeme, as the brackets that close them; `none` if a bracket closes
another one than the last. -/
def changeBrackets (opened : List String) : Lexeme → Option (List String)
  | .mark "(" => some (")" :: opened)
  | .mark "[" => some ("]" :: opened)
  | .mark "\x7b" => some ("\x7d" :: opened)
  | .mark m =>
    if m = ")" || m = "]" || m = "\x7d" then
      match opened with
      | close :: opened => if m = close then some opened else none
      | [] => none
    else some opened
  | _ => some opened

/-! ## Sources -/

/-- Line and column after some characters. -/
def placeAfter (line column : Nat) (passed : Text) : Nat × Nat :=
  passed.foldl
    (fun (line, column) c => if c = '\n' then (line + 1, 0) else (line, column + c.utf8Size))
    (line, column)

/-- Where the reading of a source stands. -/
structure LexState where
  /-- The number of the line. -/
  line : Nat
  /-- The bytes before this place in the line. -/
  column : Nat
  /-- A new line of the layout begins here. -/
  fresh : Bool
  /-- Nothing but blanks and comments has been seen in the line. -/
  blank : Bool
  /-- The margin of the innermost open block. -/
  margin : Margin
  /-- The margins of the other open blocks. -/
  outer : List Margin
  /-- The closing brackets that are expected. -/
  opened : List String

/-- A space, a tab or a form feed. -/
def isLayoutBlank (c : Char) : Bool := c = ' ' || c = '\t' || c = '\x0c'

/-- Reads the beginning of a line: the tokens for a change of the margin, and the state after the
blanks. Lines without code leave the margins alone. -/
def beginLine (s : LexState) (t : Text) : Option (List Token × LexState × Text) := do
  let (start, rest) ← lineStart ⟨⟨0, 0⟩, 0, s.line, s.column⟩ t
  let s := { s with line := start.line, column := start.column, fresh := false }
  let blank := match rest with
    | c :: _ => c = '#' || c = '\n'
    | [] => false
  if blank then some ([], { s with blank := true }, rest)
  else
    match ← changeMargin start.effective s.margin s.outer with
    | (lexemes, margin :: outer) =>
      some (lexemes.map fun lexeme => ⟨lexeme, s.line, s.column⟩,
        { s with blank := false, margin := margin, outer := outer }, rest)
    | (_, []) => none

/-- The tokens of a text from a state on. Each step reads a character at least, so that the length of
the text bounds their number. -/
def tokensFrom : (fuel : Nat) → LexState → Text → Option (List Token)
  | 0, _, _ => none
  | fuel + 1, s, t => do
    let (changes, s, t) ← if s.fresh then beginLine s t else some ([], s, t)
    let blanks := t.takeWhile isLayoutBlank
    let s := { s with column := s.column + blanks.length }
    match t.dropWhile isLayoutBlank with
    | [] =>
      if s.opened.isEmpty then
        some (changes ++ s.outer.map (fun _ => ⟨.dedent, s.line, s.column⟩) ++
          [⟨.finish, s.line, s.column⟩])
      else none
    | c :: rest =>
      if c = '#' then
        let skipped := (c :: rest).takeWhile (· != '\n')
        let (line, column) := placeAfter s.line s.column skipped
        let tokens ← tokensFrom fuel { s with line := line, column := column }
          (rest.dropWhile (· != '\n'))
        some (changes ++ tokens)
      else if c = '\n' then
        let ends : List Token :=
          if s.blank || !s.opened.isEmpty then [] else [⟨.newline, s.line, s.column⟩]
        let tokens ← tokensFrom fuel
          { s with line := s.line + 1, column := 0, fresh := s.opened.isEmpty, blank := false }
          rest
        some (changes ++ ends ++ tokens)
      else if c = Text.backslash then
        match rest with
        | '\n' :: d :: more =>
          let tokens ← tokensFrom fuel { s with line := s.line + 1, column := 0 } (d :: more)
          some (changes ++ tokens)
        | _ => none
      else
        let (lexeme, after) ← lexeme? (c :: rest)
        let opened ← changeBrackets s.opened lexeme
        let (line, column) :=
          placeAfter s.line s.column ((c :: rest).take (rest.length + 1 - after.length))
        let tokens ← tokensFrom fuel { s with line := line, column := column, opened := opened }
          after
        some (changes ++ ⟨lexeme, s.line, s.column⟩ :: tokens)

/-- The text with one kind of line end, and one at its end. -/
def wholeLines (t : Text) : Text :=
  let t := t.unifyNewlines
  if t.getLast? = some '\n' || t.isEmpty then t else t ++ ['\n']

/-- The tokens of a source, if it can be read. -/
def tokens? (t : Text) : Option (List Token) :=
  let t := wholeLines t
  tokensFrom (t.length + 2) ⟨1, 0, true, false, ⟨0, 0⟩, [], []⟩ t

/-- The tokens of an expression that is written inside a literal. Line breaks in it end nothing. -/
def fieldTokens? (t : Text) : Option (List Token) := tokens? ('(' :: (t ++ [')']))

end FormulaCube.Code
