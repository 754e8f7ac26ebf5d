import FormulaCube.Value.Fault

/-!
# Pieces of cell source

Cell source is read as a sequence of pieces: string literals, comments, and single characters of
code. Everything that looks at brackets, separators, comments or strings is a walk over the pieces.

* `Piece.ofText` — the pieces of a text; put together again they are the text.
* `stringSpans` — where the string literals lie.
* `withoutComments` — the text without its comments.
* `closingParen?` — where the parenthesis opened just before a text is closed.
* `splitTopLevel` — the parts of a text between separators outside brackets, literals and comments.
-/

namespace FormulaCube

/-- A part of cell source that is read as one. -/
inductive Piece where
  /-- One character of code. -/
  | code (c : Char)
  /-- A string literal with its marks. It is `cut` when the text ends just after a backslash
  inside it, so that the escaped character is missing. -/
  | literal (body : Text) (cut : Bool)
  /-- A comment, from its `#` to before the end of the line. -/
  | comment (body : Text)
  deriving DecidableEq, Repr

namespace Piece

/-! ## Reading literals -/

/-- The rest of a one-line literal after its opening mark, what follows it, and whether it is cut
off after a backslash. The literal ends with the mark or with the line. -/
def closeLine (mark : Char) : Text → Text × Text × Bool
  | [] => ([], [], false)
  | c :: rest =>
    if c = Text.backslash then
      match rest with
      | [] => ([c], [], true)
      | d :: more =>
        let (body, after, cut) := closeLine mark more
        (c :: d :: body, after, cut)
    else if c = mark || c = '\n' then ([c], rest, false)
    else
      let (body, after, cut) := closeLine mark rest
      (c :: body, after, cut)

/-- The rest of a literal after three opening marks, up to the first three marks in a row, and what
follows it. -/
def closeBlock (mark : Char) : Text → Text × Text
  | [] => ([], [])
  | c :: rest =>
    if [mark, mark, mark].isPrefixOf (c :: rest) then ([mark, mark, mark], rest.drop 2)
    else
      let (body, after) := closeBlock mark rest
      (c :: body, after)

/-- The rest of a literal after its first mark, what follows it, and whether it is cut. -/
def closeLiteral (mark : Char) (rest : Text) : Text × Text × Bool :=
  if [mark, mark].isPrefixOf rest then
    let (body, after) := closeBlock mark (rest.drop 2)
    (mark :: mark :: body, after, false)
  else closeLine mark rest

/-- A one-line literal and what follows it are no longer than the text. -/
theorem closeLine_length (mark : Char) (t : Text) :
    (closeLine mark t).2.1.length ≤ t.length := by
  fun_induction closeLine mark t <;> simp_all <;> omega

/-- What follows a literal in three marks is no longer than the text. -/
theorem closeBlock_length (mark : Char) (t : Text) : (closeBlock mark t).2.length ≤ t.length := by
  fun_induction closeBlock mark t <;> simp_all <;> omega

/-- What follows a literal is no longer than the text after its first mark. -/
theorem closeLiteral_length (mark : Char) (t : Text) :
    (closeLiteral mark t).2.1.length ≤ t.length := by
  unfold closeLiteral
  split
  · have := closeBlock_length mark (t.drop 2)
    simp only [List.length_drop] at this
    show (closeBlock mark (t.drop 2)).2.length ≤ t.length
    omega
  · exact closeLine_length mark t

/-- Whether the comment that a text is in goes on at the character. -/
def inComment (c : Char) : Bool := c != '\n'

/-- The pieces of a text. -/
def ofText : Text → List Piece
  | [] => []
  | c :: rest =>
    if c = '#' then
      .comment (c :: rest.takeWhile inComment) :: ofText (rest.dropWhile inComment)
    else if Text.isQuote c then
      .literal (c :: (closeLiteral c rest).1) (closeLiteral c rest).2.2 ::
        ofText (closeLiteral c rest).2.1
    else .code c :: ofText rest
termination_by t => t.length
decreasing_by
  · have := (List.dropWhile_sublist inComment (l := rest)).length_le
    simp only [List.length_cons]
    omega
  · have := closeLiteral_length c rest
    simp only [List.length_cons]
    omega
  · simp

/-- The characters of a piece. -/
def text : Piece → Text
  | .code c => [c]
  | .literal body _ => body
  | .comment body => body

/-- The number of characters of a piece. -/
def length (piece : Piece) : Nat := piece.text.length

end Piece

/-! ## String literals -/

/-- Where the literals lie among pieces that begin at `start`. The span of a cut literal reaches one
past the end of the text, where its escaped character would be. -/
def spansFrom : (start : Nat) → List Piece → List (Nat × Nat)
  | _, [] => []
  | start, .literal body cut :: pieces =>
    (start, start + body.length + (if cut then 1 else 0)) ::
      spansFrom (start + body.length) pieces
  | start, piece :: pieces => spansFrom (start + piece.length) pieces

/-- Where the string literals of a text begin and end. -/
def stringSpans (t : Text) : List (Nat × Nat) := spansFrom 0 (Piece.ofText t)

/-- Whether the position lies inside a literal: after the beginning of the last literal that begins
before it, and before the end of that literal. -/
def insideSpan (spans : List (Nat × Nat)) (position : Nat) : Bool :=
  match (spans.takeWhile fun span => span.1 < position).getLast? with
  | some span => position < span.2
  | none => false

/-! ## Comments -/

/-- A piece as it stands in a text without comments. -/
def Piece.uncommented : Piece → Text
  | .comment _ => []
  | piece => piece.text

/-- The text without its comments; the ends of the lines stay. -/
def withoutComments (t : Text) : Text := (Piece.ofText t).flatMap Piece.uncommented

/-! ## Brackets -/

/-- The bracket that closes an opening bracket. -/
def closer? (c : Char) : Option Char :=
  if c = '(' then some ')'
  else if c = '[' then some ']'
  else if c = '\x7b' then some '\x7d'
  else none

/-- Whether the character is a closing bracket. -/
def isCloser (c : Char) : Bool := c = ')' || c = ']' || c = '\x7d'

/-- Where among pieces that begin at `start` the last of the expected closing brackets stands, if
every bracket on the way closes the one opened last. -/
def closingFrom : (expected : Text) → (start : Nat) → List Piece → Option Nat
  | _, _, [] => none
  | expected, start, .code c :: pieces =>
    match closer? c with
    | some close => closingFrom (close :: expected) (start + 1) pieces
    | none =>
      if isCloser c then
        match expected with
        | [] => none
        | [top] => if c = top then some start else none
        | top :: below => if c = top then closingFrom below (start + 1) pieces else none
      else closingFrom expected (start + 1) pieces
  | expected, start, piece :: pieces => closingFrom expected (start + piece.length) pieces

/-- Where the parenthesis that was opened just before the text is closed. -/
def closingParen? (t : Text) : Option Nat := closingFrom [')'] 0 (Piece.ofText t)

/-! ## Splitting -/

/-- Puts characters before the first part. -/
def prepend (lead : Text) : List Text → List Text
  | [] => [lead]
  | part :: parts => (lead ++ part) :: parts

/-- The parts of the pieces between separators at depth zero, starting at the given depth. -/
def splitPieces (sep : Char) : (depth : Int) → List Piece → List Text
  | _, [] => [[]]
  | depth, .code c :: pieces =>
    if (closer? c).isSome then prepend [c] (splitPieces sep (depth + 1) pieces)
    else if isCloser c then prepend [c] (splitPieces sep (depth - 1) pieces)
    else if c = sep && depth = 0 then [] :: splitPieces sep depth pieces
    else prepend [c] (splitPieces sep depth pieces)
  | depth, piece :: pieces => prepend piece.text (splitPieces sep depth pieces)

/-- The parts of a text between the separators that stand outside brackets, literals and comments.
An unmatched closing bracket lowers the depth below zero, where nothing separates either. -/
def splitTopLevel (sep : Char) (t : Text) : List Text := splitPieces sep 0 (Piece.ofText t)

/-! ## Counting from the end

A search may begin before the text: the position `-k` is the `k`-th character from the end, and
after the last character the search goes on with the first one. -/

/-- Where the search for closing brackets ends when it goes on at position `start` of the text. -/
def closingAt (expected t : Text) (start : Nat) : Option Int :=
  (closingFrom expected start (Piece.ofText (t.drop start))).map Int.ofNat

/-- The position just past the first `needle` in `rest`, which begins at position `start`. -/
def pastFirst? (needle : Text) : (start : Nat) → (rest : Text) → Option Nat
  | start, [] => if needle.isEmpty then some start else none
  | start, c :: rest =>
    if needle.isPrefixOf (c :: rest) then some (start + needle.length)
    else pastFirst? needle (start + 1) rest

/-- The search over the last characters of the text, of which `tail` are left. `skip` characters
are passed over, because a literal ends after them. A literal in three marks and a comment that
begin here are looked up from the end of the text, so the search goes on after them there. -/
def closingInTail (t : Text) : (expected : Text) → (skip : Nat) → (tail : Text) → Option Int
  | expected, skip, [] => closingAt expected t skip
  | expected, skip + 1, _ :: tail => closingInTail t expected skip tail
  | expected, 0, c :: tail =>
    let here := t.length - tail.length - 1
    if Text.isQuote c then
      if [c, c].isPrefixOf tail then
        let searchFrom := if tail.length = 2 then 0 else here + 3
        match pastFirst? [c, c, c] searchFrom (t.drop searchFrom) with
        | some stop => closingAt expected t stop
        | none => none
      else
        let (body, _, cut) := Piece.closeLine c (tail ++ t)
        closingInTail t expected (body.length + (if cut then 1 else 0)) tail
    else if c = '#' then
      match pastFirst? ['\n'] here (t.drop here) with
      | some stop => closingAt expected t (stop - 1)
      | none => none
    else
      match closer? c with
      | some close => closingInTail t (close :: expected) 0 tail
      | none =>
        if isCloser c then
          match expected with
          | [] => none
          | [top] => if c = top then some (-((tail.length : Int) + 1)) else none
          | top :: below => if c = top then closingInTail t below 0 tail else none
        else closingInTail t expected 0 tail

/-- Where the parenthesis opened just before position `start` of the text is closed; a negative
position counts from the end, and it is a fault if it begins before the text. -/
def closingParenFrom (t : Text) (start : Int) : Except Fault (Option Int) :=
  if 0 ≤ start then .ok (closingAt [')'] t start.toNat)
  else if start.natAbs ≤ t.length then
    .ok (closingInTail t [')'] 0 (t.drop (t.length - start.natAbs)))
  else .error (.indexRange "string".toList)

end FormulaCube
