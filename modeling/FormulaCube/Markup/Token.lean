import FormulaCube.Text.Sextets
import FormulaCube.Value.Fault

/-!
# Tokens of configuration texts

Configuration texts are written in a markup language of mappings and sequences, in which the layout of
lines carries the structure and brackets may replace it. Whether a scalar is a key is known only when
the colon after it is read; the key is then marked at the place where it began.

* `Flaw` — why a text cannot be read.
* `Token` — the tokens.
* `Scan` — reading steps over a state.
* `tokens` — the tokens of a text, up to what cannot be read.
-/

namespace FormulaCube.Markup

/-- Why a configuration text cannot be read. -/
inductive Flaw where
  /-- It is not well formed. -/
  | malformed
  /-- A character has a number beyond those of all characters. -/
  | noCharacter
  /-- The number of a character does not fit a machine word. -/
  | hugeNumber
  deriving DecidableEq, Repr

/-- A flaw as a fault. -/
def Flaw.fault : Flaw → Fault
  | .malformed => .unreadableMarkup
  | .noCharacter => .improper "chr() arg not in range(0x110000)".toList
  | .hugeNumber => .overflow "Python int too large to convert to C int".toList

/-- A token of a configuration text. -/
inductive Token where
  /-- The version of the language that a text is written in. -/
  | version (major : Nat)
  /-- What the names of tags with a handle begin with. -/
  | handle (handle lead : Text)
  /-- Another instruction to the reader. -/
  | directive
  | documentStart
  | documentEnd
  | blockSequence
  | blockMapping
  | blockEnd
  | flowSequence
  | flowMapping
  | flowSequenceEnd
  | flowMappingEnd
  | flowEntry
  | blockEntry
  | key
  | value
  | alias (name : Text)
  | anchor (name : Text)
  | tag (handle suffix : Text)
  /-- A scalar; half of a pair of codes is in no text. -/
  | scalar (plain : Bool) (text : Option Text)
  /-- Something that cannot be read. -/
  | broken (flaw : Flaw)
  | finish
  deriving DecidableEq, Repr

/-- A place where a key may have begun. -/
structure PossibleKey where
  /-- The number of tokens before it. -/
  place : Nat
  /-- It must turn out to be a key. -/
  required : Bool
  /-- How many characters stand before it. -/
  index : Nat
  /-- The number of its line. -/
  line : Nat
  /-- Its column. -/
  column : Nat
  deriving DecidableEq, Repr

/-- Where the reading of a text stands. -/
structure ScanState where
  /-- What is left of the text. -/
  rest : Text
  /-- How many characters have been read. -/
  index : Nat
  /-- The number of the line. -/
  line : Nat
  /-- The column. -/
  column : Nat
  /-- How many brackets are open. -/
  flow : Nat
  /-- The column of the innermost open block, or minus one. -/
  indent : Int
  /-- The columns of the blocks around it. -/
  outer : List Int
  /-- A key may begin here. -/
  keyAllowed : Bool
  /-- Where keys may have begun, for each number of open brackets. -/
  keys : List (Nat × PossibleKey)
  /-- The tokens read so far. -/
  tokens : List Token
  /-- Half of a pair of codes has come up in a scalar. -/
  halved : Bool
  /-- The end has been reached. -/
  finished : Bool

/-- Reading steps, which may come upon a flaw. -/
abbrev Scan := ExceptT Flaw (StateM ScanState)

namespace Scan

/-- Ends because the text is not well formed. -/
def malformed {α : Type} : Scan α := throw Flaw.malformed

/-! ## Characters -/

/-- The end of the text, where no character stands. -/
def endMark : Char := '\x00'

/-- The character `k` places ahead. -/
def peek (k : Nat) : Scan Char := return ((← get).rest[k]?).getD endMark

/-- A character that ends a line. -/
def isBreak (c : Char) : Bool :=
  c = '\n' || c = '\r' || c = '\u0085' || c = '\u2028' || c = '\u2029'

/-- A blank, the end of a line, or the end of the text. -/
def isSpaceOrEnd (c : Char) : Bool := c = ' ' || c = '\t' || isBreak c || c = endMark

/-- The end of a line or of the text. -/
def isBreakOrEnd (c : Char) : Bool := isBreak c || c = endMark

/-- Takes a character. -/
def take : Scan Unit := do
  let s ← get
  match s.rest with
  | [] => return
  | c :: rest =>
    let breaks := isBreak c && !(c = '\r' && rest.head? = some '\n')
    set { s with
      rest := rest, index := s.index + 1
      line := if breaks then s.line + 1 else s.line
      column := if breaks then 0 else if c = '\ufeff' then s.column else s.column + 1 }

/-- Takes `k` characters and gives them. -/
def takeMany : (k : Nat) → Scan Text
  | 0 => return []
  | k + 1 => do
    let c ← peek 0
    take
    return c :: (← takeMany k)

/-- Takes the characters that satisfy `p`. -/
def takeWhile (p : Char → Bool) : Scan Text := do
  let run := (← get).rest.takeWhile p
  takeMany run.length

/-- Takes the end of a line, if one stands here, and gives it as one character. -/
def lineBreak : Scan Text := do
  let c ← peek 0
  if c = '\r' && (← peek 1) = '\n' then
    take
    take
    return ['\n']
  else if c = '\r' || c = '\n' || c = '\u0085' then
    take
    return ['\n']
  else if c = '\u2028' || c = '\u2029' then
    take
    return [c]
  else return []

/-- Whether three equal marks that separate documents stand here. -/
def atDocumentMark : Scan Bool := do
  let rest := (← get).rest
  let lead := rest.take 3
  return (lead = "---".toList || lead = "...".toList) && isSpaceOrEnd (← peek 3)

/-! ## Tokens and keys -/

/-- Adds a token. -/
def emit (token : Token) : Scan Unit := modify fun s => { s with tokens := s.tokens ++ [token] }

/-- Adds tokens before token number `place`. -/
def emitAt (place : Nat) (tokens : List Token) : Scan Unit :=
  modify fun s => { s with tokens := s.tokens.take place ++ tokens ++ s.tokens.drop place }

/-- Whether a key may begin here. -/
def allowKey (allowed : Bool) : Scan Unit := modify ({ · with keyAllowed := allowed })

/-- Forgets that a key may have begun at this number of open brackets; it must not be required. -/
def forgetKey : Scan Unit := do
  let s ← get
  match s.keys.lookup s.flow with
  | some key =>
    if key.required then malformed
    set { s with keys := s.keys.filter fun k => k.1 != s.flow }
  | none => return

/-- Notes that a key may begin here. -/
def noteKey : Scan Unit := do
  let s ← get
  let required := s.flow = 0 && s.indent = (s.column : Int)
  if s.keyAllowed then
    forgetKey
    modify fun s => { s with
      keys := (s.flow, ⟨s.tokens.length, required, s.index, s.line, s.column⟩) :: s.keys }

/-- Forgets the keys that lie on another line or too far back. -/
def dropStaleKeys : Scan Unit := do
  let s ← get
  let stale := fun (k : Nat × PossibleKey) =>
    k.2.line != s.line || 1024 < s.index - k.2.index
  if s.keys.any fun k => stale k && k.2.required then malformed
  set { s with keys := s.keys.filter fun k => !stale k }

/-! ## Blocks -/

/-- Ends the blocks that stand further to the right than the column, at most `bound` of them. -/
def endBlocks (column : Int) : (bound : Nat) → Scan Unit
  | 0 => return
  | bound + 1 => do
    let s ← get
    if column < s.indent then
      match s.outer with
      | [] => set { s with indent := -1 }
      | indent :: outer => set { s with indent := indent, outer := outer }
      emit .blockEnd
      endBlocks column bound

/-- Ends the blocks that stand further to the right than the column, outside brackets. -/
def unwind (column : Int) : Scan Unit := do
  let s ← get
  if s.flow = 0 then endBlocks column (s.outer.length + 1)

/-- Begins a block at the column if it stands further to the right than the open ones. -/
def beginBlock (column : Nat) : Scan Bool := do
  let s ← get
  if s.indent < (column : Int) then
    set { s with indent := column, outer := s.indent :: s.outer }
    return true
  else return false

/-! ## Between tokens -/

/-- Skips blanks, comments and line ends, at most `bound` lines. -/
def skipBlank : (bound : Nat) → Scan Unit
  | 0 => return
  | bound + 1 => do
    let _ ← takeWhile (· = ' ')
    if (← peek 0) = '#' then
      let _ ← takeWhile (!isBreak ·)
    let ended ← lineBreak
    unless ended.isEmpty do
      if (← get).flow = 0 then allowKey true
      skipBlank bound

/-! ## Scalars -/

/-- Line ends with the blanks after them, and whether documents are separated there. -/
def breaksAfter (blank : Char → Bool) (stops : Bool) : (bound : Nat) → Scan (Text × Bool)
  | 0 => return ([], false)
  | bound + 1 => do
    if stops && (← atDocumentMark) then return ([], true)
    let _ ← takeWhile blank
    let ended ← lineBreak
    if ended.isEmpty then return ([], false)
    let (more, separated) ← breaksAfter blank stops bound
    return (ended ++ more, separated)

/-- What stands for a line end and the empty lines after it: a blank if no empty lines follow. -/
def folded (first : Text) (more : Text) : Text :=
  (if first != ['\n'] then first else if more.isEmpty then [' '] else []) ++ more

/-- Whether a plain scalar ends before the character at `k`. -/
def endsPlain (k : Nat) : Scan Bool := do
  let flow := (← get).flow != 0
  let c ← peek k
  let next ← peek (k + 1)
  let colon :=
    c = ':' && (isSpaceOrEnd next || (flow && (",[]".toList.contains next || next = '\x7b' ||
      next = '\x7d')))
  let bracket :=
    flow && (",?[]".toList.contains c || c = '\x7b' || c = '\x7d')
  return isSpaceOrEnd c || colon || bracket

/-- The number of characters of a plain scalar from `k` on, at most `bound` more. -/
def plainLength : (bound k : Nat) → Scan Nat
  | 0, k => return k
  | bound + 1, k => do
    if ← endsPlain k then return k else plainLength bound (k + 1)

/-- The blanks and line ends within a plain scalar; `none` where it ends for certain. -/
def plainSpaces : Scan (Option Text) := do
  let run ← takeWhile (· = ' ')
  if isBreak (← peek 0) then
    let first ← lineBreak
    allowKey true
    let (more, separated) ← breaksAfter (· = ' ') true ((← get).rest.length + 1)
    if separated then return none else return some (folded first more)
  else if run.isEmpty then return none
  else return some run

/-- A plain scalar from here on, with the blanks read before this part. -/
def plainParts (indent : Int) : (bound : Nat) → (spaces : Text) → Scan Text
  | 0, _ => return []
  | bound + 1, spaces => do
    if (← peek 0) = '#' then return []
    let length ← plainLength (← get).rest.length 0
    if length = 0 then return []
    allowKey false
    let part ← takeMany length
    match ← plainSpaces with
    | none => return spaces ++ part
    | some next =>
      let s ← get
      if (← peek 0) = '#' || (s.flow = 0 && (s.column : Int) < indent) then return spaces ++ part
      return spaces ++ part ++ (← plainParts indent bound next)

/-- A plain scalar. -/
def plain : Scan Unit := do
  noteKey
  allowKey false
  let s ← get
  let text ← plainParts (s.indent + 1) (s.rest.length + 1) []
  emit (.scalar true (some text))

/-- The characters that an escape of one letter stands for. -/
def escapes : List (Char × Char) :=
  [('0', '\x00'), ('a', '\x07'), ('b', '\x08'), ('t', '\t'), ('\t', '\t'), ('n', '\n'),
    ('v', '\x0b'), ('f', '\x0c'), ('r', '\r'), ('e', '\x1b'), (' ', ' '), ('\x22', '\x22'),
    ('\x5c', '\x5c'), ('/', '/'), ('N', '\u0085'), ('_', '\u00a0'), ('L', '\u2028'),
    ('P', '\u2029')]

/-- The value of a digit in hexadecimal. -/
def hexValue? (c : Char) : Option Nat :=
  if Text.isAsciiDigit c then some (c.toNat - '0'.toNat)
  else if 'a' ≤ c && c ≤ 'f' then some (c.toNat - 'a'.toNat + 10)
  else if 'A' ≤ c && c ≤ 'F' then some (c.toNat - 'A'.toNat + 10)
  else none

/-- The character of a number. Half of a pair of codes is no character; that it came up is noted. -/
def characterOf (n : Nat) : Scan Text := do
  if 2 ^ 31 ≤ n then throw Flaw.hugeNumber
  else if 0x110000 ≤ n then throw Flaw.noCharacter
  else if 0xd800 ≤ n && n ≤ 0xdfff then
    modify ({ · with halved := true })
    return []
  else return [Char.ofNat n]

/-- A character given by digits in hexadecimal. -/
def hexCharacter (width : Nat) : Scan Text := do
  let digits ← takeMany width
  match digits.mapM hexValue? with
  | some values => characterOf (values.foldl (fun n d => n * 16 + d) 0)
  | none => malformed

/-- What an escape stands for, after its backslash. -/
def escape : Scan Text := do
  let c ← peek 0
  match escapes.lookup c with
  | some replacement =>
    take
    return [replacement]
  | none =>
    if c = 'x' then
      take
      hexCharacter 2
    else if c = 'u' then
      take
      hexCharacter 4
    else if c = 'U' then
      take
      hexCharacter 8
    else if isBreak c then
      let _ ← lineBreak
      let (more, separated) ← breaksAfter (fun d => d = ' ' || d = '\t') true
        ((← get).rest.length + 1)
      if separated then malformed
      let _ ← takeWhile (fun d => d = ' ' || d = '\t')
      return more
    else malformed

/-- The blanks and line ends within a quoted scalar. -/
def quotedSpaces : Scan Text := do
  let run ← takeWhile (fun d => d = ' ' || d = '\t')
  let c ← peek 0
  if c = endMark then malformed
  if isBreak c then
    let first ← lineBreak
    let (more, separated) ← breaksAfter (fun d => d = ' ' || d = '\t') true
      ((← get).rest.length + 1)
    if separated then malformed
    return folded first more
  else return run

/-- A quoted scalar after its first mark, with the mark that ends it. -/
def quotedParts (mark : Char) : (bound : Nat) → Scan Text
  | 0 => malformed
  | bound + 1 => do
    let c ← peek 0
    let double := mark = '\x22'
    if c = mark then
      if !double && (← peek 1) = mark then
        take
        take
        return mark :: (← quotedParts mark bound)
      else
        take
        return []
    else if double && c = '\x5c' then
      take
      let part ← escape
      return part ++ (← quotedParts mark bound)
    else if isSpaceOrEnd c then
      let part ← quotedSpaces
      return part ++ (← quotedParts mark bound)
    else
      take
      return c :: (← quotedParts mark bound)

/-- A quoted scalar. -/
def quoted (mark : Char) : Scan Unit := do
  noteKey
  allowKey false
  take
  modify ({ · with halved := false })
  let text ← quotedParts mark ((← get).rest.length + 1)
  emit (.scalar false (if (← get).halved then none else some text))

/-- The header of a block scalar: whether its last line ends are kept, dropped or cut to one, and how
far it stands to the right of its block. -/
def blockHeader : Scan (Option Bool × Option Nat) := do
  let readChomp : Scan (Option Bool) := do
    let c ← peek 0
    if c = '+' || c = '-' then
      take
      return some (c = '+')
    else return none
  let readIndent : Scan (Option Nat) := do
    let c ← peek 0
    if Text.isAsciiDigit c then
      if c = '0' then malformed
      take
      return some (c.toNat - '0'.toNat)
    else return none
  let first ← readChomp
  let indent ← readIndent
  let chomp ← if first.isSome then pure first else if indent.isSome then readChomp else pure none
  let c ← peek 0
  if c != ' ' && !isBreakOrEnd c then malformed
  let _ ← takeWhile (· = ' ')
  if (← peek 0) = '#' then
    let _ ← takeWhile (!isBreak ·)
  if !isBreakOrEnd (← peek 0) then malformed
  let _ ← lineBreak
  return (chomp, indent)

/-- The empty lines before a line of a block scalar, which stands `indent` to the right. -/
def blockBreaks (indent : Nat) : (bound : Nat) → Scan Text
  | 0 => return []
  | bound + 1 => do
    let s ← get
    let run := (s.rest.takeWhile (· = ' ')).take (indent - s.column)
    let _ ← takeMany run.length
    let ended ← lineBreak
    if ended.isEmpty then return [] else return ended ++ (← blockBreaks indent bound)

/-- The empty lines at the beginning of a block scalar, and how far it stands to the right. -/
def blockIndentation : (bound deepest : Nat) → Scan (Text × Nat)
  | 0, deepest => return ([], deepest)
  | bound + 1, deepest => do
    let _ ← takeWhile (· = ' ')
    let deepest := max deepest (← get).column
    let ended ← lineBreak
    if ended.isEmpty then return ([], deepest)
    let (more, deepest) ← blockIndentation bound deepest
    return (ended ++ more, deepest)

/-- The lines of a block scalar: its text, the last line end, and the empty lines after it. -/
def blockLines (foldsLines : Bool) (indent : Nat) :
    (bound : Nat) → (breaks : Text) → Scan (Text × Text × Text)
  | 0, breaks => return ([], [], breaks)
  | bound + 1, breaks => do
    let s ← get
    if s.column != indent || s.rest.isEmpty then return ([], [], breaks)
    let c ← peek 0
    let leads := c != ' ' && c != '\t'
    let line ← takeWhile (!isBreak ·)
    let ended ← lineBreak
    let more ← blockBreaks indent ((← get).rest.length + 1)
    let next ← peek 0
    let goesOn := (← get).column = indent && next != endMark
    if !goesOn then return (breaks ++ line, ended, more)
    else
      let joined : Text :=
        if foldsLines && ended = ['\n'] && leads && next != ' ' && next != '\t' then
          if more.isEmpty then [' '] else []
        else ended
      let (text, last, rest) ← blockLines foldsLines indent bound more
      return (breaks ++ line ++ joined ++ text, last, rest)

/-- A block scalar. -/
def blockScalar (foldsLines : Bool) : Scan Unit := do
  allowKey true
  forgetKey
  let least := max ((← get).indent + 1).toNat 1
  take
  let (chomp, increment) ← blockHeader
  let bound := (← get).rest.length + 1
  let (breaks, indent) ←
    match increment with
    | none => do
      let (breaks, deepest) ← blockIndentation bound 0
      pure (breaks, max least deepest)
    | some n => do
      let indent := least + n - 1
      let breaks ← blockBreaks indent bound
      pure (breaks, indent)
  let (text, last, rest) ← blockLines foldsLines indent bound breaks
  let text := if chomp = some false then text else text ++ last
  emit (.scalar false (some (if chomp = some true then text ++ rest else text)))

/-! ## Names -/

/-- A character of the name of an anchor. -/
def isNameChar (c : Char) : Bool := Text.isAsciiWord c || c = '-'

/-- The name of an anchor or an alias, after its mark. -/
def anchorName : Scan Text := do
  take
  let name ← takeWhile isNameChar
  let c ← peek 0
  if name.isEmpty then malformed
  if isSpaceOrEnd c || "?:,]%@`".toList.contains c || c = '\x7d' then return name else malformed

/-- A character of a tag. -/
def isTagChar (c : Char) : Bool :=
  Text.isAsciiLetter c || Text.isAsciiDigit c ||
    "-;/?:@&=+$,_.!~*'()[]%".toList.contains c

/-- Characters that are given by the numbers of their bytes, at most `bound` bytes. -/
def escapedBytes : (bound : Nat) → Scan (List UInt8)
  | 0 => return []
  | bound + 1 => do
    if (← peek 0) = '%' then
      take
      let digits ← takeMany 2
      match digits.mapM hexValue? with
      | some values =>
        let byte := UInt8.ofNat (values.foldl (fun n d => n * 16 + d) 0)
        return byte :: (← escapedBytes bound)
      | none => malformed
    else return []

/-- The rest of the name of a tag, in parts. -/
def tagParts : (bound : Nat) → Scan Text
  | 0 => return []
  | bound + 1 => do
    if (← peek 0) = '%' then
      match Text.utf8? (← escapedBytes (← get).rest.length) with
      | some t => return t ++ (← tagParts bound)
      | none => malformed
    else
      let part ← takeWhile fun c => isTagChar c && c != '%'
      if part.isEmpty then return [] else return part ++ (← tagParts bound)

/-- The rest of the name of a tag, of at least one character. -/
def tagSuffix : Scan Text := do
  let before := (← get).rest.length
  let suffix ← tagParts (before + 1)
  if (← get).rest.length = before then malformed else return suffix

/-- What stands for the beginning of the name of a tag: a mark, or a word between two marks. -/
def tagHandle : Scan Text := do
  if (← peek 0) != '!' then malformed
  take
  if (← peek 0) = ' ' then return ['!']
  let word ← takeWhile isNameChar
  if (← peek 0) != '!' then malformed
  take
  return '!' :: (word ++ ['!'])

/-- A blank other than a tab, the end of a line, or the end of the text. -/
def endsName (c : Char) : Bool := c = ' ' || isBreakOrEnd c

/-- A tag: between angle brackets, or after one or two marks or a handle. -/
def tag : Scan Unit := do
  noteKey
  allowKey false
  let c ← peek 1
  let (handle, suffix) ←
    if c = '<' then do
      let _ ← takeMany 2
      let suffix ← tagSuffix
      if (← peek 0) != '>' then malformed
      take
      pure ([], suffix)
    else if isSpaceOrEnd c then do
      take
      pure ([], ['!'])
    else do
      let word := ((← get).rest.drop 1).takeWhile fun c => !endsName c
      let handle ← if word.contains '!' then tagHandle else do
        take
        pure ['!']
      pure (handle, ← tagSuffix)
  if !endsName (← peek 0) then malformed
  emit (.tag handle suffix)

/-! ## Single tokens -/

/-- The end of the text. -/
def finish : Scan Unit := do
  unwind (-1)
  forgetKey
  allowKey false
  emit .finish
  modify ({ · with finished := true, keys := [] })

/-- A number. -/
def number : Scan Nat := do
  let digits ← takeWhile Text.isAsciiDigit
  if digits.isEmpty then malformed else return Text.digitsValue digits

/-- The end of a line of instructions: blanks and perhaps a comment. -/
def endOfInstruction : Scan Unit := do
  let _ ← takeWhile (· = ' ')
  if (← peek 0) = '#' then
    let _ ← takeWhile (!isBreak ·)
  if !isBreakOrEnd (← peek 0) then malformed
  let _ ← lineBreak

/-- What a line of instructions says. -/
def instruction : Scan Token := do
  take
  let name ← takeWhile isNameChar
  if name.isEmpty || !endsName (← peek 0) then malformed
  if name = "YAML".toList then
    let _ ← takeWhile (· = ' ')
    let major ← number
    if (← peek 0) != '.' then malformed
    take
    let _ ← number
    if !endsName (← peek 0) then malformed
    return .version major
  else if name = "TAG".toList then
    let _ ← takeWhile (· = ' ')
    let handle ← tagHandle
    if (← peek 0) != ' ' then malformed
    let _ ← takeWhile (· = ' ')
    let lead ← tagSuffix
    if !endsName (← peek 0) then malformed
    return .handle handle lead
  else
    let _ ← takeWhile (!isBreak ·)
    return .directive

/-- A line that gives instructions to the reader. -/
def directive : Scan Unit := do
  unwind (-1)
  forgetKey
  allowKey false
  let token ← instruction
  endOfInstruction
  emit token

/-- Three marks that begin or end a document. -/
def documentMark (token : Token) : Scan Unit := do
  unwind (-1)
  forgetKey
  allowKey false
  let _ ← takeMany 3
  emit token

/-- An opening bracket. -/
def openFlow (token : Token) : Scan Unit := do
  noteKey
  modify fun s => { s with flow := s.flow + 1 }
  allowKey true
  take
  emit token

/-- A closing bracket. -/
def closeFlow (token : Token) : Scan Unit := do
  forgetKey
  modify fun s => { s with flow := s.flow - 1 }
  allowKey false
  take
  emit token

/-- A comma between brackets. -/
def flowEntry : Scan Unit := do
  allowKey true
  forgetKey
  take
  emit .flowEntry

/-- A dash before an entry of a sequence. -/
def blockEntry : Scan Unit := do
  let s ← get
  if s.flow = 0 then
    if !s.keyAllowed then malformed
    if ← beginBlock s.column then emit .blockSequence
  allowKey true
  forgetKey
  take
  emit .blockEntry

/-- A question mark before a key. -/
def keyMark : Scan Unit := do
  let s ← get
  if s.flow = 0 then
    if !s.keyAllowed then malformed
    if ← beginBlock s.column then emit .blockMapping
  allowKey (s.flow = 0)
  forgetKey
  take
  emit .key

/-- A colon before a value. What may have been a key has been one. -/
def valueMark : Scan Unit := do
  let s ← get
  match s.keys.lookup s.flow with
  | some key =>
    set { s with keys := s.keys.filter fun k => k.1 != s.flow }
    let begun ← if s.flow = 0 then beginBlock key.column else pure false
    emitAt key.place (if begun then [.blockMapping, .key] else [.key])
    allowKey false
  | none =>
    if s.flow = 0 then
      if !s.keyAllowed then malformed
      if ← beginBlock s.column then emit .blockMapping
    allowKey (s.flow = 0)
    forgetKey
  take
  emit .value

/-- A reference to an anchor. -/
def aliasToken : Scan Unit := do
  noteKey
  allowKey false
  emit (.alias (← anchorName))

/-- A name for what follows. -/
def anchorToken : Scan Unit := do
  noteKey
  allowKey false
  emit (.anchor (← anchorName))

/-- Whether a plain scalar may begin with the character. -/
def startsPlain (c : Char) : Scan Bool := do
  let next ← peek 1
  let flow := (← get).flow != 0
  let special := "-?:,[]#&*!|>'%@`".toList.contains c || c = '\x7b' || c = '\x7d' || c = '\x22'
  return (!isSpaceOrEnd c && !special) ||
    (!isSpaceOrEnd next && (c = '-' || (!flow && (c = '?' || c = ':'))))

/-- The next token. -/
def next : Scan Unit := do
  skipBlank ((← get).rest.length + 1)
  dropStaleKeys
  unwind (← get).column
  let s ← get
  let c ← peek 0
  let blankNext := isSpaceOrEnd (← peek 1)
  let flow := s.flow != 0
  if s.rest.isEmpty then finish
  else if c = '%' && s.column = 0 then directive
  else if s.column = 0 && c = '-' && (← atDocumentMark) then documentMark .documentStart
  else if s.column = 0 && c = '.' && (← atDocumentMark) then documentMark .documentEnd
  else if c = '[' then openFlow .flowSequence
  else if c = '\x7b' then openFlow .flowMapping
  else if c = ']' then closeFlow .flowSequenceEnd
  else if c = '\x7d' then closeFlow .flowMappingEnd
  else if c = ',' then flowEntry
  else if c = '-' && blankNext then blockEntry
  else if c = '?' && (flow || blankNext) then keyMark
  else if c = ':' && (flow || blankNext) then valueMark
  else if c = '*' then aliasToken
  else if c = '&' then anchorToken
  else if c = '!' then tag
  else if c = '|' && !flow then blockScalar false
  else if c = '>' && !flow then blockScalar true
  else if c = '\x27' || c = '\x22' then quoted c
  else if ← startsPlain c then plain
  else malformed

/-- Reads tokens up to the end, at most `bound` of them. -/
def all : (bound : Nat) → Scan Unit
  | 0 => malformed
  | bound + 1 => do
    next
    unless (← get).finished do all bound

end Scan

/-- A character that a configuration text may contain. -/
def isAllowed (c : Char) : Bool :=
  let n := c.toNat
  n = 9 || n = 10 || n = 13 || (0x20 ≤ n && n ≤ 0x7e) || n = 0x85 || (0xa0 ≤ n && n ≤ 0xfffd) ||
    0x10000 ≤ n

/-- Where the reading of a text begins. -/
def ScanState.start (t : Text) : ScanState where
  rest := t
  index := 0
  line := 0
  column := 0
  flow := 0
  indent := -1
  outer := []
  keyAllowed := true
  keys := []
  tokens := []
  halved := false
  finished := false

/-- The tokens of a configuration text; the last one is the end, or what cannot be read. -/
def tokens (t : Text) : List Token :=
  if !t.all isAllowed then [.broken .malformed]
  else
    let t := match t with
      | '\ufeff' :: rest => rest
      | t => t
    match (Scan.all (t.length + 2)).run.run (.start t) with
    | (.ok _, s) => s.tokens
    | (.error flaw, s) => s.tokens ++ [.broken flaw]

end FormulaCube.Markup
