import FormulaCube.Markup.Moment
import FormulaCube.Markup.Token

/-!
# Structure of configuration texts

* `Node` — scalars, sequences and mappings, with their tags.
* `node` — the one document of a text; a text without a document has an empty scalar.
-/

namespace FormulaCube.Markup

/-- A part of a document. -/
inductive Node where
  /-- A text; half of a pair of codes is in no text. -/
  | scalar (tag : Tag) (text : Option Text)
  /-- A sequence. -/
  | sequence (tag : Tag) (items : List Node)
  /-- A mapping with its entries as they are written. -/
  | mapping (tag : Tag) (entries : List (Node × Node))
  deriving Inhabited

/-- Tokens that are left, and what has been named. -/
structure NodeState where
  /-- The tokens. -/
  tokens : List Token
  /-- What the names of tags with a handle begin with. -/
  handles : List (Text × Text)
  /-- The named parts. -/
  anchors : List (Text × Node)

/-- Reading steps over tokens, which may come upon a flaw. -/
abbrev Building := StateT NodeState (Except Flaw)

variable {α : Type}

namespace Building

/-- The next token, which stays. -/
def peek : Building Token := return ((← get).tokens.head?).getD .finish

/-- Ends at a token that does not fit, or that cannot be read itself. -/
def misplaced {β : Type} : Building β := do
  match ← peek with
  | .broken flaw => throw flaw
  | _ => throw Flaw.malformed

/-- Takes a token. -/
def take : Building Unit := modify fun s => { s with tokens := s.tokens.drop 1 }

/-- Takes a token that must be this one. -/
def expect (token : Token) : Building Unit := do
  if (← peek) = token then take else misplaced

/-- What stands for a part that is not written. -/
def missing : Node := .scalar .null (some [])

/-- What the names of tags with a handle begin with unless a text says otherwise. -/
def defaultHandles : List (Text × Text) :=
  [(['!'], ['!']), ("!!".toList, Tag.standardLead)]

/-- The full name of a tag; every handle must be known. -/
def fullTag (handle suffix : Text) : Building Text := do
  if handle.isEmpty then return suffix
  else
    match (← get).handles.lookup handle with
    | some lead => return lead ++ suffix
    | none => misplaced

/-- The name and the tag before a part, in either order. -/
def properties : Building (Option Text × Option Text) := do
  let readTag : Building (Option Text) := do
    match ← peek with
    | .tag handle suffix =>
      take
      return some (← fullTag handle suffix)
    | _ => return none
  let readAnchor : Building (Option Text) := do
    match ← peek with
    | .anchor name =>
      take
      return some name
    | _ => return none
  let anchor ← readAnchor
  let tag ← readTag
  let anchor ← if anchor.isSome then pure anchor else readAnchor
  return (anchor, tag)

/-- A part unless one of the tokens comes that end it. -/
def partOr (ends : List Token) (part : Building Node) : Building Node := do
  if ends.contains (← peek) then return missing else part

/-- The entries of a sequence with dashes. `inner` reads an entry. -/
def blockItems (inner : Building Node) (ends : List Token) :
    (bound : Nat) → Building (List Node)
  | 0 => misplaced
  | bound + 1 => do
    if (← peek) = .blockEntry then
      take
      let item ← partOr ends inner
      return item :: (← blockItems inner ends bound)
    else return []

/-- The entries of a mapping without brackets. -/
def blockPairs (inner : Building Node) : (bound : Nat) → Building (List (Node × Node))
  | 0 => misplaced
  | bound + 1 => do
    if (← peek) = .key then
      take
      let key ← partOr [.key, .value, .blockEnd] inner
      let value ←
        if (← peek) = .value then do
          take
          partOr [.key, .value, .blockEnd] inner
        else pure missing
      return (key, value) :: (← blockPairs inner bound)
    else return []

/-- The value after a key between brackets. -/
def flowValue (inner : Building Node) (close : Token) : Building Node := do
  if (← peek) = .value then
    take
    partOr [.flowEntry, close] inner
  else return missing

/-- A comma, or nothing before the first entry. -/
def comma (first : Bool) : Building Unit := do
  if first then return else expect .flowEntry

/-- The entries of a sequence in brackets. An entry with a colon is a mapping of its own. -/
def flowItems (inner : Building Node) : (bound : Nat) → (first : Bool) → Building (List Node)
  | 0, _ => misplaced
  | bound + 1, first => do
    if (← peek) = .flowSequenceEnd then
      take
      return []
    comma first
    match ← peek with
    | .flowSequenceEnd => flowItems inner bound true
    | .key =>
      take
      let key ← partOr [.value, .flowEntry, .flowSequenceEnd] inner
      let value ← flowValue inner .flowSequenceEnd
      return .mapping .mapping [(key, value)] :: (← flowItems inner bound false)
    | _ =>
      let item ← inner
      return item :: (← flowItems inner bound false)

/-- The entries of a mapping in braces. -/
def flowPairs (inner : Building Node) :
    (bound : Nat) → (first : Bool) → Building (List (Node × Node))
  | 0, _ => misplaced
  | bound + 1, first => do
    if (← peek) = .flowMappingEnd then
      take
      return []
    comma first
    match ← peek with
    | .flowMappingEnd => flowPairs inner bound true
    | .key =>
      take
      let key ← partOr [.value, .flowEntry, .flowMappingEnd] inner
      let value ← flowValue inner .flowMappingEnd
      return (key, value) :: (← flowPairs inner bound false)
    | _ =>
      let key ← inner
      return (key, missing) :: (← flowPairs inner bound false)

/-- The mark that leaves it to the spelling of a part what it stands for. -/
def openTag : Text := ['!']

/-- The tag of a scalar; `plain` says that it stands between no marks. -/
def scalarTag (name : Option Text) (plain : Bool) (t : Option Text) : Tag :=
  match name, t with
  | none, some t => if plain then Tag.ofPlain t else .text
  | none, none => .text
  | some name, t => if name = openTag then (t.map Tag.ofPlain).getD .text else Tag.ofName name

/-- The tag of a collection. -/
def collectionTag (name : Option Text) (default : Tag) : Tag :=
  match name with
  | none => default
  | some name => if name = openTag then default else Tag.ofName name

/-- Names a part; no two parts have one name. -/
def nameNode (anchor : Option Text) (node : Node) : Building Unit := do
  match anchor with
  | some name =>
    if ((← get).anchors.lookup name).isSome then misplaced
    modify fun s => { s with anchors := (name, node) :: s.anchors }
  | none => return

/-- A collection. Within it its name stands for an empty one: what is inside it is not known yet. -/
def collection (anchor : Option Text) (make : List α → Node) (inside : Building (List α)) :
    Building Node := do
  nameNode anchor (make [])
  let node := make (← inside)
  match anchor with
  | some name =>
    modify fun s => { s with anchors := (name, node) :: s.anchors.filter fun a => a.1 != name }
  | none => pure ()
  return node

/-- A part of a document. `block` says that it may have no brackets, `dashes` that a sequence with
dashes may stand where its mapping stands. Parts are nested at most `depth` deep. -/
def part : (depth : Nat) → (block dashes : Bool) → Building Node
  | 0, _, _ => misplaced
  | depth + 1, block, dashes => do
    let bound := (← get).tokens.length + 1
    match ← peek with
    | .alias name =>
      take
      match (← get).anchors.lookup name with
      | some node => return node
      | none => misplaced
    | _ =>
      let (anchor, name) ← properties
      let sequence := collection anchor (Node.sequence (collectionTag name .sequence))
      let mapping := collection anchor (Node.mapping (collectionTag name .mapping))
      let scalar (plain : Bool) (t : Option Text) : Building Node := do
        let node := Node.scalar (scalarTag name plain t) t
        nameNode anchor node
        return node
      match ← peek, block with
      | .scalar plain t, _ =>
        take
        scalar plain t
      | .flowSequence, _ =>
        take
        sequence (flowItems (part depth false false) bound true)
      | .flowMapping, _ =>
        take
        mapping (flowPairs (part depth false false) bound true)
      | .blockSequence, true =>
        take
        sequence do
          let items ← blockItems (part depth true false) [.blockEntry, .blockEnd] bound
          expect .blockEnd
          return items
      | .blockMapping, true =>
        take
        mapping do
          let entries ← blockPairs (part depth true true) bound
          expect .blockEnd
          return entries
      | token, _ =>
        if token = .blockEntry && dashes then
          sequence (blockItems (part depth true false) [.blockEntry, .key, .value, .blockEnd] bound)
        else if anchor.isSome || name.isSome then scalar (name.isNone) (some [])
        else misplaced

/-- Skips marks that end documents, at most `bound` of them. -/
def skipEnds : (bound : Nat) → Building Unit
  | 0 => return
  | bound + 1 => do
    if (← peek) = .documentEnd then
      take
      skipEnds bound

/-- Reads instructions, at most `bound` of them. There is at most one version, which must be one of those
that begin with a one, and each handle is given at most once. -/
def instructions : (bound : Nat) → (versioned : Bool) → (handles : List (Text × Text)) →
    Building (List (Text × Text))
  | 0, _, handles => return handles
  | bound + 1, versioned, handles => do
    match ← peek with
    | .version major =>
      take
      if versioned || major != 1 then misplaced
      instructions bound true handles
    | .handle handle lead =>
      take
      if (handles.lookup handle).isSome then misplaced
      instructions bound versioned ((handle, lead) :: handles)
    | .directive =>
      take
      instructions bound versioned handles
    | _ => return handles

/-- Whether nothing but instructions, marks of documents or the end comes next. -/
def atEmptyDocument : Building Bool := do
  match ← peek with
  | .version _ | .handle .. | .directive | .documentStart | .documentEnd | .finish => return true
  | _ => return false

/-- The one document. -/
def document : Building Node := do
  let bound := (← get).tokens.length + 1
  let node ←
    match ← peek with
    | .finish => return missing
    | .version _ | .handle .. | .directive | .documentStart => do
      let handles ← instructions bound false []
      modify fun s => { s with handles := handles ++ defaultHandles }
      expect .documentStart
      if ← atEmptyDocument then pure missing else part bound true false
    | _ => part bound true false
  skipEnds bound
  expect .finish
  return node

end Building

/-- The document of a configuration text. -/
def node (t : Text) : Except Flaw Node :=
  (Building.document.run ⟨tokens t, Building.defaultHandles, []⟩).map (·.1)

end FormulaCube.Markup
