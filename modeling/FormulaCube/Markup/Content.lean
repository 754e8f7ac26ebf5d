import FormulaCube.Markup.Node
import FormulaCube.Markup.Scalar
import FormulaCube.Value.Key

/-!
# Values of configuration texts

The value of a document is the value of its topmost part. What is wrong with a part that lies deeper is
found later: the parts of a document are looked at level by level.

* `Node.value` — the value of a part.
* `firstFault` — the fault that is found first.
* `content` — the value of a configuration text.
-/

namespace FormulaCube.Markup

namespace Node

/-! ## Mappings -/

/-- The tag of a part. -/
def tag : Node → Tag
  | .scalar tag _ => tag
  | .sequence tag _ => tag
  | .mapping tag _ => tag

/-- A part as a key: the mark for the value of a whole mapping is an ordinary text there. -/
def asKey : Node → Node
  | .scalar .whole t => .scalar .text t
  | node => node

/-- The entries of a mapping into which others are merged come first, at most `depth` mappings deep.
Other mappings than the first of several are put in front of it. -/
def merged : (depth : Nat) → List (Node × Node) → Except Fault (List (Node × Node))
  | 0, entries => .ok entries
  | depth + 1, entries => do
    let added ← (entries.filter fun e => e.1.tag = .merge).mapM fun e =>
      match e.2 with
      | .mapping _ more => merged depth more
      | .sequence _ items => do
        let all ← items.mapM fun
          | .mapping _ more => merged depth more
          | _ => .error .unreadableMarkup
        return all.reverse.flatten
      | .scalar .. => .error .unreadableMarkup
    return added.flatten ++
      (entries.filter fun e => e.1.tag != .merge).map fun e => (e.1.asKey, e.2)

/-! ## Values -/

/-- The text of a part that should be one; a mapping may have an entry for its whole value. -/
def plainText? : Node → Option (Option Text)
  | .scalar _ t => some t
  | .sequence .. => none
  | .mapping _ entries => inWhole entries
where
  /-- The text under the mark for the value of a whole mapping. -/
  inWhole : List (Node × Node) → Option (Option Text)
    | [] => none
    | (.scalar .whole _, value) :: _ => value.plainText?
    | _ :: entries => inWhole entries

/-- Whether a tag is one of collections. -/
def isCollectionTag (tag : Tag) : Bool :=
  [Tag.orderedMapping, .pairs, .set, .sequence, .mapping].contains tag

/-- The entries of a mapping with their values, which may be looked up. -/
def entered (entries : List (Value × Value)) : Except Fault (List (Value × Value)) :=
  match Value.ofEntries entries with
  | .ok entries => .ok entries
  | .error _ => .error .unreadableMarkup

/-- The value of a collection, whose members are at most `depth` deep. -/
def valueWithin : (depth : Nat) → Node → Except Fault Value
  | 0, _ => .error .unreadableMarkup
  | depth + 1, node => do
    let values (entries : List (Node × Node)) : Except Fault (List (Value × Value)) :=
      entries.mapM fun e => return (← valueWithin depth e.1, ← valueWithin depth e.2)
    let pair (item : Node) : Except Fault Value := do
      match item with
      | .mapping _ [e] => return .tuple [← valueWithin depth e.1, ← valueWithin depth e.2]
      | _ => .error .unreadableMarkup
    match node.tag, node with
    | .mapping, .mapping _ entries =>
      return .dict (← entered (← values (← merged depth entries)))
    | .set, .mapping _ entries =>
      return .set ((← entered (← values (← merged depth entries))).map (·.1))
    | .sequence, .sequence _ items => return .list (← items.mapM (valueWithin depth))
    | .orderedMapping, .sequence _ items => return .list (← items.mapM pair)
    | .pairs, .sequence _ items => return .list (← items.mapM pair)
    | tag, node =>
      if isCollectionTag tag then .error .unreadableMarkup
      else
        match node.plainText? with
        | some t => scalarValue tag t
        | none => .error .unreadableMarkup

/-- How deep the parts of a part are nested. -/
def depth : Node → Nat
  | .scalar .. => 1
  | .sequence _ items => ofAll items + 1
  | .mapping _ entries => ofEntries entries + 1
where
  /-- How deep the parts of several parts are nested. -/
  ofAll : List Node → Nat
    | [] => 0
    | item :: items => max item.depth (ofAll items)
  /-- How deep the parts of entries are nested. -/
  ofEntries : List (Node × Node) → Nat
    | [] => 0
    | (key, value) :: entries => max (max key.depth value.depth) (ofEntries entries)

/-- The value of a part. -/
def value (node : Node) : Except Fault Value := valueWithin (node.depth + 1) node

/-! ## Faults -/

/-- What is wrong with a part itself; collections are not looked into. -/
def ownFault (node : Node) : Except Fault Unit :=
  if isCollectionTag node.tag then .ok () else discard node.value

/-- Whether a part may be a key: collections other than sets that do not change may not. -/
def isKey (node : Node) : Bool := !isCollectionTag node.tag

/-- The parts of a collection, if none of them is wrong itself. -/
def parts (node : Node) : Except Fault (List Node) := do
  let check (nodes : List Node) : Except Fault (List Node) := do
    nodes.forM ownFault
    return nodes
  let checkEntries (entries : List (Node × Node)) : Except Fault (List Node) := do
    let nodes ← entries.mapM fun e => do
      e.1.ownFault
      unless e.1.isKey do throw .unreadableMarkup
      e.2.ownFault
      return [e.1, e.2]
    return nodes.flatten
  let pair (item : Node) : Except Fault (List Node) := do
    match item with
    | .mapping _ [e] => check [e.1, e.2]
    | _ => .error .unreadableMarkup
  match node.tag, node with
  | .mapping, .mapping _ entries => do checkEntries (← merged node.depth entries)
  | .set, .mapping _ entries => do checkEntries (← merged node.depth entries)
  | .sequence, .sequence _ items => check items
  | .orderedMapping, .sequence _ items => return (← items.mapM pair).flatten
  | .pairs, .sequence _ items => return (← items.mapM pair).flatten
  | tag, _ => if isCollectionTag tag then .error .unreadableMarkup else return []

/-- The fault that is found first among collections and, after them, among their parts, at most `depth`
levels deep. -/
def firstFault : (depth : Nat) → List Node → Option Fault
  | 0, _ => none
  | depth + 1, nodes =>
    match nodes.mapM parts with
    | .error f => some f
    | .ok [] => none
    | .ok inside => firstFault depth inside.flatten

end Node

/-- The value of a configuration text. -/
def content (t : Text) : Except Fault Value :=
  match node t with
  | .error flaw => .error flaw.fault
  | .ok node =>
    match node.value with
    | .ok v => .ok v
    | .error f =>
      match node.ownFault with
      | .error own => .error own
      | .ok _ => .error ((Node.firstFault node.depth [node]).getD f)

end FormulaCube.Markup
