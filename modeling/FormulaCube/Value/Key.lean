import FormulaCube.Value.Basic

/-!
# Keys

A key is what a value counts as when it is looked up: equal values have one key. One, one as a
double and truth are equal, and so are zero, both zeros as doubles and falsehood.

* `Key` — the keys.
* `Key.same` — equality of keys; what is not a number equals nothing.
* `Key.ofFloat` — the key of a double, which is that of the integer it equals.
* `Entries.insert`, `Entries.find?`, `Entries.erase` — lists of entries with keys, in the order in
  which the keys came.
-/

namespace FormulaCube

/-- What a value counts as when it is looked up. -/
inductive Key where
  /-- No value. -/
  | none
  /-- An integer, or what equals one. -/
  | int (i : Int)
  /-- A double that equals no integer. -/
  | float (x : Binary64)
  /-- A text. -/
  | str (t : Text)
  /-- A tuple. -/
  | tuple (items : List Key)
  /-- An object of its own, by its number. -/
  | object (kind : Nat) (number : Nat)
  deriving Repr, Inhabited

namespace Key

mutual

/-- Whether two keys are the same key. -/
def decide : Key → Key → Bool
  | .none, .none => true
  | .int i, .int j => i == j
  | .float x, .float y => x == y
  | .str s, .str t => s == t
  | .tuple items, .tuple others => decideAll items others
  | .object kind number, .object kind' number' => kind == kind' && number == number'
  | _, _ => false

/-- Whether two lists of keys are the same list. -/
def decideAll : List Key → List Key → Bool
  | [], [] => true
  | item :: items, other :: others => decide item other && decideAll items others
  | _, _ => false

end

mutual

/-- The decision is right for keys. -/
theorem decide_iff : (a b : Key) → (decide a b = true ↔ a = b)
  | .tuple items, b => by
    cases b <;> simp [decide, decideAll_iff items]
  | .none, b => by cases b <;> simp [decide]
  | .int _, b => by cases b <;> simp [decide]
  | .float _, b => by cases b <;> simp [decide]
  | .str _, b => by cases b <;> simp [decide]
  | .object .., b => by cases b <;> simp [decide]

/-- The decision is right for lists of keys. -/
theorem decideAll_iff : (items others : List Key) → (decideAll items others = true ↔ items = others)
  | [], others => by cases others <;> simp [decideAll]
  | item :: items, others => by
    cases others <;> simp [decideAll, decide_iff item, decideAll_iff items]

end

instance : DecidableEq Key := fun a b =>
  if h : decide a b = true then isTrue ((decide_iff a b).1 h)
  else isFalse fun e => h ((decide_iff a b).2 e)

/-- The key of a truth value. -/
def ofBool (b : Bool) : Key := .int (if b then 1 else 0)

/-- The key of a double. -/
def ofFloat (x : Binary64) : Key :=
  match x.toInt? with
  | some i => .int i
  | Option.none => .float x

mutual

/-- Whether some part of the key is not a number. -/
def hasNan : Key → Bool
  | .float x => x.isNan
  | .tuple items => anyNan items
  | _ => false

/-- Whether some part of some of the keys is not a number. -/
def anyNan : List Key → Bool
  | [] => false
  | item :: items => item.hasNan || anyNan items

end

/-- Equality of what the keys stand for. -/
def same (a b : Key) : Bool := decide a b && !a.hasNan

end Key

/-- Entries with keys in the order in which the keys came. Beside the key stands the value it was
first given as. -/
abbrev Entries (α β : Type) := List (Key × α × β)

namespace Entries

variable {α β : Type}

/-- The value under a key. -/
def find? (entries : Entries α β) (key : Key) : Option β :=
  (List.find? (fun entry => entry.1.same key) entries).map (·.2.2)

/-- Puts a value under a key: in the place of an equal key, or at the end. -/
def insert : Entries α β → Key → α → β → Entries α β
  | [], key, shown, value => [(key, shown, value)]
  | (k, s, v) :: entries, key, shown, value =>
    if k.same key then (k, s, value) :: entries
    else (k, s, v) :: insert entries key shown value

/-- The entries without that of a key. -/
def erase : Entries α β → Key → Entries α β
  | [], _ => []
  | (k, s, v) :: entries, key =>
    if k.same key then entries else (k, s, v) :: erase entries key

/-- The entries as they are shown, with what stands under each. -/
def shown (entries : Entries α β) : List (α × β) := entries.map (·.2)

end Entries

/-! ## Keys of values -/

namespace Value

mutual

/-- The key of a value; what can be changed has none. -/
def key : Value → Except Fault Key
  | .none => .ok .none
  | .bool b => .ok (Key.ofBool b)
  | .int i => .ok (.int i)
  | .float x => .ok (Key.ofFloat x)
  | .str t => .ok (.str t)
  | .tuple items => (keys items).map .tuple
  | .cell text => .ok (.tuple [.object 0 0, .str text])
  | .cube text => .ok (.tuple [.object 1 0, .str text])
  | .bytes data => .ok (.tuple (.object 3 0 :: data.map fun b => .int b.toNat))
  | .object type text => .ok (.tuple [.object 2 0, .str type, .str (object type text).shown])
  | value => .error (.unhashable value.typeName)

/-- The keys of several values. -/
def keys : List Value → Except Fault (List Key)
  | [] => .ok []
  | item :: items =>
    match item.key with
    | .error f => .error f
    | .ok k => (keys items).map (k :: ·)

end

/-- Entries put in one after the other: an equal key keeps its place and takes the last value. -/
def ofEntries (entries : List (Value × Value)) : Except Fault (List (Value × Value)) := do
  let table ← entries.foldlM (fun table entry => do
    let k ← entry.1.key
    return Entries.insert table k entry.1 entry.2) ([] : Entries Value Value)
  return table.shown

/-- Entries put in one after the other, if all their keys can be looked up. -/
def ofEntries? (entries : List (Value × Value)) : Option (List (Value × Value)) :=
  (ofEntries entries).toOption

end Value

end FormulaCube
