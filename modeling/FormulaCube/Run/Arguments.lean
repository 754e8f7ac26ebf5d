import FormulaCube.Code.Tree
import FormulaCube.Value.Fault
import FormulaCube.World.Datum

/-!
# Arguments of a call

The arguments of a call reach the parameters of a function: first those that are given by their
places, then those that are given by name, then the values that parameters have of themselves.

* `Signature` — the parameters of a function.
* `Signature.receive` — what each parameter gets, or why the arguments do not fit.
-/

namespace FormulaCube.Run

/-- The parameters of a function. -/
structure Signature where
  /-- The name of the function with those of what it is defined in. -/
  path : Text
  /-- The parameters. -/
  parameters : List (Code.ParameterKind × Text)
  /-- The values that parameters have of themselves. -/
  defaults : List (Text × Datum)

/-- What the parameters get. -/
structure Received where
  /-- What each single parameter gets. -/
  values : List (Text × Datum)
  /-- The arguments that are left, for the parameter that takes them in a row. -/
  rest : Option (Text × List Datum)
  /-- The arguments that are left, for the parameter that takes them by name. -/
  named : Option (Text × List (Text × Datum))

namespace Signature

/-- The parameters that arguments reach by their places. -/
def placed (s : Signature) : List Text :=
  (s.parameters.filter fun p => p.1 == .positionOnly || p.1 == .plain).map (·.2)

/-- The parameters of a kind. -/
def ofKind (s : Signature) (kind : Code.ParameterKind) : List Text :=
  (s.parameters.filter fun p => p.1 == kind).map (·.2)

/-- A fault about a call of the function. -/
def fault (s : Signature) (words : Text) : Fault := .arguments (s.path ++ "() ".toList ++ words)

/-- A name between apostrophes. -/
private def marked (name : Text) : Text := Text.apostrophe :: (name ++ [Text.apostrophe])

/-- Names in a row, with a word before the last one. -/
def enumeration : List Text → Text
  | [] => []
  | [a] => marked a
  | [a, b] => marked a ++ " and ".toList ++ marked b
  | names =>
    Text.join ", ".toList (names.dropLast.map marked) ++ ", and ".toList ++
      ((names.getLast?.map marked).getD [])

/-- The letter that a word gets when there are several. -/
private def plural (n : Nat) : Text := if n = 1 then [] else ['s']

/-- The fault of parameters without arguments. -/
def missing (s : Signature) (kind : String) (names : List Text) : Fault :=
  s.fault ("missing ".toList ++ Text.ofNat names.length ++ " required ".toList ++ kind.toList ++
    " argument".toList ++ plural names.length ++ ": ".toList ++ enumeration names)

/-- The fault of more arguments than there are parameters; `named` is how many of those that are
reached by name only are given. -/
def tooMany (s : Signature) (given named : Nat) : Fault :=
  let total := s.placed.length
  let own := (s.placed.filter fun name => (s.defaults.lookup name).isSome).length
  let range :=
    if own = 0 then Text.ofNat total
    else "from ".toList ++ Text.ofNat (total - own) ++ " to ".toList ++ Text.ofNat total
  let more :=
    if named = 0 then []
    else " positional argument".toList ++ plural given ++ " (and ".toList ++ Text.ofNat named ++
      " keyword-only argument".toList ++ plural named ++ [')']
  s.fault ("takes ".toList ++ range ++ " positional argument".toList ++
    (if own = 0 then plural total else ['s']) ++ " but ".toList ++ Text.ofNat given ++ more ++
    (if given = 1 && named = 0 then " was given" else " were given").toList)

/-- The arguments that are given by name, one after the other; with them what is left over. -/
def receiveNamed (s : Signature) :
    (values rest : List (Text × Datum)) → List (Text × Datum) →
      Except Fault (List (Text × Datum) × List (Text × Datum))
  | values, rest, [] => .ok (values, rest)
  | values, rest, (name, d) :: more =>
    if (s.ofKind .plain ++ s.ofKind .nameOnly).contains name then
      if (values.lookup name).isSome then
        .error (s.fault ("got multiple values for argument ".toList ++ marked name))
      else receiveNamed s (values ++ [(name, d)]) rest more
    else if (s.ofKind .keywords).isEmpty then
      let wrong := ((name, d) :: more).filter fun a => (s.ofKind .positionOnly).contains a.1
      if wrong.isEmpty then
        .error (s.fault ("got an unexpected keyword argument ".toList ++ marked name))
      else
        .error (s.fault ("got some positional-only arguments passed as keyword arguments: ".toList ++
          marked (Text.join ", ".toList (wrong.map (·.1)))))
    else receiveNamed s values (rest ++ [(name, d)]) more

/-- The values of the given parameters, with those that they have of themselves; with them the names
of parameters without a value. -/
def complete (s : Signature) (values : List (Text × Datum)) (names : List Text) :
    List (Text × Datum) × List Text :=
  let own := names.filterMap fun name =>
    if (values.lookup name).isSome then none else (s.defaults.lookup name).map (name, ·)
  (own, names.filter fun name =>
    (values.lookup name).isNone && (s.defaults.lookup name).isNone)

/-- What each parameter gets, or why the arguments do not fit. -/
def receive (s : Signature) (positional : List Datum) (named : List (Text × Datum)) :
    Except Fault Received := do
  let first := s.placed.zip positional
  let (values, rest) ← s.receiveNamed first [] named
  let rests := s.ofKind .rest
  if rests.isEmpty && s.placed.length < positional.length then
    throw (s.tooMany positional.length
      ((s.ofKind .nameOnly).filter fun name => (values.lookup name).isSome).length)
  let (own, without) := s.complete values s.placed
  unless without.isEmpty do throw (s.missing "positional" without)
  let (more, lacking) := s.complete values (s.ofKind .nameOnly)
  unless lacking.isEmpty do throw (s.missing "keyword-only" lacking)
  let spare := rests.head?.map fun name => (name, positional.drop s.placed.length)
  return ⟨values ++ own ++ more, spare, ((s.ofKind .keywords).head?).map (·, rest)⟩

end Signature

end FormulaCube.Run
