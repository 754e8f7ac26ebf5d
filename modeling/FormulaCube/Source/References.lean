import FormulaCube.Shortcut.Rule

/-!
# Cubes that a source refers to

* `headNames` — the names in the shortcut heads of one form.
* `explicitNames` — the names in look-ups of the registry written out in full.
* `references` — both together, each name once, in order.
-/

namespace FormulaCube

/-- The names in the heads of a form, from left to right, in a text that follows `prev`. -/
def headNames (rule : Rule) (prev : Option Char) (t : Text) : List Text :=
  match _h : rule.findHead prev t with
  | none => []
  | some head => head.name.toList ++ headNames rule (some '(') head.after
termination_by t.length
decreasing_by exact Rule.findHead_length _h

/-- The name in a look-up `registry.get_cube("name")` at the beginning of a text. -/
def explicitHere? (t : Text) : Option (Text × Text) :=
  match Text.after? "registry.get_cube(".toList t with
  | none => none
  | some rest =>
    match rest.dropWhile Text.isBlank with
    | [] => none
    | mark :: rest =>
      let name := rest.takeWhile fun c => !Text.isQuote c
      if Text.isQuote mark && !name.isEmpty then
        match rest.dropWhile fun c => !Text.isQuote c with
        | [] => none
        | close :: rest =>
          if close = mark then
            match rest.dropWhile Text.isBlank with
            | ')' :: after => some (name, after)
            | _ => none
          else none
      else none

/-- The names in look-ups of the registry, from left to right, after `skip` characters. What belongs
to one look-up is not searched for another. -/
def explicitFrom : (skip : Nat) → Text → List Text
  | _, [] => []
  | skip + 1, _ :: rest => explicitFrom skip rest
  | 0, c :: rest =>
    match explicitHere? (c :: rest) with
    | some (name, after) => name :: explicitFrom (rest.length - after.length) rest
    | none => explicitFrom 0 rest

/-- The names in look-ups of the registry, from left to right. -/
def explicitNames (t : Text) : List Text := explicitFrom 0 t

/-- The names of all cubes that a source refers to, each once, in the order of code points. -/
def references (t : Text) : List Text :=
  Text.sorted ((Rule.named.flatMap fun rule => headNames rule none t) ++ explicitNames t).eraseDups

end FormulaCube
