import FormulaCube.Run.Special

/-!
# How things are shown

A thing is shown as it would be written, and in running text it stands for itself. Collections show
their members, and three points where they contain themselves. Objects are shown as their class says.

* `shownWithin`, `shown` — a thing as it would be written.
* `textDatum`, `textOf` — a thing in running text.
-/

namespace FormulaCube.Run

open Eval

/-! ## As written -/

/-- A text that a special method answers. -/
def answeredText (name : String) (answer : Datum) : Eval Text := do
  match ← coreOf answer with
  | .str t _ => return t
  | _ =>
    fault (.typeMisuse (name.toList ++ " returned non-string (type ".toList ++
      (← typeName answer) ++ [')']))

/-- Things one after the other between brackets. -/
def between (left right : Char) (texts : List Text) : Text :=
  left :: (Text.join ", ".toList texts ++ [right])

/-- The text of a tuple with these members. -/
def tupleText : List Text → Text
  | [t] => '(' :: (t ++ ",)".toList)
  | texts => between '(' ')' texts

/-- The texts of entries of a dictionary. -/
def entryTexts (inner : Datum → Eval Text) : Entries Datum Datum → Eval (List Text)
  | [] => return []
  | entry :: entries => do
    let key ← inner entry.2.1
    let value ← inner entry.2.2
    return (key ++ ": ".toList ++ value) :: (← entryTexts inner entries)

/-- An object in the memory as it would be written, where `inner` says the same of what it contains. -/
def shownObject (inner : Datum → Eval Text) (d : Datum) (object : Object) : Eval Text := do
  match object with
  | .list items => return between '[' ']' (← items.mapM inner)
  | .dict entries => return between '\x7b' '\x7d' (← entryTexts inner entries)
  | .set [] => return "set()".toList
  | .set members => return between '\x7b' '\x7d' (← members.mapM fun m => inner m.2.1)
  | .frame cube coordinate =>
    let cube ← inner cube
    return "StackFrame(cube=".toList ++ cube ++ ", coordinate=".toList ++ (← inner coordinate) ++
      [')']
  | .dictView part dict =>
    match ← read dict with
    | .dict entries =>
      let texts ← match part with
        | .keys => entries.mapM fun e => inner e.2.1
        | .values => entries.mapM fun e => inner e.2.2
        | .items => entries.mapM fun e => do return tupleText [← inner e.2.1, ← inner e.2.2]
      return (Datum.viewTypeName part) ++ '(' :: (between '[' ']' texts ++ [')'])
    | _ => return []
  | .exception type arguments _ =>
    let name := type.className (← get).memory
    match arguments with
    | [a] => return name ++ '(' :: ((← inner a) ++ [')'])
    | arguments => return name ++ between '(' ')' (← arguments.mapM inner)
  | .slice lower upper step =>
    return "slice".toList ++ between '(' ')' (← [lower, upper, step].mapM inner)
  | .instance _ .none _ => ofExcept (← view d).written
  | .instance _ core _ => inner core
  | _ => ofExcept (← view d).written

/-- What stands for an object in the memory where it contains itself. -/
def elisionOf : Object → Text
  | .list _ => "[...]".toList
  | .dict _ => "\x7b...\x7d".toList
  | .set _ => "set(...)".toList
  | _ => "...".toList

/-- A thing as it would be written; things are nested at most `depth` deep. `above` are the objects that
are being shown. -/
def shownWithin (call : Caller) : (depth : Nat) → (above : List Nat) → Datum → Eval Text
  | 0, _, _ =>
    fault .tooDeepToShow
  | depth + 1, above, d => do
    match d with
    | .int i _ => ofExcept (decimalText i)
    | .tuple items _ => return tupleText (← items.mapM (shownWithin call depth above))
    | .ref address =>
      let object ← read address
      if above.contains address then return elisionOf object
      else
        match ← askSpecial? call d "__repr__" [] with
        | some answer => answeredText "__repr__" answer
        | none => shownObject (shownWithin call depth (address :: above)) d object
    | d => ofExcept (← view d).written

/-- A thing as it would be written. -/
def shown (call : Caller) (d : Datum) : Eval Text := shownWithin call shownDepth [] d

/-- Ends with the fault of a key that is not there, which is put in words as the key is shown. -/
def missing {α : Type} (key : Eval Text) : Eval α := do
  match ← key.attempt with
  | .ok t => fault (.missing (.ok t))
  | .error (.fault reason) => fault (.missing (.error reason))
  | .error f => fail f

/-! ## In running text -/

/-- An exception in running text: what it was made with. The key that is missing is shown as it would be
written, a fault of the system has its number first, and a fault of a source has a single text. -/
def exceptionText (call : Caller) (inText : Datum → Eval Text) (owner : Text)
    (arguments : List Datum) : Eval Text := do
  match String.ofList owner, arguments with
  | "SyntaxError", [] => return "None".toList
  | "SyntaxError", a :: _ => inText a
  | _, [] => return []
  | "KeyError", [a] => shown call a
  | _, [a] => inText a
  | "OSError", [number, words] =>
    return "[Errno ".toList ++ (← inText number) ++ "] ".toList ++ (← inText words)
  | _, arguments => return tupleText (← arguments.mapM (shown call))

/-- A thing in running text, as it is held. A text is itself. Things are nested at most `depth` deep. -/
def textWithin (call : Caller) : (depth : Nat) → Datum → Eval Datum
  | 0, _ => fault .tooDeep
  | depth + 1, d => do
    match d with
    | .str .. => return d
    | .ref address =>
      match ← askSpecial? call d "__str__" [] with
      | some answer =>
        let _ ← answeredText "__str__" answer
        return answer
      | none =>
        match ← read address with
        | .instance _ (.str t mark) _ => return .str t mark
        | .exception type arguments _ =>
          let inText (d : Datum) : Eval Text := do
            answeredText "__str__" (← textWithin call depth d)
          match ← inheritedMember? type "__str__".toList with
          | some (.member owner _) => newText (← exceptionText call inText owner arguments)
          | _ => newText (← shown call d)
        | _ =>
          match ← askSpecial? call d "__repr__" [] with
          | some answer =>
            let _ ← answeredText "__str__" answer
            return answer
          | none => newText (← shown call d)
    | d => newText (← shown call d)

/-- A thing in running text, as it is held. -/
def textDatum (call : Caller) (d : Datum) : Eval Datum := textWithin call shownDepth d

/-- A thing in running text. -/
def textOf (call : Caller) (d : Datum) : Eval Text := do
  answeredText "__str__" (← textDatum call d)

end FormulaCube.Run
