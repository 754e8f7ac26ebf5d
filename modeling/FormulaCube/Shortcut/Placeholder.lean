import FormulaCube.Text.Basic

/-!
# Names that are unique to one compilation

* `fillPlaceholders` — every `~name~` becomes the name followed by the number of the compilation.
* `identifierOf` — any text made part of an identifier.
-/

namespace FormulaCube

/-- A name between two tildes at the beginning of a text, and what follows it. -/
def placeholder? : Text → Option (Text × Text)
  | '~' :: rest =>
    match rest.takeWhile Text.isAsciiWord, rest.dropWhile Text.isAsciiWord with
    | c :: name, '~' :: after => some (c :: name, after)
    | _, _ => none
  | _ => none

/-- What follows a placeholder is shorter than the text. -/
theorem placeholder?_length {t name after : Text} (h : placeholder? t = some (name, after)) :
    after.length < t.length := by
  unfold placeholder? at h
  split at h
  · rename_i rest
    split at h
    · rename_i hdrop
      simp only [Option.some.injEq, Prod.mk.injEq] at h
      obtain ⟨-, rfl⟩ := h
      have := (List.dropWhile_sublist Text.isAsciiWord (l := rest)).length_le
      rw [hdrop] at this
      simp only [List.length_cons] at this ⊢
      omega
    · simp at h
  · simp at h

/-- Replaces every placeholder by its name followed by the number. -/
def fillPlaceholders (number : Text) (t : Text) : Text :=
  match _h : placeholder? t with
  | some (name, after) => name ++ number ++ fillPlaceholders number after
  | none =>
    match t with
    | [] => []
    | c :: rest => c :: fillPlaceholders number rest
termination_by t.length
decreasing_by
  · exact placeholder?_length _h
  · simp

/-- The text with an underscore for every character that is no ASCII letter, digit or
underscore. -/
def identifierOf (t : Text) : Text := t.map fun c => if Text.isAsciiWord c then c else '_'

end FormulaCube
