import FormulaCube.Cell.Module
import FormulaCube.Proofs.Outcome
import FormulaCube.Proofs.Quoting

/-!
# Names with the number of a compilation in them

* `Text.ofNat_injective`, `className_injective` — the number can be read off the name of a class again,
  although most characters of the name of a cube are lost there.
* `isSimpleName_className` — where names of classes begin with an identifier, they are ASCII names.
* `PlaceholderPart`, `fillPlaceholders_eq` — which names a source has between tildes, and what they
  become.
-/

namespace FormulaCube

/-! ## Numbers -/

lemma Text.ofNat_injective {m n : Nat} (h : Text.ofNat m = Text.ofNat n) : m = n := by
  have hdigits := congrArg (Nat.ofDigitChars 10 · 0) h
  simpa only [Text.ofNat, Nat.ofDigitChars_toDigits (b := 10) (by decide) (by decide)] using hdigits

lemma Text.underscore_notMem_ofNat {n : Nat} : '_' ∉ Text.ofNat n := Nat.underscore_not_in_toDigits

/-! ## Names of classes -/

/-- What stands behind the last underscore of a name. -/
def lastPart (name : Text) : Text := (name.reverse.takeWhile (· != '_')).reverse

lemma lastPart_append {a b : Text} (h : '_' ∉ b) : lastPart (a ++ '_' :: b) = b := by
  have hpass : ∀ c ∈ b.reverse, (c != '_') = true := by
    intro c hc
    rw [bne_iff_ne]
    rintro rfl
    exact h (List.mem_reverse.mp hc)
  rw [lastPart, List.reverse_append, List.reverse_cons, List.append_assoc,
    List.takeWhile_append_of_pos hpass, List.singleton_append,
    List.takeWhile_cons_of_neg (by decide), List.append_nil, List.reverse_reverse]

lemma identifierOf_eq_self {t : Text} (h : ∀ c ∈ t, Text.isAsciiWord c = true) :
    identifierOf t = t :=
  (List.map_congr_left fun c hc => if_pos (h c hc)).trans (List.map_id t)

lemma isAsciiWord_of_mem_identifierOf {t : Text} {c : Char} (h : c ∈ identifierOf t) :
    Text.isAsciiWord c = true := by
  obtain ⟨d, -, rfl⟩ := List.mem_map.mp h
  split
  · assumption
  · decide

/-- The number is kept as it is, behind the last underscore. -/
lemma className_ofNat (settings : Settings) (cube : Text) (n : Nat) :
    className settings cube (Text.ofNat n) =
      identifierOf (settings.classLead ++ '_' :: cube) ++ '_' :: Text.ofNat n := by
  have hnumber : identifierOf (Text.ofNat n) = Text.ofNat n :=
    identifierOf_eq_self fun c hc => Text.isAsciiWord_of_mem_ofNat hc
  have hsplit : settings.classLead ++ '_' :: cube ++ '_' :: Text.ofNat n =
      (settings.classLead ++ '_' :: cube) ++ ('_' :: Text.ofNat n) := rfl
  rw [className, hsplit, identifierOf, List.map_append, List.map_cons]
  exact congrArg (fun t => identifierOf (settings.classLead ++ '_' :: cube) ++ '_' :: t) hnumber

/-- A module that is generated has the name of its class. -/
lemma className_of_generate {settings : Settings} {rules : List Rule} {kind : CellKind}
    {cube number source : Text} {m : GeneratedModule}
    (h : generate settings rules kind cube number source = .ok m) :
    m.className = className settings cube number := by
  rw [generate] at h
  obtain ⟨expanded, -, h⟩ := exists_of_bind_eq_ok h
  obtain ⟨body, -, h⟩ := exists_of_bind_eq_ok h
  cases h
  rfl

/-- **The number can be read off the name of a class**, whatever the cubes are called. -/
lemma className_injective {settings : Settings} {cube cube' : Text} {m n : Nat}
    (h : className settings cube (Text.ofNat m) = className settings cube' (Text.ofNat n)) :
    m = n := by
  rw [className_ofNat, className_ofNat] at h
  have hlast := congrArg lastPart h
  rw [lastPart_append Text.underscore_notMem_ofNat,
    lastPart_append Text.underscore_notMem_ofNat] at hlast
  exact Text.ofNat_injective hlast

/-- An identifier does not begin with a digit. -/
lemma isAsciiNameStart_of_isIdentifierStart {c : Char} (hstart : Text.isIdentifierStart c = true)
    (hword : Text.isAsciiWord c = true) : Text.isAsciiNameStart c = true := by
  rw [Text.isAsciiWord, Bool.or_eq_true, Bool.or_eq_true] at hword
  rw [Text.isAsciiNameStart]
  rcases hword with (hletter | hdigit) | hmark
  · rw [hletter, Bool.true_or]
  · have hascii : c.toNat < 128 := by
      rw [Text.isAsciiDigit, Bool.and_eq_true, decide_eq_true_eq, decide_eq_true_eq] at hdigit
      exact Nat.lt_of_le_of_lt hdigit.2 (by decide)
    rwa [Text.isIdentifierStart, if_pos hascii] at hstart
  · rw [hmark, Bool.or_true]

/-- **Names of classes are ASCII names**, whatever a cube is called. -/
lemma isSimpleName_className {settings : Settings}
    (h : Text.isIdentifier settings.classLead = true) (cube number : Text) :
    CoordinateEntry.isSimpleName (className settings cube number) = true := by
  obtain ⟨c, rest, hlead⟩ : ∃ c rest, settings.classLead = c :: rest := by
    cases hlead : settings.classLead with
    | nil => rw [hlead] at h; cases h
    | cons c rest => exact ⟨c, rest, rfl⟩
  have hstart : Text.isIdentifierStart c = true := by
    rw [hlead, Text.isIdentifier, Bool.and_eq_true] at h
    exact h.1
  have hname : className settings cube number =
      (if Text.isAsciiWord c then c else '_') ::
        identifierOf (rest ++ '_' :: cube ++ '_' :: number) := by
    rw [className, hlead]
    rfl
  rw [hname, CoordinateEntry.isSimpleName, Bool.and_eq_true, List.all_eq_true]
  refine ⟨?_, fun d hd => isAsciiWord_of_mem_identifierOf hd⟩
  split
  · rename_i hword
    exact isAsciiNameStart_of_isIdentifierStart hstart hword
  · decide

/-! ## Placeholders -/

/-- A piece of a source in which names between tildes are filled in. -/
inductive PlaceholderPart where
  /-- A character that stays. -/
  | plain (c : Char)
  /-- A name between tildes. -/
  | token (name : Text)
  deriving DecidableEq, Repr

namespace PlaceholderPart

/-- The text of a part. -/
def written : PlaceholderPart → Text
  | .plain c => [c]
  | .token name => '~' :: (name ++ ['~'])

/-- What a part becomes in the compilation with this number. -/
def filled (number : Text) : PlaceholderPart → Text
  | .plain c => [c]
  | .token name => name ++ number

end PlaceholderPart

/-- The parts of a source. -/
def placeholderParts (t : Text) : List PlaceholderPart :=
  match _h : placeholder? t with
  | some (name, after) => .token name :: placeholderParts after
  | none =>
    match t with
    | [] => []
    | c :: rest => .plain c :: placeholderParts rest
termination_by t.length
decreasing_by
  · exact placeholder?_length _h
  · simp

lemma placeholder?_text {t name after : Text} (h : placeholder? t = some (name, after)) :
    t = '~' :: (name ++ '~' :: after) := by
  unfold placeholder? at h
  split at h
  · rename_i rest
    split at h
    · rename_i c word after' hword hafter
      cases h
      rw [← hword, ← hafter, List.takeWhile_append_dropWhile]
    · cases h
  · cases h

/-- The parts are those of the source. -/
lemma flatMap_written_placeholderParts (t : Text) :
    (placeholderParts t).flatMap PlaceholderPart.written = t := by
  fun_induction placeholderParts t with
  | case1 t name after h ih =>
      rw [List.flatMap_cons, ih, placeholder?_text h, PlaceholderPart.written, List.cons_append,
        List.append_assoc]
      rfl
  | case2 h => rfl
  | case3 c rest h ih => rw [List.flatMap_cons, ih]; rfl

lemma fillPlaceholders_of_some {number t name after : Text}
    (h : placeholder? t = some (name, after)) :
    fillPlaceholders number t = name ++ number ++ fillPlaceholders number after := by
  rw [fillPlaceholders]
  split
  · rename_i h'
    cases h.symm.trans h'
    rfl
  · rename_i h'
    cases h.symm.trans h'

lemma fillPlaceholders_of_none {number rest : Text} {c : Char}
    (h : placeholder? (c :: rest) = none) :
    fillPlaceholders number (c :: rest) = c :: fillPlaceholders number rest := by
  rw [fillPlaceholders]
  split
  · rename_i h'
    cases h.symm.trans h'
  · rfl

lemma fillPlaceholders_nil (number : Text) : fillPlaceholders number [] = [] := by
  rw [fillPlaceholders]
  rfl

/-- **Each name between tildes has the number put behind it, and nothing else changes.** -/
lemma fillPlaceholders_eq (number t : Text) :
    fillPlaceholders number t = (placeholderParts t).flatMap (PlaceholderPart.filled number) := by
  fun_induction placeholderParts t with
  | case1 t name after h ih =>
      rw [fillPlaceholders_of_some h, List.flatMap_cons, ih]
      rfl
  | case2 h => exact fillPlaceholders_nil number
  | case3 c rest h ih =>
      rw [fillPlaceholders_of_none h, List.flatMap_cons, ih]
      rfl

end FormulaCube
