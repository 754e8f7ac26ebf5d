import FormulaCube.Proofs.Shortcut.Fragment

/-!
# Classes of characters

The scanners tell characters apart by their classes. Each class is given here by code points, so
that what two classes have in common is a matter of arithmetic (`omega`).
-/

namespace FormulaCube

variable {c : Char}

/-! ## Classes by code points -/

lemma eq_iff_toNat (c d : Char) : c = d ↔ c.toNat = d.toNat :=
  ⟨congrArg Char.toNat, fun h => Char.ext (UInt32.toNat_inj.mp h)⟩

lemma le_iff_toNat (c d : Char) : c ≤ d ↔ c.toNat ≤ d.toNat :=
  UInt32.le_iff_toNat_le

lemma isAsciiLetter_iff : Text.isAsciiLetter c = true ↔
    (97 ≤ c.toNat ∧ c.toNat ≤ 122) ∨ (65 ≤ c.toNat ∧ c.toNat ≤ 90) := by
  simp only [Text.isAsciiLetter, Bool.or_eq_true, Bool.and_eq_true, decide_eq_true_eq, le_iff_toNat]
  exact Iff.rfl

lemma isAsciiWord_iff : Text.isAsciiWord c = true ↔
    (97 ≤ c.toNat ∧ c.toNat ≤ 122) ∨ (65 ≤ c.toNat ∧ c.toNat ≤ 90) ∨
      (48 ≤ c.toNat ∧ c.toNat ≤ 57) ∨ c.toNat = 95 := by
  simp only [Text.isAsciiWord, Bool.or_eq_true, isAsciiLetter_iff, Text.isAsciiDigit,
    Bool.and_eq_true, decide_eq_true_eq, le_iff_toNat, eq_iff_toNat]
  show ((_ ∨ _) ∨ (48 ≤ c.toNat ∧ c.toNat ≤ 57)) ∨ c.toNat = 95 ↔ _
  omega

lemma isAsciiNameStart_iff : Text.isAsciiNameStart c = true ↔
    (97 ≤ c.toNat ∧ c.toNat ≤ 122) ∨ (65 ≤ c.toNat ∧ c.toNat ≤ 90) ∨ c.toNat = 95 := by
  simp only [Text.isAsciiNameStart, Bool.or_eq_true, isAsciiLetter_iff, decide_eq_true_eq,
    eq_iff_toNat]
  show (_ ∨ _) ∨ c.toNat = 95 ↔ _
  omega

lemma isNamePart_iff : Rule.isNamePart c = true ↔
    (97 ≤ c.toNat ∧ c.toNat ≤ 122) ∨ (65 ≤ c.toNat ∧ c.toNat ≤ 90) ∨
      (48 ≤ c.toNat ∧ c.toNat ≤ 57) ∨ c.toNat = 95 ∨ c.toNat = 46 := by
  simp only [Rule.isNamePart, Bool.or_eq_true, isAsciiWord_iff, decide_eq_true_eq, eq_iff_toNat]
  show (_ ∨ _ ∨ _ ∨ _) ∨ c.toNat = 46 ↔ _
  omega

lemma isQuote_iff : Text.isQuote c = true ↔ c.toNat = 39 ∨ c.toNat = 34 := by
  simp only [Text.isQuote, Bool.or_eq_true, decide_eq_true_eq, eq_iff_toNat]
  exact Iff.rfl

lemma isSigil_iff : isSigil c = true ↔ c.toNat = 36 ∨ c.toNat = 64 := by
  simp only [isSigil, Bool.or_eq_true, decide_eq_true_eq, eq_iff_toNat]
  exact Iff.rfl

lemma isCloser_iff : isCloser c = true ↔ c.toNat = 41 ∨ c.toNat = 93 ∨ c.toNat = 125 := by
  simp only [isCloser, Bool.or_eq_true, decide_eq_true_eq, eq_iff_toNat]
  show (c.toNat = 41 ∨ c.toNat = 93) ∨ c.toNat = 125 ↔ _
  omega

lemma closer?_isSome_iff :
    (closer? c).isSome = true ↔ c.toNat = 40 ∨ c.toNat = 91 ∨ c.toNat = 123 := by
  have hround : c = '(' ↔ c.toNat = 40 := eq_iff_toNat c '('
  have hsquare : c = '[' ↔ c.toNat = 91 := eq_iff_toNat c '['
  have hcurly : c = '\x7b' ↔ c.toNat = 123 := eq_iff_toNat c '\x7b'
  simp only [closer?, hround, hsquare, hcurly]
  by_cases h₁ : c.toNat = 40
  · simp [h₁]
  · by_cases h₂ : c.toNat = 91
    · simp [h₂]
    · by_cases h₃ : c.toNat = 123
      · simp [h₃]
      · simp [h₁, h₂, h₃]

lemma isBlank_iff : Text.isBlank c = true ↔
    (9 ≤ c.toNat ∧ c.toNat ≤ 13) ∨ (28 ≤ c.toNat ∧ c.toNat ≤ 32) ∨ c.toNat = 133 ∨
      c.toNat = 160 ∨ c.toNat = 5760 ∨ (8192 ≤ c.toNat ∧ c.toNat ≤ 8202) ∨ c.toNat = 8232 ∨
      c.toNat = 8233 ∨ c.toNat = 8239 ∨ c.toNat = 8287 ∨ c.toNat = 12288 := by
  simp only [Text.isBlank, Bool.or_eq_true, Bool.and_eq_true, decide_eq_true_eq]
  omega

lemma isPlain_iff : isPlain c = true ↔
    c.toNat ≠ 36 ∧ c.toNat ≠ 64 ∧ c.toNat ≠ 39 ∧ c.toNat ≠ 34 ∧ c.toNat ≠ 35 ∧ c.toNat ≠ 40 ∧
      c.toNat ≠ 91 ∧ c.toNat ≠ 123 ∧ c.toNat ≠ 41 ∧ c.toNat ≠ 93 ∧ c.toNat ≠ 125 := by
  have hhash : c = '#' ↔ c.toNat = 35 := eq_iff_toNat c '#'
  rw [isPlain, Bool.not_eq_true', ← Bool.not_eq_true]
  simp only [Bool.or_eq_true, decide_eq_true_eq, isSigil_iff, isQuote_iff, closer?_isSome_iff,
    isCloser_iff, hhash]
  omega

/-! ## What the classes have to do with each other -/

lemma isPlain_of_isNamePart (h : Rule.isNamePart c = true) : isPlain c = true := by
  rw [isNamePart_iff] at h
  rw [isPlain_iff]
  omega

lemma isPlain_of_isBlank (h : Text.isBlank c = true) : isPlain c = true := by
  rw [isBlank_iff] at h
  rw [isPlain_iff]
  omega

lemma not_isSigil_of_isPlain (h : isPlain c = true) : isSigil c = false := by
  rw [← Bool.not_eq_true, isSigil_iff]
  rw [isPlain_iff] at h
  omega

lemma not_isQuote_of_isPlain (h : isPlain c = true) : Text.isQuote c = false := by
  rw [← Bool.not_eq_true, isQuote_iff]
  rw [isPlain_iff] at h
  omega

lemma not_isBlank_of_isNamePart (h : Rule.isNamePart c = true) : Text.isBlank c = false := by
  rw [← Bool.not_eq_true, isBlank_iff]
  rw [isNamePart_iff] at h
  omega

lemma not_isBlank_of_isQuote (h : Text.isQuote c = true) : Text.isBlank c = false := by
  rw [← Bool.not_eq_true, isBlank_iff]
  rw [isQuote_iff] at h
  omega

lemma ne_backslash_of_isQuote (h : Text.isQuote c = true) : c ≠ Text.backslash := by
  rintro rfl
  cases h

lemma not_isSigil_of_isQuote (h : Text.isQuote c = true) : isSigil c = false := by
  rw [← Bool.not_eq_true, isSigil_iff]
  rw [isQuote_iff] at h
  omega

lemma isSigil_sigil (rule : Rule) : isSigil rule.sigil = true := by
  cases rule <;> rfl

lemma not_isSigil_of_all {t : Text} (h : t.all (fun c => !isSigil c) = true) :
    ∀ c ∈ t, isSigil c = false := fun c hc =>
  (Bool.not_eq_true' _).mp (List.all_eq_true.mp h c hc)

lemma isNamePart_of_isAsciiWord (h : Text.isAsciiWord c = true) : Rule.isNamePart c = true := by
  rw [Rule.isNamePart, h]
  rfl

lemma isAsciiWord_of_isAsciiNameStart (h : Text.isAsciiNameStart c = true) :
    Text.isAsciiWord c = true := by
  rw [isAsciiNameStart_iff] at h
  rw [isAsciiWord_iff]
  omega

lemma mayPrecede_of_not_isAsciiWord (h : Text.isAsciiWord c = false) :
    Rule.mayPrecede (some c) = true := by
  rw [Rule.mayPrecede, h]
  rfl

/-! ## Quoting -/

/-- A name between apostrophes is quoted as it stands. -/
lemma quoted_of_isNamePart {t : Text} (h : ∀ c ∈ t, Rule.isNamePart c = true) :
    Text.quoted t = '\'' :: (t ++ ['\'']) := by
  have hmark : Text.quoteMark t = '\'' := by
    have hnone : t.contains Text.apostrophe = false := by
      rw [← Bool.not_eq_true, List.contains_iff_mem]
      intro hmem
      cases h _ hmem
    rw [Text.quoteMark, hnone]
    rfl
  have hchar : ∀ c ∈ t, Text.escapedChar '\'' c = [c] := by
    intro c hc
    have hpart := h c hc
    rw [isNamePart_iff] at hpart
    have hne (d : Char) (hd : d.toNat < 46 ∨ d.toNat = 92) : c ≠ d := by
      rintro rfl
      omega
    have hprint : Text.isPrintable c = true := by
      rw [Text.isPrintable, if_pos (by omega), Bool.and_eq_true, decide_eq_true_eq,
        decide_eq_true_eq]
      omega
    rw [Text.escapedChar]
    simp only [hne '\'' (Or.inl (by decide)), hne Text.backslash (Or.inr rfl),
      hne '\n' (Or.inl (by decide)), hne '\r' (Or.inl (by decide)), hne '\t' (Or.inl (by decide)),
      hprint, decide_false, Bool.or_self, Bool.false_eq_true, if_false, if_true]
  have hmap : t.flatMap (Text.escapedChar '\'') = t := by
    clear hmark h
    induction t with
    | nil => rfl
    | cons c t ih =>
        rw [List.flatMap_cons, hchar c List.mem_cons_self,
          ih fun d hd => hchar d (List.mem_cons_of_mem _ hd)]
        rfl
  rw [Text.quoted, hmark, hmap]

end FormulaCube
