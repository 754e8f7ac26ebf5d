import FormulaCube.Text.Normal
import FormulaCube.Text.Quoted
import Mathlib.Tactic.Lemma
import Mathlib.Tactic.SplitIfs

/-!
# Quoted texts read back as themselves

A quoted text shows exactly what it quotes: each character can be read off the front of its escaped
form, whatever follows it.

* `Text.hexNumber_hex` — the digits of a number in hexadecimal stand for it.
* `Text.isAsciiWord_of_mem_ofNat`, `Text.isAsciiWord_of_mem_hex` — digits are letters and digits of ASCII.
* `Text.unescaped?` — reads one escaped character, and what follows it.
* `Text.unescaped?_escapedChar` — it reads back the character that was escaped.
* `Text.quoted_injective` — so two texts that are shown alike are the same text.
-/

namespace FormulaCube.Text

/-! ## Hexadecimal digits -/

lemma hexNumber_concat (t : Text) (c : Char) :
    hexNumber (t ++ [c]) = hexNumber t * 16 + hexNumber [c] := by
  simp only [hexNumber, List.foldl_append, List.foldl_cons, List.foldl_nil, Nat.zero_mul,
    Nat.zero_add]

lemma hexNumber_digitChar {n : Nat} (h : n < 16) : hexNumber [n.digitChar] = n := by
  decide +revert

lemma hexNumber_digits (n : Nat) : hexNumber (Nat.toDigits 16 n) = n := by
  induction n using Nat.strongRecOn with
  | ind n ih =>
      rcases Nat.lt_or_ge n 16 with h | h
      · rw [Nat.toDigits_of_lt_base h, hexNumber_digitChar h]
      · rw [Nat.toDigits_of_base_le (by decide) h, hexNumber_concat, ih (n / 16) (by omega),
          hexNumber_digitChar (Nat.mod_lt n (by decide))]
        omega

/-- Leading zeros do not count. -/
lemma hexNumber_zeros (k : Nat) (t : Text) : hexNumber (List.replicate k '0' ++ t) = hexNumber t := by
  have hzeros : hexNumber (List.replicate k '0') = 0 := by
    induction k with
    | zero => rfl
    | succ k ih =>
        rw [List.replicate_succ', hexNumber_concat, ih]
        rfl
  rw [hexNumber, List.foldl_append, ← hexNumber, hzeros, hexNumber]

/-- **Digits stand for their number.** -/
lemma hexNumber_hex (width n : Nat) : hexNumber (hex width n) = n := by
  rw [hex, hexNumber_zeros, hexNumber_digits]

lemma length_hex {width n : Nat} (hwidth : 0 < width) (h : n < 16 ^ width) :
    (hex width n).length = width := by
  have := (Nat.length_toDigits_le_iff (by decide) hwidth).mpr h
  rw [hex, List.length_append, List.length_replicate]
  omega

/-- Digits are letters and digits. -/
lemma isAsciiWord_of_mem_toDigits {base : Nat} (hbase : 1 < base) (hle : base ≤ 16) {n : Nat}
    {c : Char} (h : c ∈ Nat.toDigits base n) : isAsciiWord c = true := by
  have hdigit : ∀ k < 16, isAsciiWord (Nat.digitChar k) = true := by decide
  induction n using Nat.strongRecOn with
  | ind n ih =>
      rcases Nat.lt_or_ge n base with hn | hn
      · rw [Nat.toDigits_of_lt_base hn, List.mem_singleton] at h
        rw [h, hdigit n (Nat.lt_of_lt_of_le hn hle)]
      · rw [Nat.toDigits_of_base_le hbase hn, List.mem_append, List.mem_singleton] at h
        rcases h with h | rfl
        · exact ih _ (Nat.div_lt_self (by omega) hbase) h
        · exact hdigit _ (Nat.lt_of_lt_of_le (Nat.mod_lt n (by omega)) hle)

lemma isAsciiWord_of_mem_ofNat {n : Nat} {c : Char} (h : c ∈ ofNat n) : isAsciiWord c = true :=
  isAsciiWord_of_mem_toDigits (by decide) (by decide) h

lemma isAsciiWord_of_mem_hex {width n : Nat} {c : Char} (h : c ∈ hex width n) :
    isAsciiWord c = true := by
  rw [hex, List.mem_append, List.mem_replicate] at h
  rcases h with ⟨-, rfl⟩ | h
  · rfl
  · exact isAsciiWord_of_mem_toDigits (by decide) (by decide) h

/-! ## Escaped characters -/

/-- Reads a character that is given by its number, with so many digits. -/
def numbered (width : Nat) (t : Text) : Char × Text :=
  (Char.ofNat (hexNumber (t.take width)), t.drop width)

/-- Reads one character between quotation marks, and what follows it. -/
def unescaped? : Text → Option (Char × Text)
  | [] => none
  | [c] => if c = backslash then none else some (c, [])
  | c :: k :: t =>
    if c ≠ backslash then some (c, k :: t)
    else if k = 'n' then some ('\n', t)
    else if k = 'r' then some ('\r', t)
    else if k = 't' then some ('\t', t)
    else if k = 'x' then some (numbered 2 t)
    else if k = 'u' then some (numbered 4 t)
    else if k = 'U' then some (numbered 8 t)
    else some (k, t)

lemma unescaped?_of_ne {c : Char} (h : c ≠ backslash) (t : Text) :
    unescaped? (c :: t) = some (c, t) := by
  cases t with
  | nil => exact if_neg h
  | cons k t => exact if_pos h

lemma numbered_hex {width : Nat} (hwidth : 0 < width) {c : Char} (h : c.toNat < 16 ^ width)
    (t : Text) : numbered width (hex width c.toNat ++ t) = (c, t) := by
  have hlength := length_hex hwidth h
  rw [numbered, List.take_left' hlength, List.drop_left' hlength, hexNumber_hex, Char.ofNat_toNat]

/-- **An escaped character reads back as itself**, whatever follows it. -/
lemma unescaped?_escapedChar {mark : Char} (hmark : isQuote mark = true) (c : Char) (t : Text) :
    unescaped? (escapedChar mark c ++ t) = some (c, t) := by
  rw [escapedChar]
  simp only [Bool.or_eq_true, decide_eq_true_eq]
  split_ifs with hself hnewline hreturn htab hprintable hsmall hmiddle
  · -- no mark stands for another character after a backslash
    have hc : c = apostrophe ∨ c = doubleQuote ∨ c = backslash := by
      rcases hself with rfl | rfl
      · rw [isQuote, Bool.or_eq_true, decide_eq_true_eq, decide_eq_true_eq] at hmark
        exact hmark.imp_right Or.inl
      · exact Or.inr (Or.inr rfl)
    rcases hc with rfl | rfl | rfl <;> rfl
  · subst hnewline
    rfl
  · subst hreturn
    rfl
  · subst htab
    rfl
  · exact unescaped?_of_ne (fun h => hself (Or.inr h)) t
  · exact congrArg some (numbered_hex (by decide) hsmall t)
  · exact congrArg some (numbered_hex (by decide) hmiddle t)
  · exact congrArg some (numbered_hex (by decide) (Nat.lt_of_lt_of_eq c.val.toNat_lt (by decide)) t)

/-! ## Quoted texts -/

lemma isQuote_quoteMark (t : Text) : isQuote (quoteMark t) = true := by
  rw [quoteMark]
  split <;> rfl

/-- The escaped characters before the closing mark can be read back. -/
lemma escaped_injective {mark : Char} (hmark : isQuote mark = true) {t t' : Text}
    (h : t.flatMap (escapedChar mark) ++ [mark] = t'.flatMap (escapedChar mark) ++ [mark]) :
    t = t' := by
  have hend : unescaped? [mark] = some (mark, []) := by
    refine unescaped?_of_ne ?_ []
    rintro rfl
    cases hmark
  -- a character is read off the front of both, unless one of them is at its end
  induction t generalizing t' with
  | nil =>
      cases t' with
      | nil => rfl
      | cons c' t' =>
          have hread := congrArg unescaped? h
          rw [List.flatMap_cons, List.append_assoc, unescaped?_escapedChar hmark,
            List.flatMap_nil, List.nil_append, hend, Option.some_inj, Prod.mk.injEq] at hread
          exact absurd hread.2.symm (List.append_ne_nil_of_right_ne_nil _ (List.cons_ne_nil _ _))
  | cons c t ih =>
      have hread := congrArg unescaped? h
      rw [List.flatMap_cons, List.append_assoc, unescaped?_escapedChar hmark] at hread
      cases t' with
      | nil =>
          rw [List.flatMap_nil, List.nil_append, hend, Option.some_inj, Prod.mk.injEq] at hread
          exact absurd hread.2 (List.append_ne_nil_of_right_ne_nil _ (List.cons_ne_nil _ _))
      | cons c' t' =>
          rw [List.flatMap_cons, List.append_assoc, unescaped?_escapedChar hmark,
            Option.some_inj, Prod.mk.injEq] at hread
          rw [hread.1, ih hread.2]

/-- **Texts that are quoted alike are the same text.** -/
theorem quoted_injective {t t' : Text} (h : quoted t = quoted t') : t = t' := by
  obtain ⟨hmark, hbody⟩ := List.cons.inj h
  rw [← hmark] at hbody
  exact escaped_injective (isQuote_quoteMark t) hbody

end FormulaCube.Text
