import Mathlib.Tactic.Lemma
import FormulaCube.Value.Order

/-!
# Numbers as keys

A table of cells looks numbers up by their keys, while a coordinate that is matched is compared by
value. Both come to the same: two numbers have one key exactly if they are equal.

* `Binary64.eq_of_units` — a double is determined by its value, but for the sign of zero.
* `Binary64.toInt?_eq_some_iff` — the integer that a double equals.
* `Binary64.ofFloat_eq_iff` — when two doubles have one key.
-/

namespace FormulaCube.Binary64

/-! ## Fields -/

/-- The exponent as it is stored. -/
def exponent (x : Binary64) : Nat := x.bits.toNat / 2 ^ 52 % 2048

/-- The fraction as it is stored. -/
def fraction (x : Binary64) : Nat := x.bits.toNat % 2 ^ 52

/-- The minus sign as it is stored. -/
def minus (x : Binary64) : Bool := x.bits.toNat / 2 ^ 63 = 1

variable {x y : Binary64} {negative negative' : Bool} {m m' : Nat} {q q' : Int} {i : Int}

lemma fraction_lt (x : Binary64) : x.fraction < 2 ^ 52 := Nat.mod_lt _ (by decide)

lemma shape_eq (x : Binary64) : x.shape =
    if x.exponent = 2047 then if x.fraction = 0 then .infinite x.minus else .nan
    else if x.exponent = 0 then .finite x.minus x.fraction (-1074)
    else .finite x.minus (2 ^ 52 + x.fraction) ((x.exponent : Int) - 1075) := rfl

/-- The fields make up the double. -/
lemma eq_of_fields (hminus : x.minus = y.minus) (hexponent : x.exponent = y.exponent)
    (hfraction : x.fraction = y.fraction) : x = y := by
  obtain ⟨a⟩ := x
  obtain ⟨b⟩ := y
  have ha := a.toNat_lt
  have hb := b.toNat_lt
  simp only [minus, exponent, fraction, decide_eq_decide] at hminus hexponent hfraction
  have hbits : a.toNat = b.toNat := by omega
  rw [UInt64.toNat_inj.mp hbits]

/-- What a double is that stands for a finite number. -/
lemma shape_eq_finite (h : x.shape = .finite negative m q) :
    negative = x.minus ∧ x.exponent < 2047 ∧
      ((x.exponent = 0 ∧ m = x.fraction ∧ q = -1074) ∨
        (0 < x.exponent ∧ m = 2 ^ 52 + x.fraction ∧ q = (x.exponent : Int) - 1075)) := by
  have hlt : x.exponent < 2048 := Nat.mod_lt _ (by decide)
  rw [shape_eq] at h
  split at h
  · split at h <;> cases h
  · split at h
    · cases h
      exact ⟨rfl, by omega, Or.inl ⟨by assumption, rfl, rfl⟩⟩
    · cases h
      exact ⟨rfl, by omega, Or.inr ⟨by omega, rfl, rfl⟩⟩

/-- What a double is that stands for an infinity. -/
lemma shape_eq_infinite (h : x.shape = .infinite negative) :
    negative = x.minus ∧ x.exponent = 2047 ∧ x.fraction = 0 := by
  rw [shape_eq] at h
  split at h
  · split at h
    · cases h
      exact ⟨rfl, by assumption, by assumption⟩
    · cases h
  · split at h <;> cases h

/-! ## Values -/

/-- The absolute value of a double with these fields, as a multiple of the smallest positive one. -/
def rank (exponent fraction : Nat) : Nat :=
  if exponent = 0 then fraction else (2 ^ 52 + fraction) * 2 ^ (exponent - 1)

/-- Doubles with a greater exponent are greater. -/
lemma rank_lt {e e' f f' : Nat} (hf : f < 2 ^ 52) (h : e < e') : rank e f < rank e' f' := by
  obtain ⟨k, rfl⟩ : ∃ k, e' = k + 1 := ⟨e' - 1, by omega⟩
  rw [rank, rank, if_neg (Nat.succ_ne_zero k), Nat.add_sub_cancel]
  have hbase : 2 ^ 52 * 2 ^ k ≤ (2 ^ 52 + f') * 2 ^ k :=
    Nat.mul_le_mul_right _ (Nat.le_add_right _ _)
  refine Nat.lt_of_lt_of_le ?_ hbase
  split
  · exact Nat.lt_of_lt_of_le hf (Nat.le_mul_of_pos_right _ (Nat.two_pow_pos k))
  · obtain ⟨j, rfl⟩ : ∃ j, e = j + 1 := ⟨e - 1, by omega⟩
    calc (2 ^ 52 + f) * 2 ^ (j + 1 - 1)
        < 2 ^ 53 * 2 ^ j := Nat.mul_lt_mul_of_pos_right (by omega) (Nat.two_pow_pos j)
      _ = 2 ^ 52 * 2 ^ (j + 1) := by rw [Nat.pow_succ 2 j]; omega
      _ ≤ 2 ^ 52 * 2 ^ k := Nat.mul_le_mul_left _ (Nat.pow_le_pow_right (by decide) (by omega))

lemma rank_inj {e e' f f' : Nat} (hf : f < 2 ^ 52) (hf' : f' < 2 ^ 52)
    (h : rank e f = rank e' f') : e = e' ∧ f = f' := by
  rcases Nat.lt_trichotomy e e' with hlt | rfl | hlt
  · exact absurd h (Nat.ne_of_lt (rank_lt hf hlt))
  · refine ⟨rfl, ?_⟩
    rw [rank, rank] at h
    split at h
    · exact h
    · have hpos := Nat.two_pow_pos (e - 1)
      have := Nat.eq_of_mul_eq_mul_right hpos h
      omega
  · exact absurd h.symm (Nat.ne_of_lt (rank_lt hf' hlt))

/-- The value of a finite double, by its fields. -/
lemma units_eq (h : x.shape = .finite negative m q) :
    units negative m q = (if x.minus then -1 else 1) * (rank x.exponent x.fraction : Int) := by
  obtain ⟨rfl, -, ⟨hexponent, rfl, rfl⟩ | ⟨hexponent, rfl, rfl⟩⟩ := shape_eq_finite h
  · rw [units, rank, if_pos hexponent]
    cases x.minus <;> simp
  · have hpower : ((x.exponent : Int) - 1075 + 1074).toNat = x.exponent - 1 := by omega
    rw [units, rank, if_neg (Nat.ne_of_gt hexponent), hpower]
    generalize 2 ^ 52 + x.fraction = m
    rw [Int.natCast_mul, Int.natCast_pow]
    cases x.minus with
    | true => exact (Int.neg_mul _ _).trans (Int.neg_one_mul _).symm
    | false => exact (Int.one_mul _).symm

/-- **A double is determined by its value**, unless that is zero. -/
lemma eq_of_units (h : x.shape = .finite negative m q) (h' : y.shape = .finite negative' m' q')
    (hunits : units negative m q = units negative' m' q') (hzero : units negative m q ≠ 0) :
    x = y := by
  rw [units_eq h] at hunits hzero
  rw [units_eq h'] at hunits
  have hfields : x.minus = y.minus ∧
      rank x.exponent x.fraction = rank y.exponent y.fraction := by
    cases hx : x.minus <;> cases hy : y.minus <;> simp only [hx, hy] at hunits hzero ⊢ <;>
      simp at hunits hzero ⊢ <;> omega
  obtain ⟨hexponent, hfraction⟩ := rank_inj x.fraction_lt y.fraction_lt hfields.2
  exact eq_of_fields hfields.1 hexponent hfraction

/-! ## Integers -/

/-- A number with a sign. -/
def signed (negative : Bool) (m : Nat) : Int := if negative then -(m : Int) else m

lemma signed_mul (negative : Bool) (m d : Nat) :
    signed negative (m * d) = signed negative m * d := by
  rw [signed, signed, Int.natCast_mul]
  split
  · exact (Int.neg_mul _ _).symm
  · rfl

lemma signed_eq_mul_iff {d : Nat} (hd : 0 < d) :
    signed negative m = i * d ↔ m % d = 0 ∧ signed negative (m / d) = i := by
  have hcancel {j : Int} : j * d = i * d ↔ j = i :=
    Int.mul_eq_mul_right_iff (Int.ne_of_gt (Int.natCast_pos.mpr hd))
  have hexact (h : m % d = 0) : signed negative m = signed negative (m / d) * d := by
    rw [← signed_mul, Nat.div_mul_cancel (Nat.dvd_of_mod_eq_zero h)]
  constructor
  · intro h
    have hdvd : d ∣ m := by
      have habs := congrArg Int.natAbs h
      rw [Int.natAbs_mul, Int.natAbs_natCast] at habs
      have hm : (signed negative m).natAbs = m := by
        rw [signed]
        split <;> omega
      exact ⟨i.natAbs, by rw [Nat.mul_comm, ← habs, hm]⟩
    have hmod := Nat.mod_eq_zero_of_dvd hdvd
    exact ⟨hmod, hcancel.mp ((hexact hmod).symm.trans h)⟩
  · rintro ⟨hmod, rfl⟩
    exact hexact hmod

/-- The integer that a finite double equals: the number itself, if it is whole. -/
lemma toInt?_eq_some_iff_signed (h : x.shape = .finite negative m q) :
    x.toInt? = some i ↔
      if 0 ≤ q then signed negative m * 2 ^ q.toNat = i
      else signed negative m = i * 2 ^ (-q).toNat := by
  have hpower (k : Nat) : (2 : Int) ^ k = ((2 ^ k : Nat) : Int) := (Int.natCast_pow 2 k).symm
  rw [toInt?, truncate?, h]
  dsimp only
  by_cases hq : 0 ≤ q
  · have htest : (decide (0 ≤ q) || decide (m % 2 ^ (-q).toNat = 0)) = true := by simp [hq]
    rw [if_pos htest, if_pos hq, if_pos hq, hpower, ← signed_mul, Option.some_inj]
    rfl
  · have htest : (decide (0 ≤ q) || decide (m % 2 ^ (-q).toNat = 0)) =
        decide (m % 2 ^ (-q).toNat = 0) := by simp [hq]
    rw [htest, if_neg hq, if_neg hq, hpower, signed_eq_mul_iff (Nat.two_pow_pos _)]
    by_cases hmod : m % 2 ^ (-q).toNat = 0
    · rw [if_pos (decide_eq_true hmod), Option.some_inj]
      exact ⟨fun h => ⟨hmod, h⟩, fun h => h.2⟩
    · rw [if_neg (by simp [hmod])]
      exact ⟨fun h => (nomatch h), fun h => absurd h.1 hmod⟩

/-- **The integer that a double equals**, by its value. -/
lemma toInt?_eq_some_iff (h : x.shape = .finite negative m q) :
    x.toInt? = some i ↔ units negative m q = i * 2 ^ 1074 := by
  have hq : -1074 ≤ q := by
    obtain ⟨-, -, ⟨-, -, rfl⟩ | ⟨hexponent, -, rfl⟩⟩ := shape_eq_finite h
    · exact Int.le_refl _
    · omega
  have hcancel (k : Nat) {a b : Int} : a * 2 ^ k = b * 2 ^ k ↔ a = b :=
    Int.mul_eq_mul_right_iff (Int.pow_ne_zero (by decide))
  have hunits : units negative m q = signed negative m * 2 ^ (q + 1074).toNat := rfl
  rw [toInt?_eq_some_iff_signed h, hunits]
  split
  · have hsplit : (q + 1074).toNat = q.toNat + 1074 := by omega
    rw [hsplit, Int.pow_add, ← Int.mul_assoc, hcancel]
  · have hsplit : (1074 : Nat) = (-q).toNat + (q + 1074).toNat := by omega
    have hpower : (2 : Int) ^ 1074 = 2 ^ (-q).toNat * 2 ^ (q + 1074).toNat := by
      rw [← Int.pow_add, ← hsplit]
    rw [hpower, ← Int.mul_assoc, hcancel]

/-- A double is compared with an integer by its value. -/
lemma compareInt?_eq_iff : x.compareInt? i = some .eq ↔ x.toInt? = some i := by
  cases h : x.shape with
  | nan =>
      rw [compareInt?, toInt?, h]
      exact ⟨fun h => (nomatch h), fun h => (nomatch h)⟩
  | infinite negative =>
      rw [compareInt?, toInt?, h]
      cases negative <;> exact ⟨fun h => (nomatch h), fun h => (nomatch h)⟩
  | finite negative m q =>
      have hequal (a b : Int) : some (compare a b) = some Ordering.eq ↔ a = b :=
        Option.some_inj.trans Std.compare_eq_iff_eq
      rw [toInt?_eq_some_iff_signed h, compareInt?, h]
      dsimp only
      split
      · exact hequal _ _
      · exact hequal _ _

/-! ## Keys -/

/-- Two doubles, both numbers, are equal. -/
def Equal (x y : Binary64) : Prop := x.less y = false ∧ y.less x = false

/-- Finite doubles are equal if they have one value. -/
lemma equal_iff_units (h : x.shape = .finite negative m q)
    (h' : y.shape = .finite negative' m' q') :
    Equal x y ↔ units negative m q = units negative' m' q' := by
  rw [Equal, less, less, h, h']
  dsimp only
  rw [decide_eq_false_iff_not, decide_eq_false_iff_not]
  omega

lemma ofFloat_of_toInt? (h : x.toInt? = some i) : Key.ofFloat x = .int i := by
  rw [Key.ofFloat, h]

lemma ofFloat_of_toInt?_eq_none (h : x.toInt? = none) : Key.ofFloat x = .float x := by
  rw [Key.ofFloat, h]

/-- A double has the key of an integer exactly if it equals it. -/
lemma ofFloat_eq_int_iff : Key.ofFloat x = .int i ↔ x.toInt? = some i := by
  cases h : x.toInt? with
  | none =>
      rw [ofFloat_of_toInt?_eq_none h]
      exact ⟨fun h => (nomatch h), fun h => (nomatch h)⟩
  | some j =>
      rw [ofFloat_of_toInt? h, Key.int.injEq, Option.some_inj]

/-- Finite doubles have one key exactly if they have one value. -/
lemma ofFloat_eq_iff_units (h : x.shape = .finite negative m q)
    (h' : y.shape = .finite negative' m' q') :
    Key.ofFloat x = Key.ofFloat y ↔ units negative m q = units negative' m' q' := by
  cases hx : x.toInt? with
  | some i =>
      rw [ofFloat_of_toInt? hx, eq_comm, ofFloat_eq_int_iff, toInt?_eq_some_iff h',
        (toInt?_eq_some_iff h).mp hx, eq_comm]
  | none =>
      rw [ofFloat_of_toInt?_eq_none hx]
      constructor
      · intro hkey
        cases hy : y.toInt? with
        | some j =>
            rw [ofFloat_of_toInt? hy] at hkey
            cases hkey
        | none =>
            rw [ofFloat_of_toInt?_eq_none hy] at hkey
            obtain rfl := Key.float.inj hkey
            obtain ⟨rfl, rfl, rfl⟩ := Shape.finite.inj (h.symm.trans h')
            rfl
      · intro hunits
        have hzero : units negative m q ≠ 0 := fun hzero => by
          have hint : x.toInt? = some 0 :=
            (toInt?_eq_some_iff h).mpr (hzero.trans (Int.zero_mul _).symm)
          rw [hx] at hint
          cases hint
        obtain rfl := eq_of_units h h' hunits hzero
        exact (ofFloat_of_toInt?_eq_none hx).symm

lemma toInt?_infinite (h : x.shape = .infinite negative) : x.toInt? = none := by
  rw [toInt?, h]

/-- An infinity has the key of no finite double. -/
lemma ofFloat_infinite_ne (h : x.shape = .infinite negative)
    (h' : y.shape = .finite negative' m' q') : Key.ofFloat x ≠ Key.ofFloat y := by
  intro hkey
  rw [ofFloat_of_toInt?_eq_none (toInt?_infinite h)] at hkey
  cases hy : y.toInt? with
  | some j =>
      rw [ofFloat_of_toInt? hy] at hkey
      cases hkey
  | none =>
      rw [ofFloat_of_toInt?_eq_none hy] at hkey
      obtain rfl := Key.float.inj hkey
      rw [h] at h'
      cases h'

/-- **Two doubles have one key exactly if they are equal.** -/
lemma ofFloat_eq_iff (hx : x.shape ≠ .nan) (hy : y.shape ≠ .nan) :
    Key.ofFloat x = Key.ofFloat y ↔ Equal x y := by
  cases h : x.shape with
  | nan => exact absurd h hx
  | infinite negative =>
      cases h' : y.shape with
      | nan => exact absurd h' hy
      | infinite negative' =>
          rw [ofFloat_of_toInt?_eq_none (toInt?_infinite h),
            ofFloat_of_toInt?_eq_none (toInt?_infinite h'), Key.float.injEq]
          obtain ⟨hminus, hexponent, hfraction⟩ := shape_eq_infinite h
          obtain ⟨hminus', hexponent', hfraction'⟩ := shape_eq_infinite h'
          constructor
          · rintro rfl
            rw [Equal, less, h]
            cases negative <;> exact ⟨rfl, rfl⟩
          · intro hequal
            rw [Equal, less, less, h, h'] at hequal
            have hsign : negative = negative' := by
              cases negative <;> cases negative' <;> simp at hequal ⊢
            exact eq_of_fields (hminus.symm.trans (hsign.trans hminus'))
              (hexponent.trans hexponent'.symm) (hfraction.trans hfraction'.symm)
      | finite negative' m' q' =>
          refine iff_of_false (ofFloat_infinite_ne h h') fun hequal => ?_
          rw [Equal, less, less, h, h'] at hequal
          cases negative <;> simp at hequal
  | finite negative m q =>
      cases h' : y.shape with
      | nan => exact absurd h' hy
      | infinite negative' =>
          refine iff_of_false (ofFloat_infinite_ne h' h).symm fun hequal => ?_
          rw [Equal, less, less, h, h'] at hequal
          cases negative' <;> simp at hequal
      | finite negative' m' q' => rw [ofFloat_eq_iff_units h h', equal_iff_units h h']

/-- Two doubles compare as equal exactly if they have one key. -/
lemma compareNumbers?_eq_iff (hx : x.shape ≠ .nan) (hy : y.shape ≠ .nan) :
    Value.compareNumbers? (.float x) (.float y) = some (some .eq) ↔
      Key.ofFloat x = Key.ofFloat y := by
  have hnan (x : Binary64) (h : x.shape ≠ .nan) : x.isNan = false := decide_eq_false h
  rw [ofFloat_eq_iff hx hy, Value.compareNumbers?, hnan x hx, hnan y hy, Equal]
  cases x.less y <;> cases y.less x <;> simp

end FormulaCube.Binary64
