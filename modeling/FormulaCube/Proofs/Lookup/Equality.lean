import FormulaCube.Proofs.Lookup.Number
import FormulaCube.World.Basic

/-!
# Lawful equality

What a coordinate has on an axis is looked up by its key where a cell is set, and compared where a
cell is searched. For what can be looked up and equals itself both come to one equality.

* `Datum.equal` — the equality of what does not depend on the memory: numbers by what they stand for.
* `Datum.isLawful` — what can be looked up and equals itself, also where its type says what it equals.
* `Datum.key_eq` — the key of what is lawful, whatever the memory.
* `Datum.keyOfLawful_eq_iff` — two keys are one key exactly if what they stand for is equal.
* `World.same_eq_equal` — what is searched for is compared with what is lawful by this equality.
-/

namespace FormulaCube

/-- Whether a key is that of a number. -/
def Key.isNumber : Key → Bool
  | .int _ => true
  | .float _ => true
  | _ => false

/-- Whether a key marks the kind of what the rest of a tuple of keys tells. -/
def Key.isMark : Key → Bool
  | .object kind _ => 3 < kind && kind < 11
  | _ => false

/-! ## Objects that equal only themselves -/

/-- Whether a class says nothing about when its objects are equal. -/
def Datum.isSilentClass (m : Memory) (type : Datum) : Bool :=
  (Datum.inherited? m type "__eq__".toList).isNone && Datum.isHashableClass m type

/-- Whether an object equals only itself and can be looked up. -/
def Object.isPlain (m : Memory) : Object → Bool
  | .procedure _ => true
  | .classRecord _ => true
  | .instance type .none _ => Datum.isSilentClass m type
  | .exception type _ _ => Datum.isSilentClass m type
  | .above .. => true
  | .wrapped .. => true
  | .module .. => true
  | .iterator .. => true
  | .dictView .values _ => true
  | _ => false

namespace Datum

/-- Equality, where an object in the memory equals only itself. -/
def equal (a b : Datum) : Bool := equalBy identical a b

mutual

/-- Whether something can be looked up and equals itself. Not so numbers that are none, what can be
changed, objects in the memory that say themselves what they equal or hold a value of a standard type, and
what is equal by what a compiler or another object says. What has a type that says what it equals is lawful
if its key equals itself; marks are no keys. -/
def isLawful (m : Memory) : Datum → Bool
  | .float x _ => !x.isNan
  | .tuple items _ => areLawful m items
  | .other _ k _ => !k.hasNan && !k.isMark
  | .ref address =>
    match m.read address with
    | some object => object.isPlain m
    | Option.none => false
  | .settings _ => false
  | _ => true

/-- Whether all items are lawful. -/
def areLawful (m : Memory) : List Datum → Bool
  | [] => true
  | item :: items => isLawful m item && areLawful m items

end

/-! ## Keys -/

variable {m m' : Memory}

lemma isHashable_of_isPlain {object : Object} (h : object.isPlain m = true) :
    isHashable m object = true := by
  unfold Object.isPlain at h
  split at h <;> simp_all [isHashable, isSilentClass]

lemma objectKey_of_isPlain {object : Object} (h : object.isPlain m = true) (address : Nat) :
    objectKey address object = .object 0 address := by
  unfold Object.isPlain at h
  split at h <;> first | rfl | cases h

mutual

/-- **The key of what is lawful** does not depend on the memory. -/
theorem key_eq (d : Datum) (h : d.isLawful m = true) : d.key m = .ok d.plainKey := by
  cases d with
  | ref address =>
      rw [isLawful] at h
      rw [key]
      cases hread : m.read address with
      | none =>
          rw [hread] at h
          cases h
      | some object =>
          rw [hread] at h
          simp only [isHashable_of_isPlain h, objectKey_of_isPlain h, plainKey, if_true]
  | tuple items mark =>
      rw [isLawful] at h
      rw [key, keys_eq items h]
      rfl
  | float x mark =>
      rw [isLawful, Bool.not_eq_true'] at h
      rw [key, floatKey, h]
      rfl
  | _ => rfl

theorem keys_eq (items : List Datum) (h : areLawful m items = true) :
    keys m items = .ok (plainKeys items) := by
  cases items with
  | nil => rfl
  | cons item items =>
      rw [areLawful, Bool.and_eq_true] at h
      rw [keys, key_eq item h.1, keys_eq items h.2]
      rfl

end

/-! ## Keys of equal things -/

lemma isNumber_ofFloat (x : Binary64) : (Key.ofFloat x).isNumber = true := by
  rw [Key.ofFloat]
  split <;> rfl

/-- Whether its type says what it equals. -/
def isOther : Datum → Bool
  | .other .. => true
  | _ => false

lemma isNumber_plainKey {d : Datum} (h : d.isOther = false) :
    d.plainKey.isNumber = d.numberValue?.isSome := by
  cases d with
  | float x mark => exact isNumber_ofFloat x
  | other type k shown => cases h
  | _ => rfl

lemma isMark_of_isNumber {k : Key} (h : k.isNumber = true) : k.isMark = false := by
  cases k <;> first | rfl | cases h

lemma isLawful_other {type : Text} {k : Key} {shown : Except Fault Text}
    (h : isLawful m (.other type k shown) = true) : k.hasNan = false ∧ k.isMark = false := by
  rw [isLawful, Bool.and_eq_true, Bool.not_eq_true', Bool.not_eq_true'] at h
  exact h

lemma isMark_plainKey {d : Datum} (h : d.isLawful m = true) : d.plainKey.isMark = false := by
  cases d with
  | float x mark => exact isMark_of_isNumber (isNumber_ofFloat x)
  | other type k shown => exact (isLawful_other h).2
  | _ => rfl

/-- The keys of items do not begin with a mark. -/
lemma plainKeys_ne_mark {mark : Key} (h : mark.isMark = true) {items : List Datum}
    (hitems : areLawful m items = true) (keys : List Key) : plainKeys items ≠ mark :: keys := by
  cases items with
  | nil => exact fun h => nomatch h
  | cons item items =>
      intro hkeys
      rw [areLawful, Bool.and_eq_true] at hitems
      rw [plainKeys] at hkeys
      rw [← (List.cons.inj hkeys).1, isMark_plainKey hitems.1] at h
      cases h

/-- Numbers are equal by what they stand for. -/
lemma equal_of_numbers {a b : Datum} {x y : Value} (hx : a.numberValue? = some x)
    (hy : b.numberValue? = some y) : equal a b = equalNumbers x y := by
  cases a <;> simp [numberValue?] at hx <;> cases b <;> simp [numberValue?] at hy <;>
    subst hx <;> subst hy <;> rfl

lemma equal_of_number_left {a b : Datum} (ha : a.numberValue?.isSome = true)
    (hb : b.numberValue?.isSome = false) (hother : b.isOther = false) : equal a b = false := by
  cases a <;> simp [numberValue?] at ha <;> cases b <;> simp [numberValue?, isOther] at hb hother <;> rfl

lemma equal_of_number_right {a b : Datum} (ha : a.numberValue?.isSome = false)
    (hb : b.numberValue?.isSome = true) (hother : a.isOther = false) : equal a b = false := by
  cases b <;> simp [numberValue?] at hb <;> cases a <;> simp [numberValue?, isOther] at ha hother <;> rfl

lemma same_iff {k l : Key} (hk : k.hasNan = false) : k.same l = true ↔ k = l := by
  rw [Key.same, hk, Bool.not_false, Bool.and_true, Key.decide_iff]

/-- Where a type says what its things equal, they are compared by their keys. -/
lemma plainKey_eq_iff_of_isOther {a b : Datum} (ha : a.isLawful m = true) (hb : b.isLawful m' = true)
    (h : a.isOther = true ∨ b.isOther = true) : plainKey a = plainKey b ↔ equal a b = true := by
  by_cases hother : a.isOther = true
  · cases a with
    | other type k shown =>
        rw [equal, equalBy, same_iff (isLawful_other ha).1, plainKey]
    | _ => cases hother
  · cases b with
    | other type k shown =>
        have hequal : equal a (.other type k shown) = a.plainKey.same k := by
          cases a with
          | other => exact absurd rfl hother
          | _ => rfl
        rw [hequal, plainKey]
        constructor
        · intro hkey
          rw [hkey, same_iff (isLawful_other hb).1]
        · intro hsame
          rw [Key.same, Bool.and_eq_true, Key.decide_iff] at hsame
          exact hsame.1
    | _ => exact (h.elim hother nofun).elim

/-- A key that is no number, of a thing that is no number and no tuple. -/
lemma plainKey_eq_iff_of_others {a b : Datum} (ha : a.numberValue?.isSome = false)
    (hb : b.numberValue?.isSome = false) (hta : ∀ items mark, a ≠ .tuple items mark)
    (htb : ∀ items mark, b ≠ .tuple items mark) (hoa : a.isOther = false) (hob : b.isOther = false) :
    plainKey a = plainKey b ↔ equal a b = true := by
  have hbytes (s t : List UInt8) : s.map (fun b => Key.int b.toNat) =
      t.map (fun b => Key.int b.toNat) ↔ s = t :=
    List.map_inj_right fun x y h => UInt8.toNat_inj.mp (Int.ofNat_inj.mp (Key.int.inj h))
  have hrange (s t : List Int) : s.map Key.int = t.map Key.int ↔ s = t :=
    List.map_inj_right fun x y h => Key.int.inj h
  cases a <;> try (first | cases ha; done | cases hoa; done | exact absurd rfl (hta _ _))
  all_goals
    cases b <;> try (first | cases hb; done | cases hob; done | exact absurd rfl (htb _ _))
  -- things of two kinds have different keys, and neither equals the other
  all_goals
    first
      | refine iff_of_false (fun h => ?_) Bool.false_ne_true; cases h
      | simp [plainKey, equal, equalBy, identical, hbytes, hrange, numberValue?]

lemma isLawful_float {x : Binary64} {mark : Mark} (h : isLawful m (.float x mark) = true) :
    x.shape ≠ .nan := by
  rw [isLawful, Binary64.isNan, Bool.not_eq_true'] at h
  exact of_decide_eq_false h

lemma equalNumbers_eq_true_iff {x y : Value} :
    equalNumbers x y = true ↔ Value.compareNumbers? x y = some (some .eq) := by
  rw [equalNumbers]
  split
  · rename_i h
    exact iff_of_true rfl h
  · rename_i h
    exact iff_of_false Bool.false_ne_true h

/-- **Numbers have one key exactly if they are equal.** -/
lemma plainKey_eq_iff_of_numbers {a b : Datum} (ha : a.isLawful m = true) (hb : b.isLawful m' = true)
    {x y : Value} (hx : a.numberValue? = some x) (hy : b.numberValue? = some y) :
    plainKey a = plainKey b ↔ equal a b = true := by
  have hints (i j : Int) : Key.int i = Key.int j ↔ equalNumbers (.int i) (.int j) = true := by
    rw [equalNumbers_eq_true_iff, Value.compareNumbers?, Key.int.injEq, Option.some_inj,
      Option.some_inj, Std.compare_eq_iff_eq]
  have hmixed (i : Int) (x : Binary64) :
      Key.ofFloat x = Key.int i ↔ equalNumbers (.float x) (.int i) = true := by
    rw [equalNumbers_eq_true_iff, Value.compareNumbers?, Option.some_inj,
      Binary64.compareInt?_eq_iff, Binary64.ofFloat_eq_int_iff]
  have hmixed' (i : Int) (x : Binary64) :
      Key.int i = Key.ofFloat x ↔ equalNumbers (.int i) (.float x) = true := by
    rw [equalNumbers_eq_true_iff, Value.compareNumbers?, Option.some_inj, eq_comm,
      Binary64.ofFloat_eq_int_iff, ← Binary64.compareInt?_eq_iff]
    cases x.compareInt? i with
    | none => decide
    | some o => cases o <;> decide
  rw [equal_of_numbers hx hy]
  cases a <;> simp only [numberValue?, reduceCtorEq, Option.some_inj] at hx <;> subst hx <;>
    cases b <;> simp only [numberValue?, reduceCtorEq, Option.some_inj] at hy <;> subst hy
  all_goals first | exact hints _ _ | exact hmixed _ _ | exact hmixed' _ _ | skip
  rename_i x _ y _
  have hequal := Binary64.compareNumbers?_eq_iff (isLawful_float ha) (isLawful_float hb)
  exact hequal.symm.trans equalNumbers_eq_true_iff.symm

/-- The key of a tuple is that of nothing else, unless a type says otherwise. -/
lemma plainKey_tuple_ne {items : List Datum} {mark : Mark} {b : Datum}
    (hitems : isLawful m (.tuple items mark) = true) (hb : ∀ items mark, b ≠ .tuple items mark)
    (hother : b.isOther = false) :
    plainKey (.tuple items mark) ≠ plainKey b ∧ plainKey b ≠ plainKey (.tuple items mark) := by
  have hmark (kind : Nat) (keys : List Key) (h : (Key.object kind 0).isMark = true) :
      plainKey (.tuple items mark) ≠ .tuple (.object kind 0 :: keys) :=
    fun heq => plainKeys_ne_mark h hitems keys (Key.tuple.inj heq)
  have hne : plainKey (.tuple items mark) ≠ plainKey b := by
    intro h
    cases b with
    | tuple others mark' => exact hb others mark' rfl
    | float y mark' =>
        have hnumber := isNumber_ofFloat y
        rw [plainKey, plainKey] at h
        rw [← h] at hnumber
        cases hnumber
    | bytes data => exact hmark 10 _ rfl h
    | builtin name => exact hmark 4 _ rfl h
    | type name => exact hmark 5 _ rfl h
    | member owner name => exact hmark 6 _ rfl h
    | range start stop step => exact hmark 7 _ rfl h
    | other type k shown => cases hother
    | _ => cases h
  exact ⟨hne, hne.symm⟩

/-- A tuple equals nothing else, unless a type says otherwise. -/
lemma equal_tuple {items : List Datum} {mark : Mark} {b : Datum}
    (hb : ∀ items mark, b ≠ .tuple items mark) (hother : b.isOther = false) :
    equal (.tuple items mark) b = false ∧ equal b (.tuple items mark) = false := by
  cases b with
  | tuple others mark' => exact absurd rfl (hb others mark')
  | other type k shown => cases hother
  | _ => exact ⟨rfl, rfl⟩

mutual

/-- Things that are one and the same are alike in all. -/
theorem eq_of_identical (a b : Datum) (h : identical a b = true) : a = b := by
  cases a with
  | tuple items mark =>
      cases b with
      | tuple others mark' =>
          rw [identical, Bool.and_eq_true, beq_iff_eq] at h
          rw [h.1, eq_of_identicalAll items others h.2]
      | _ => cases h
  | _ => cases b <;> first | exact absurd h Bool.false_ne_true | simp_all [identical]

theorem eq_of_identicalAll : (items others : List Datum) → identicalAll items others = true →
    items = others
  | [], [], _ => rfl
  | [], _ :: _, h => nomatch h
  | _ :: _, [], h => nomatch h
  | a :: items, b :: others, h => by
    rw [identicalAll, Bool.and_eq_true] at h
    rw [eq_of_identical a b h.1, eq_of_identicalAll items others h.2]

end

/-- **Lawful things have one key exactly if they are equal**, unless both are tuples. -/
lemma plainKey_eq_iff_of_not_tuples {a b : Datum} (ha : a.isLawful m = true)
    (hb : b.isLawful m' = true)
    (h : (∀ items mark, a ≠ .tuple items mark) ∨ ∀ items mark, b ≠ .tuple items mark) :
    plainKey a = plainKey b ↔ equal a b = true := by
  by_cases hother : a.isOther = true ∨ b.isOther = true
  · exact plainKey_eq_iff_of_isOther ha hb hother
  obtain ⟨hoa, hob⟩ : a.isOther = false ∧ b.isOther = false := by
    rw [not_or, Bool.not_eq_true, Bool.not_eq_true] at hother
    exact hother
  have hkeys (hnumber : a.numberValue?.isSome ≠ b.numberValue?.isSome) :
      plainKey a ≠ plainKey b := fun hkey => by
    have hkind := congrArg Key.isNumber hkey
    rw [isNumber_plainKey hoa, isNumber_plainKey hob] at hkind
    exact hnumber hkind
  cases hx : a.numberValue? with
  | some x =>
      cases hy : b.numberValue? with
      | some y => exact plainKey_eq_iff_of_numbers ha hb hx hy
      | none =>
          have hequal := equal_of_number_left (a := a) (b := b) (by rw [hx]; rfl) (by rw [hy]; rfl) hob
          rw [hequal]
          exact iff_of_false (hkeys (by simp [hx, hy])) Bool.false_ne_true
  | none =>
      cases hy : b.numberValue? with
      | some y =>
          have hequal := equal_of_number_right (a := a) (b := b) (by rw [hx]; rfl) (by rw [hy]; rfl) hoa
          rw [hequal]
          exact iff_of_false (hkeys (by simp [hx, hy])) Bool.false_ne_true
      | none =>
          by_cases hta : ∀ items mark, a ≠ .tuple items mark
          · by_cases htb : ∀ items mark, b ≠ .tuple items mark
            · exact plainKey_eq_iff_of_others (by rw [hx]; rfl) (by rw [hy]; rfl) hta htb hoa hob
            · cases b with
              | tuple others mark =>
                  rw [(equal_tuple hta hoa).2]
                  exact iff_of_false (plainKey_tuple_ne hb hta hoa).2 Bool.false_ne_true
              | _ => exact absurd (fun _ _ => nofun) htb
          · have htb := h.resolve_left hta
            cases a with
            | tuple items mark =>
                rw [(equal_tuple htb hob).1]
                exact iff_of_false (plainKey_tuple_ne ha htb hob).1 Bool.false_ne_true
            | _ => exact absurd (fun _ _ => nofun) hta

mutual

/-- **Lawful things have one key exactly if they are equal.** -/
theorem plainKey_eq_iff (a b : Datum) (ha : a.isLawful m = true) (hb : b.isLawful m' = true) :
    plainKey a = plainKey b ↔ equal a b = true := by
  cases a with
  | tuple items mark =>
      cases b with
      | tuple others mark' =>
          rw [plainKey, plainKey, Key.tuple.injEq]
          exact plainKeys_eq_iff items others ha hb
      | _ => exact plainKey_eq_iff_of_not_tuples ha hb (Or.inr fun _ _ => nofun)
  | _ => exact plainKey_eq_iff_of_not_tuples ha hb (Or.inl fun _ _ => nofun)

theorem plainKeys_eq_iff : (items others : List Datum) → areLawful m items = true →
    areLawful m' others = true →
    (plainKeys items = plainKeys others ↔ equalAllBy identical items others = true)
  | [], [], _, _ => by simp [equalAllBy]
  | [], _ :: _, _, _ => by simp [plainKeys, equalAllBy]
  | _ :: _, [], _, _ => by simp [plainKeys, equalAllBy]
  | a :: items, b :: others, ha, hb => by
    rw [areLawful, Bool.and_eq_true] at ha hb
    rw [plainKeys, plainKeys, List.cons.injEq, equalAllBy, Bool.and_eq_true, Bool.or_eq_true,
      plainKey_eq_iff a b ha.1 hb.1, plainKeys_eq_iff items others ha.2 hb.2]
    refine and_congr_left fun _ => ⟨Or.inr, fun h => h.elim (fun hsame => ?_) id⟩
    obtain rfl := eq_of_identical a b hsame
    exact (plainKey_eq_iff a a ha.1 hb.1).mp rfl

end

lemma anyNan_mark {kind number : Nat} {keys : List Key} (h : ∀ k ∈ keys, k.hasNan = false) :
    Key.anyNan (.object kind number :: keys) = false := by
  have hkeys : Key.anyNan keys = false := by
    induction keys with
    | nil => rfl
    | cons k keys ih =>
        rw [Key.anyNan, h k List.mem_cons_self, ih fun k' hk => h k' (List.mem_cons_of_mem _ hk)]
        rfl
  rw [Key.anyNan, hkeys]
  rfl

mutual

/-- The key of what is lawful equals itself. -/
theorem hasNan_plainKey (d : Datum) (h : d.isLawful m = true) : d.plainKey.hasNan = false := by
  cases d with
  | float x mark =>
      rw [isLawful, Bool.not_eq_true'] at h
      rw [plainKey, Key.ofFloat]
      split
      · rfl
      · exact h
  | tuple items mark => exact anyNan_plainKeys items h
  | bytes data =>
      refine anyNan_mark fun k hk => ?_
      obtain ⟨b, -, rfl⟩ := List.mem_map.mp hk
      rfl
  | range start stop step =>
      refine anyNan_mark fun k hk => ?_
      obtain ⟨i, -, rfl⟩ := List.mem_map.mp hk
      rfl
  | other type k shown => exact (isLawful_other h).1
  | _ => rfl

theorem anyNan_plainKeys : (items : List Datum) → areLawful m items = true →
    Key.anyNan (plainKeys items) = false
  | [], _ => rfl
  | a :: items, h => by
    rw [areLawful, Bool.and_eq_true] at h
    rw [plainKeys, Key.anyNan, hasNan_plainKey a h.1, anyNan_plainKeys items h.2]
    rfl

end

/-- **The keys of lawful things are the same exactly if the things are equal.** -/
theorem same_plainKey {a b : Datum} (ha : a.isLawful m = true) (hb : b.isLawful m' = true) :
    a.plainKey.same b.plainKey = equal a b := by
  rw [Bool.eq_iff_iff, ← plainKey_eq_iff a b ha hb, same_iff (hasNan_plainKey a ha)]

/-! ## What is searched for -/

mutual

/-- Whether something is compared by what it is: no object of it says itself what it equals, or holds
a value of a standard type. What can be changed, and what is no number, may be searched for too. -/
def isComparable (m : Memory) : Datum → Bool
  | .tuple items _ => areComparable m items
  | .ref address =>
    match m.read address with
    | some (.instance cls core _) => core.identical .none && isSilentClass m cls
    | some (.exception cls _ _) => isSilentClass m cls
    | some _ => true
    | Option.none => false
  | _ => true

/-- Whether all items are comparable. -/
def areComparable (m : Memory) : List Datum → Bool
  | [] => true
  | item :: items => isComparable m item && areComparable m items

end

end Datum

namespace Value

/-- Whether a value is that of an object in the memory. -/
def isHeld : Value → Bool
  | .list _ => true
  | .dict _ => true
  | .set _ => true
  | .frame .. => true
  | .object .. => true
  | _ => false

/-- Whether a value is that of an object which is only described. -/
def isObject : Value → Bool
  | .object .. => true
  | _ => false

lemma same_of_isObject {v v' : Value} (h : v'.isObject = true) : v.same v' = false := by
  cases v' with
  | object type shown => cases v <;> simp [Value.same, asNumber, compareNumbers?]
  | _ => cases h

lemma same_of_isHeld {v v' : Value} (h : v.isHeld = true) (h' : v'.isHeld = false) :
    v.same v' = false := by
  cases v <;> cases v' <;> simp_all [isHeld, Value.same, asNumber, compareNumbers?]

end Value

namespace World

variable {w : World} {address : Nat} {object : Object}

/-- What is seen of an object in the memory. -/
lemma view_ref (h : w.memory.read address = some object) :
    ∃ view, w.view (.ref address) = viewObject w.memory view object := by
  refine ⟨w.viewWithin (w.memory.objects.size + w.cells.size) [address], ?_⟩
  rw [World.view, viewWithin, Datum.viewWith, h]
  rfl

lemma isHeld_view (h : w.memory.read address = some object)
    (hobject : (Datum.ref address).isComparable w.memory = true) :
    (w.view (.ref address)).isHeld = true := by
  obtain ⟨view, hview⟩ := view_ref h
  rw [hview]
  rw [Datum.isComparable, h] at hobject
  match object with
  | .instance cls core attributes =>
    rw [Bool.and_eq_true] at hobject
    rw [Datum.eq_of_identical core .none hobject.1]
    rfl
  | .list _ => rfl
  | .dict _ => rfl
  | .set _ => rfl
  | .frame .. => rfl
  | .variables _ => rfl
  | .procedure _ => rfl
  | .bound .. => rfl
  | .classRecord _ => rfl
  | .exception .. => rfl
  | .above .. => rfl
  | .slice .. => rfl
  | .wrapped .. => rfl
  | .module .. => rfl
  | .iterator .. => rfl
  | .dictView .. => rfl

lemma isObject_view (h : w.memory.read address = some object)
    (hobject : object.isPlain w.memory = true) : (w.view (.ref address)).isObject = true := by
  obtain ⟨view, hview⟩ := view_ref h
  rw [hview]
  unfold Object.isPlain at hobject
  split at hobject <;> first | rfl | cases hobject

/-- What is seen of something that is no object in the memory. -/
lemma view_of_ne_ref {d : Datum} (h : ∀ address, d ≠ .ref address) :
    (w.view d).isHeld = false ∨ (w.view d).isObject = true := by
  cases d with
  | ref address => exact absurd rfl (h address)
  | cell number =>
      rw [World.view, viewWithin, Datum.viewWith, viewCell]
      split
      · exact Or.inl rfl
      · exact Or.inr rfl
  | _ => first | exact Or.inl rfl | exact Or.inr rfl

/-- Objects are compared with what is lawful by whether they are the same. -/
lemma same_view_of_ref {a b : Datum} (ha : a.isComparable w.memory = true)
    (hb : b.isLawful w.memory = true) (href : ∃ address, a = .ref address ∨ b = .ref address) :
    (a.identical b || (w.view a).same (w.view b)) = a.identical b := by
  have hsame : (w.view a).same (w.view b) = false := by
    by_cases hbref : ∃ address, b = .ref address
    · obtain ⟨address, rfl⟩ := hbref
      rw [Datum.isLawful] at hb
      cases hread : w.memory.read address with
      | none =>
          rw [hread] at hb
          cases hb
      | some object =>
          rw [hread] at hb
          exact Value.same_of_isObject (isObject_view hread hb)
    · obtain ⟨address, rfl | rfl⟩ := href
      · cases hread : w.memory.read address with
        | none =>
            rw [Datum.isComparable, hread] at ha
            cases ha
        | some object =>
            rcases view_of_ne_ref fun address h => hbref ⟨address, h⟩ with hheld | hobject
            · exact Value.same_of_isHeld (isHeld_view hread ha) hheld
            · exact Value.same_of_isObject hobject
      · exact absurd ⟨address, rfl⟩ hbref
  rw [hsame, Bool.or_false]

lemma same_eq_equal_of_not_tuples {a b : Datum} (ha : a.isComparable w.memory = true)
    (hb : b.isLawful w.memory = true)
    (h : (∀ items mark, a ≠ .tuple items mark) ∨ ∀ items mark, b ≠ .tuple items mark) :
    w.same a b = a.equal b := by
  have hheld := same_view_of_ref ha hb
  rw [World.same, Datum.equal]
  cases a with
  | other type k shown => rfl
  | ref x =>
      cases b with
      | other type k shown => rfl
      | _ => exact hheld ⟨x, Or.inl rfl⟩
  | tuple items mark =>
      cases b with
      | ref y => exact hheld ⟨y, Or.inr rfl⟩
      | tuple others mark' => rcases h with h | h <;> exact absurd rfl (h _ _)
      | _ => rfl
  | _ =>
      cases b with
      | ref y => exact hheld ⟨y, Or.inr rfl⟩
      | _ => rfl

mutual

/-- **What is searched for is compared with what is lawful by what both are**, whatever else there is
in the memory. -/
theorem same_eq_equal (a b : Datum) (ha : a.isComparable w.memory = true)
    (hb : b.isLawful w.memory = true) : w.same a b = a.equal b := by
  cases a with
  | tuple items mark =>
      cases b with
      | tuple others mark' => exact sameAll_eq_equalAll items others ha hb
      | _ => exact same_eq_equal_of_not_tuples ha hb (Or.inr fun _ _ => nofun)
  | _ => exact same_eq_equal_of_not_tuples ha hb (Or.inl fun _ _ => nofun)

theorem sameAll_eq_equalAll : (items others : List Datum) →
    Datum.areComparable w.memory items = true → Datum.areLawful w.memory others = true →
    Datum.equalAllBy (fun a b => a.identical b || (w.view a).same (w.view b)) items others =
      Datum.equalAllBy Datum.identical items others
  | [], [], _, _ => rfl
  | [], _ :: _, _, _ => rfl
  | _ :: _, [], _, _ => rfl
  | a :: items, b :: others, ha, hb => by
    rw [Datum.areComparable, Bool.and_eq_true] at ha
    rw [Datum.areLawful, Bool.and_eq_true] at hb
    have hsame : Datum.equalBy (fun a b => a.identical b || (w.view a).same (w.view b)) a b =
        Datum.equalBy Datum.identical a b := same_eq_equal a b ha.1 hb.1
    rw [Datum.equalAllBy, Datum.equalAllBy, hsame, sameAll_eq_equalAll items others ha.2 hb.2]

end

end World

end FormulaCube
