import FormulaCube.Proofs.Outcome
import FormulaCube.Proofs.Shortcut.Scanning

/-!
# One pass, character by character

`expandForm` looks for the first head of its form and goes on behind its closing parenthesis. Here
the same pass is described by what it does with the first character of a text.

* `Rule.headHere?_eq_some_iff` — the texts that begin with a head.
* `Rule.rewrite_eq` — the call that a shortcut stands for.
* `expandForm_here` — a head at the beginning is replaced.
* `expandForm_skip` — any other character is kept.
* `PassMakes` — what a pass makes of a text, whatever follows; texts may be put one after the other.
-/

namespace FormulaCube

namespace Rule

/-! ## Heads at the beginning of a text -/

lemma afterParen?_eq_some_iff {t after : Text} : afterParen? t = some after ↔ t = '(' :: after := by
  unfold afterParen?
  constructor
  · intro h
    split at h
    · rw [Option.some_inj.mp h]
    · cases h
  · rintro rfl
    rfl

/-- A name in a head is the name of a cube. -/
lemma name?_eq_some {t name more : Text} (h : name? t = some (name, more)) :
    isCubeName name = true ∧ t = name ++ more := by
  cases t with
  | nil => cases h
  | cons c t =>
      rw [name?] at h
      split at h
      · rename_i hc
        obtain ⟨rfl, rfl⟩ := Prod.mk.inj (Option.some_inj.mp h)
        refine ⟨?_, ?_⟩
        · rw [isCubeName, hc, Bool.true_and]
          exact List.all_takeWhile
        · rw [List.cons_append, List.takeWhile_append_dropWhile]
      · cases h

/-- The name of a cube before a parenthesis is read to its end. -/
lemma name?_append_paren {name : Text} (h : isCubeName name = true) (after : Text) :
    name? (name ++ '(' :: after) = some (name, '(' :: after) := by
  cases name with
  | nil => cases h
  | cons c rest =>
      obtain ⟨hc, hrest⟩ := Bool.and_eq_true_iff.mp h
      have hrest := List.all_eq_true.mp hrest
      have hparen : isNamePart '(' = false := rfl
      have htake : (rest ++ '(' :: after).takeWhile isNamePart = rest := by
        rw [List.takeWhile_append_of_pos hrest, List.takeWhile_cons, hparen,
          if_neg Bool.false_ne_true, List.append_nil]
      have hdrop : (rest ++ '(' :: after).dropWhile isNamePart = '(' :: after := by
        rw [List.dropWhile_append_of_pos hrest, List.dropWhile_cons, hparen,
          if_neg Bool.false_ne_true]
      rw [List.cons_append, name?, if_pos hc, htake, hdrop]

/-- **The texts that begin with a head of a form.** -/
lemma headHere?_eq_some_iff {rule : Rule} {c : Char} {t after : Text} {name : Option Text} :
    rule.headHere? (c :: t) = some (name, after) ↔
      c = rule.sigil ∧ rule.Admits name ∧ t = name.getD [] ++ '(' :: after := by
  rw [headHere?]
  constructor
  · intro h
    split at h
    · rename_i hc
      refine ⟨hc, ?_⟩
      split at h
      · rename_i hnamed
        split at h
        · rename_i found more hname
          obtain ⟨hcube, rfl⟩ := name?_eq_some hname
          obtain ⟨after', hafter, heq⟩ := Option.map_eq_some_iff.mp h
          obtain ⟨rfl, rfl⟩ := Prod.mk.inj heq
          rw [afterParen?_eq_some_iff.mp hafter]
          exact ⟨⟨hnamed, hcube⟩, rfl⟩
        · cases h
      · rename_i hnamed
        obtain ⟨after', hafter, heq⟩ := Option.map_eq_some_iff.mp h
        obtain ⟨rfl, rfl⟩ := Prod.mk.inj heq
        rw [afterParen?_eq_some_iff.mp hafter]
        exact ⟨Bool.eq_false_iff.mpr hnamed, rfl⟩
    · cases h
  · rintro ⟨rfl, hname, rfl⟩
    rw [if_pos rfl]
    cases name with
    | none =>
        have hnamed : rule.isNamed = false := hname
        rw [hnamed, if_neg Bool.false_ne_true]
        rfl
    | some name =>
        obtain ⟨hnamed, hcube⟩ := hname
        rw [hnamed, if_pos rfl, Option.getD_some, name?_append_paren hcube]
        rfl

/-- A head stays one when the text goes on. -/
lemma headHere?_append {rule : Rule} {name : Option Text} {c : Char} {a after : Text}
    (h : rule.headHere? (c :: a) = some (name, after)) (b : Text) :
    rule.headHere? (c :: (a ++ b)) = some (name, after ++ b) := by
  obtain ⟨hc, hname, rfl⟩ := headHere?_eq_some_iff.mp h
  exact headHere?_eq_some_iff.mpr ⟨hc, hname, by rw [List.append_assoc, List.cons_append]⟩

/-- A head begins with a sigil. -/
lemma headHere?_of_not_isSigil {c : Char} (h : isSigil c = false) (rule : Rule) (t : Text) :
    rule.headHere? (c :: t) = none := by
  rw [headHere?, if_neg]
  rintro rfl
  cases rule <;> cases h

lemma mem_all (rule : Rule) : rule ∈ all := by
  cases rule <;> decide

/-- The sigil and the name tell the forms apart. -/
lemma eq_of_sigil {rule rule' : Rule} (hsigil : rule.sigil = rule'.sigil)
    (hnamed : rule.isNamed = rule'.isNamed) : rule = rule' := by
  revert hsigil hnamed
  cases rule <;> cases rule' <;> decide

/-- No text begins with the heads of two forms. -/
lemma headHere?_of_ne {rule rule' : Rule} (h : rule' ≠ rule) {name : Option Text}
    (hname : rule'.Admits name) (k : Text) :
    rule.headHere? (rule'.sigil :: (name.getD [] ++ '(' :: k)) = none := by
  rw [Option.eq_none_iff_forall_ne_some]
  rintro ⟨name', after⟩ hhead
  obtain ⟨hsigil, hname', htext⟩ := headHere?_eq_some_iff.mp hhead
  have hparen {n : Text} (hn : isCubeName n = true) {a b : Text} : '(' :: a ≠ n ++ b := by
    cases n with
    | nil => cases hn
    | cons c n =>
        intro heq
        rw [← (List.cons.inj heq).1] at hn
        cases hn
  cases name with
  | none =>
      cases name' with
      | none => exact h (eq_of_sigil hsigil (hname.trans hname'.symm))
      | some name' => exact hparen hname'.2 htext
  | some name =>
      cases name' with
      | none => exact hparen hname.2 htext.symm
      | some name' => exact h (eq_of_sigil hsigil (hname.1.trans hname'.1.symm))

/-! ## Calls -/

/-- The method that a form calls. -/
def callee : Rule → Text
  | .fixedCube => "self.get_fixed_cell".toList
  | .relativeCube => "self.get_relative_cube_cell".toList
  | .relative => "self.get_relative_cell".toList
  | .relativeAt => "self.get_relative_cell".toList

/-- What stands in a call before the coordinate. -/
def leading : Option Text → Text
  | some name => '\'' :: (name ++ ['\'', ',', ' '])
  | none => []

lemma isNamePart_of_mem_callee {rule : Rule} : ∀ c ∈ rule.callee, isNamePart c = true := by
  have hall : rule.callee.all isNamePart = true := by
    unfold callee
    cases rule <;> decide
  exact List.all_eq_true.mp hall

lemma not_isSigil_of_mem_leading {rule : Rule} {name : Option Text} (h : rule.Admits name) :
    ∀ c ∈ leading name, isSigil c = false := by
  intro c hc
  cases name with
  | none => cases hc
  | some name =>
      simp only [leading, List.mem_cons, List.mem_append, List.not_mem_nil, or_false] at hc
      rcases hc with rfl | hc | rfl | rfl | rfl
      · rfl
      · exact not_isSigil_of_isPlain (h.isPlain c hc)
      · rfl
      · rfl
      · rfl

lemma exists_callee_eq (rule : Rule) : ∃ t, rule.callee = 's' :: t := by
  unfold callee
  cases rule <;> exact ⟨_, String.toList_ofList⟩

/-- **The call that a shortcut stands for**: the method, and in parentheses the name and the
coordinate. -/
lemma rewrite_eq {rule : Rule} {name : Option Text} (h : rule.Admits name) (coordinate : Text) :
    rule.rewrite name coordinate =
      rule.callee ++ '(' :: (leading name ++ (coordinate ++ [')'])) := by
  have hfixed : "self.get_fixed_cell(".toList = "self.get_fixed_cell".toList ++ ['('] := by simp
  have hcube : "self.get_relative_cube_cell(".toList =
      "self.get_relative_cube_cell".toList ++ ['('] := by simp
  have hrelative : "self.get_relative_cell(".toList =
      "self.get_relative_cell".toList ++ ['('] := by simp
  have hcomma : ", ".toList = [',', ' '] := by simp
  unfold rewrite callee
  cases name with
  | none =>
      cases rule with
      | relative =>
          simp only [hrelative, leading, List.append_assoc, List.cons_append, List.nil_append]
      | relativeAt =>
          simp only [hrelative, leading, List.append_assoc, List.cons_append, List.nil_append]
      | _ => cases h
  | some name =>
      obtain ⟨hnamed, hname⟩ := h
      have hquoted := quoted_of_isNamePart (isNamePart_of_isCubeName hname)
      cases rule with
      | relative => cases hnamed
      | relativeAt => cases hnamed
      | fixedCube =>
          simp only [nameLiteral, hquoted, hfixed, hcomma, leading, List.append_assoc,
            List.cons_append, List.nil_append]
      | relativeCube =>
          simp only [nameLiteral, hquoted, hcube, hcomma, leading, List.append_assoc,
            List.cons_append, List.nil_append]

/-! ## The first head of a text -/

section

variable {rule : Rule} {prev : Option Char} {c : Char} {t after : Text} {name : Option Text}

lemma findHead_here (hprev : mayPrecede prev = true)
    (h : rule.headHere? (c :: t) = some (name, after)) :
    rule.findHead prev (c :: t) = some ⟨[], name, after⟩ := by
  rw [findHead, if_pos hprev, h]

lemma findHead_skip (h : mayPrecede prev = false ∨ rule.headHere? (c :: t) = none) :
    rule.findHead prev (c :: t) =
      (rule.findHead (some c) t).map fun head => { head with before := c :: head.before } := by
  have hnone : (if mayPrecede prev = true then rule.headHere? (c :: t) else none) = none := by
    rcases h with h | h
    · rw [if_neg (by rw [h]; exact Bool.false_ne_true)]
    · rw [h, ite_self]
  rw [findHead, hnone]
  cases rule.findHead (some c) t <;> rfl

end

end Rule

/-! ## One pass -/

section

variable {ε : Type} [HasShortcutErrors ε] {nested : Int → Text → Except ε Text} {rule : Rule}
  {start : Int} {prev : Option Char} {c : Char} {t after : Text} {name : Option Text}

/-- An error in a shortcut is one of the errors in shortcuts. -/
lemma mapError_ofShortcut {α : Type} (result : Except ShortcutError α) :
    result.mapError ofShortcut = result := by
  cases result <;> rfl

lemma expandForm_of_none (h : rule.findHead prev t = none) :
    expandForm nested rule start prev t = .ok t := by
  rw [expandForm.eq_def]
  split
  · rfl
  · rename_i hsome
    rw [h] at hsome
    cases hsome

/-- What a pass makes of a head, which stands at the beginning of `t` and whose coordinate begins at
offset `inner`, and of what follows it. -/
def expandHead (nested : Int → Text → Except ε Text) (rule : Rule) (inner : Int)
    (t : Text) (name : Option Text) (after : Text) : Except ε Text :=
  match closingParen? after with
  | none => .error (ofShortcut ⟨.unbalanced rule, inner - (name.getD []).length - 2, t.take 60⟩)
  | some close => do
    let coordinate ← nested inner (after.take close)
    let literal ← (coordinateLiteral coordinate inner).mapError ofShortcut
    let rest ← expandForm nested rule (inner + close + 1) (some ')') (after.drop (close + 1))
    .ok (rule.rewrite name literal ++ rest)

lemma expandForm_of_some {head : Rule.Head} (h : rule.findHead prev t = some head) :
    expandForm nested rule start prev t =
      (expandHead nested rule (start + head.before.length + head.length) (t.drop head.before.length)
        head.name head.after).map (head.before ++ ·) := by
  rw [expandForm.eq_def]
  split
  · rename_i hnone
    rw [h] at hnone
    cases hnone
  · rename_i found hfound
    obtain rfl := Option.some_inj.mp (h.symm.trans hfound)
    rw [expandHead]
    generalize hinner : start + (head.before.length : Int) + (head.length : Int) = inner
    have hat : inner - (head.name.getD []).length - 2 = start + head.before.length := by
      rw [← hinner, Rule.Head.length]
      omega
    cases closingParen? head.after with
    | none => exact congrArg Except.error (by rw [hat])
    | some close =>
        cases hnested : nested inner (head.after.take close) with
        | error e => simp only [hinner, hnested]; rfl
        | ok coordinate =>
            cases hliteral : coordinateLiteral coordinate inner with
            | error e => simp only [hinner, hnested, hliteral, bind, Except.bind]; rfl
            | ok literal =>
                simp only [hinner, hnested, hliteral, mapError_ok, bind, Except.bind]
                cases expandForm nested rule (inner + close + 1) (some ')')
                    (head.after.drop (close + 1)) with
                | error e => rfl
                | ok rest => exact congrArg Except.ok (List.append_assoc _ _ _)

omit [HasShortcutErrors ε] in
lemma map_nil_append (result : Except ε Text) : result.map ([] ++ ·) = result := by
  cases result <;> rfl

omit [HasShortcutErrors ε] in
lemma map_append_append (result : Except ε Text) (a b : Text) :
    (result.map (b ++ ·)).map (a ++ ·) = result.map (a ++ b ++ ·) := by
  cases result with
  | error e => rfl
  | ok r => exact congrArg Except.ok (List.append_assoc a b r).symm

/-- **A head at the beginning is replaced.** -/
lemma expandForm_here (hprev : Rule.mayPrecede prev = true)
    (h : rule.headHere? (c :: t) = some (name, after)) :
    expandForm nested rule start prev (c :: t) =
      expandHead nested rule (start + (name.getD []).length + 2) (c :: t) name after := by
  have hinner : start + ([] : Text).length + (Rule.Head.mk [] name after).length =
      start + (name.getD []).length + 2 := by
    simp only [Rule.Head.length, List.length_nil]
    omega
  rw [expandForm_of_some (Rule.findHead_here hprev h), hinner]
  exact map_nil_append _

/-- **Where no head begins, the character is kept.** -/
lemma expandForm_skip (h : Rule.mayPrecede prev = false ∨ rule.headHere? (c :: t) = none) :
    expandForm nested rule start prev (c :: t) =
      (expandForm nested rule (start + 1) (some c) t).map (c :: ·) := by
  have hfind := Rule.findHead_skip h
  cases hrest : rule.findHead (some c) t with
  | none =>
      rw [hrest] at hfind
      rw [expandForm_of_none hfind, expandForm_of_none hrest]
      rfl
  | some head =>
      rw [hrest] at hfind
      have hinner : start + (c :: head.before).length +
          (Rule.Head.mk (c :: head.before) head.name head.after).length =
          start + 1 + head.before.length + head.length := by
        simp only [Rule.Head.length, List.length_cons]
        omega
      rw [expandForm_of_some hfind, expandForm_of_some hrest, hinner]
      exact (map_append_append _ [c] head.before).symm

/-- The passes that are left go on with what the first has made. -/
lemma foldlM_cons_of_ok {u : Text} {rules : List Rule}
    (h : expandForm nested rule start none t = .ok u) :
    (rule :: rules).foldlM (fun t rule => expandForm nested rule start none t) t =
      rules.foldlM (fun t rule => expandForm nested rule start none t) u := by
  rw [List.foldlM_cons, h]
  rfl

/-- The last character of a text, or the one before the text if it is empty. -/
def lastOf (prev : Option Char) (t : Text) : Option Char := t.getLast?.or prev

lemma lastOf_cons (prev : Option Char) (c : Char) (t : Text) :
    lastOf prev (c :: t) = lastOf (some c) t := by
  rw [lastOf, lastOf, List.getLast?_cons]
  cases t.getLast? <;> rfl

lemma lastOf_append (prev : Option Char) (a b : Text) :
    lastOf prev (a ++ b) = lastOf (lastOf prev a) b := by
  rw [lastOf, lastOf, lastOf, List.getLast?_append, Option.or_assoc]

/-! ## Texts of which a pass makes others -/

/-- Of the text `t` after `prev` the pass makes `u`, whatever follows. -/
def PassMakes (nested : Int → Text → Except ε Text) (rule : Rule) (prev : Option Char)
    (t u : Text) : Prop :=
  ∀ (start : Int) (k : Text), expandForm nested rule start prev (t ++ k) =
    (expandForm nested rule (start + t.length) (lastOf prev t) k).map (u ++ ·)

namespace PassMakes

lemma nil (prev : Option Char) : PassMakes nested rule prev [] [] := by
  intro start k
  have hstart : start + (([] : Text).length : Int) = start := Int.add_zero start
  rw [map_nil_append, hstart]
  rfl

/-- **A pass goes on behind a text as it would behind what it makes of it.** -/
lemma append {t u t' u' : Text} (h : PassMakes nested rule prev t u)
    (h' : PassMakes nested rule (lastOf prev t) t' u') :
    PassMakes nested rule prev (t ++ t') (u ++ u') := by
  intro start k
  have hstart : start + ((t ++ t').length : Int) = start + t.length + t'.length := by
    rw [List.length_append]
    omega
  rw [List.append_assoc, h, h', map_append_append, hstart, lastOf_append]

/-- A text without sigils is kept. -/
lemma of_not_isSigil {a : Text} (ha : ∀ c ∈ a, isSigil c = false) (prev : Option Char) :
    PassMakes nested rule prev a a := by
  induction a generalizing prev with
  | nil => exact nil prev
  | cons c a ih =>
      intro start k
      have hc := Rule.headHere?_of_not_isSigil (ha c List.mem_cons_self) rule (a ++ k)
      have hstart : start + 1 + (a.length : Int) = start + (c :: a).length := by
        rw [List.length_cons]
        omega
      rw [List.cons_append, expandForm_skip (Or.inr hc),
        ih (fun d hd => ha d (List.mem_cons_of_mem _ hd)), hstart, lastOf_cons]
      exact map_append_append _ [c] a

lemma singleton (hc : isSigil c = false) (prev : Option Char) :
    PassMakes nested rule prev [c] [c] := by
  refine of_not_isSigil (fun d hd => ?_) prev
  rwa [List.mem_singleton.mp hd]

/-- The head of another form is kept. -/
lemma head {rule' : Rule} (hrule : rule' ≠ rule) (hname : rule'.Admits name)
    (prev : Option Char) : PassMakes nested rule prev (rule'.sigil :: (name.getD [] ++ ['(']))
      (rule'.sigil :: (name.getD [] ++ ['('])) := by
  have hrest : ∀ c ∈ name.getD [] ++ ['('], isSigil c = false := by
    intro c hc
    rcases List.mem_append.mp hc with hc | hc
    · exact not_isSigil_of_isPlain (hname.isPlain c hc)
    · rw [List.mem_singleton.mp hc]
      rfl
  intro start k
  have hnone := Rule.headHere?_of_ne hrule hname k
  have hstart (n : Nat) : start + 1 + (n : Int) = start + ((n + 1 : Nat) : Int) := by omega
  rw [List.cons_append, expandForm_skip (Or.inr (by rwa [List.append_assoc])),
    of_not_isSigil hrest, lastOf_cons, List.length_cons, ← hstart]
  exact map_append_append _ [rule'.sigil] _

/-- **A shortcut of the form is replaced.** -/
lemma shortcut (hprev : Rule.mayPrecede prev = true) (hname : rule.Admits name)
    {coordinate expanded literal : Text}
    (hclose : ∀ k, closingParen? (coordinate ++ ')' :: k) = some coordinate.length)
    (hnested : ∀ offset, nested offset coordinate = .ok expanded)
    (hliteral : ∀ offset, coordinateLiteral expanded offset = .ok literal) :
    PassMakes nested rule prev (rule.sigil :: (name.getD [] ++ '(' :: (coordinate ++ [')'])))
      (rule.rewrite name literal) := by
  intro start k
  have hhead : rule.headHere? (rule.sigil :: (name.getD [] ++ '(' :: (coordinate ++ ')' :: k))) =
      some (name, coordinate ++ ')' :: k) := Rule.headHere?_eq_some_iff.mpr ⟨rfl, hname, rfl⟩
  have htake : (coordinate ++ ')' :: k).take coordinate.length = coordinate :=
    List.take_left
  have hdrop : (coordinate ++ ')' :: k).drop (coordinate.length + 1) = k := by
    rw [List.drop_append, Nat.add_sub_cancel_left, List.drop_eq_nil_of_le (by omega)]
    rfl
  have hlast : lastOf prev (rule.sigil :: (name.getD [] ++ '(' :: (coordinate ++ [')']))) =
      some ')' := by
    rw [← List.cons_append, ← List.cons_append, ← List.append_assoc, lastOf_append]
    rfl
  have htext : rule.sigil :: (name.getD [] ++ '(' :: (coordinate ++ [')'])) ++ k =
      rule.sigil :: (name.getD [] ++ '(' :: (coordinate ++ ')' :: k)) := by
    simp only [List.cons_append, List.append_assoc, List.nil_append]
  have hstart : start + (name.getD []).length + 2 + coordinate.length + 1 =
      start + ((rule.sigil :: (name.getD [] ++ '(' :: (coordinate ++ [')']))).length : Nat) := by
    simp only [List.length_cons, List.length_append, List.length_nil]
    omega
  rw [htext, expandForm_here hprev hhead, expandHead, hclose, hlast, ← hstart]
  simp only [htake, hdrop, hnested, hliteral, mapError_ok, bind, Except.bind]
  cases expandForm nested rule (start + (name.getD []).length + 2 + coordinate.length + 1)
    (some ')') k <;> rfl

end PassMakes

end

end FormulaCube
