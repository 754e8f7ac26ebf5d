import FormulaCube.Proofs.Outcome
import FormulaCube.Proofs.Shortcut.Leftover
import FormulaCube.Source.References

/-!
# References and expansion in lockstep

The references of a source are read off its text in one go, while the expander comes to the same
shortcuts in four passes, which nest. Here the expander keeps note of every call of its rewriting
function, and the notes are compared with the references.

* `noteExpand` — the expander with notes; `map_fst_noteExpand` says that it expands as `expand`.
* `Notes` — a pass that succeeds, with its notes, as a relation between texts.
* `Notes.everyHead_iff` — a pass takes note of exactly the heads that it takes out of a text.
* `noteExpand_lockstep` — the names handed over by the named forms are the names in the heads of
  the source.
-/

namespace FormulaCube

/-! ## The expander with notes -/

/-- What is handed to the rewriting function of a form. -/
structure Handed where
  /-- The form. -/
  rule : Rule
  /-- The name of the cube, if the form gives one. -/
  name : Option Text
  deriving DecidableEq, Repr

/-- A pass, as in `expandForm`, with what it hands over. The notes of a coordinate come before that
of the shortcut it belongs to, because it is expanded before the call is written. -/
def noteForm (nested : Int → Text → Except ShortcutError (Text × List Handed)) (rule : Rule)
    (start : Int) (prev : Option Char) (t : Text) : Except ShortcutError (Text × List Handed) :=
  match _h : rule.findHead prev t with
  | none => .ok (t, [])
  | some head =>
    let headAt := start + head.before.length
    let inner := headAt + head.length
    match closingParen? head.after with
    | none => .error ⟨.unbalanced rule, headAt, (t.drop head.before.length).take 60⟩
    | some close =>
      match nested inner (head.after.take close) with
      | .error e => .error e
      | .ok (coordinate, below) =>
        match coordinateLiteral coordinate inner with
        | .error e => .error e
        | .ok literal =>
          match noteForm nested rule (inner + close + 1) (some ')')
              (head.after.drop (close + 1)) with
          | .error e => .error e
          | .ok (rest, later) =>
            .ok (head.before ++ rule.rewrite head.name literal ++ rest,
              below ++ ⟨rule, head.name⟩ :: later)
termination_by t.length
decreasing_by
  have := Rule.findHead_length _h
  simp only [List.length_drop]
  omega

/-- One pass after others that made this text, with the notes of all of them. -/
def notePass (nested : Int → Text → Except ShortcutError (Text × List Handed)) (start : Int)
    (made : Text × List Handed) (rule : Rule) : Except ShortcutError (Text × List Handed) :=
  (noteForm nested rule start none made.1).map fun (u, more) => (u, made.2 ++ more)

/-- All passes within a bound on the nesting, as in `expandWithin`, with their notes. -/
def noteWithin (rules : List Rule) :
    (depth : Nat) → (start : Int) → Text → Except ShortcutError (Text × List Handed)
  | 0, _, t => .ok (t, [])
  | depth + 1, start, t => rules.foldlM (notePass (noteWithin rules depth) start) (t, [])

/-- All passes, as in `expand`, with their notes. -/
def noteExpand (rules : List Rule) (t : Text) : Except ShortcutError (Text × List Handed) :=
  noteWithin rules (sigilCount t) 0 t

section

variable {noted : Int → Text → Except ShortcutError (Text × List Handed)}
  {nested : Int → Text → Except ShortcutError Text} {rule : Rule} {start : Int}
  {prev : Option Char} {t u : Text} {handed : List Handed}

lemma noteForm_of_none (h : rule.findHead prev t = none) :
    noteForm noted rule start prev t = .ok (t, []) := by
  rw [noteForm.eq_def]
  split
  · rfl
  · rename_i hsome
    rw [h] at hsome
    cases hsome

/-- A pass at a head, whose coordinate begins at offset `inner`. -/
lemma noteForm_of_some {head : Rule.Head} (h : rule.findHead prev t = some head) :
    noteForm noted rule start prev t =
      (match closingParen? head.after with
      | none => .error ⟨.unbalanced rule, start + head.before.length,
          (t.drop head.before.length).take 60⟩
      | some close => do
        let inner := start + head.before.length + head.length
        let made ← noted inner (head.after.take close)
        let literal ← coordinateLiteral made.1 inner
        let rest ← noteForm noted rule (inner + close + 1) (some ')') (head.after.drop (close + 1))
        return (head.before ++ rule.rewrite head.name literal ++ rest.1,
          made.2 ++ ⟨rule, head.name⟩ :: rest.2)) := by
  rw [noteForm.eq_def]
  split
  · rename_i hnone
    rw [h] at hnone
    cases hnone
  · rename_i found hfound
    obtain rfl := Option.some_inj.mp (h.symm.trans hfound)
    dsimp only
    generalize start + (head.before.length : Int) + (head.length : Int) = inner
    cases closingParen? head.after with
    | none => rfl
    | some close =>
        simp only [bind, Except.bind]
        cases noted inner (head.after.take close) with
        | error e => rfl
        | ok made =>
            dsimp only
            cases coordinateLiteral made.1 inner with
            | error e => rfl
            | ok literal =>
                dsimp only
                cases noteForm noted rule (inner + close + 1) (some ')')
                  (head.after.drop (close + 1)) <;> rfl

/-- The notes of a pass do not change what it makes of a text. -/
lemma map_fst_noteForm (h : ∀ inner coordinate, (noted inner coordinate).map Prod.fst =
      nested inner coordinate) (rule : Rule) (start : Int) (prev : Option Char) (t : Text) :
    (noteForm noted rule start prev t).map Prod.fst = expandForm nested rule start prev t := by
  cases hfind : rule.findHead prev t with
  | none =>
      rw [noteForm_of_none hfind, expandForm_of_none hfind]
      rfl
  | some head =>
      have hlength := Rule.findHead_length hfind
      have hat (inner : Int) (hinner : start + head.before.length + head.length = inner) :
          inner - (head.name.getD []).length - 2 = start + head.before.length := by
        rw [← hinner, Rule.Head.length]
        omega
      rw [noteForm_of_some hfind, expandForm_of_some hfind, expandHead]
      generalize hinner : start + (head.before.length : Int) + (head.length : Int) = inner
      cases closingParen? head.after with
      | none => exact congrArg Except.error (by rw [hat inner hinner]; rfl)
      | some close =>
          have ih := map_fst_noteForm h rule (inner + close + 1) (some ')')
            (head.after.drop (close + 1))
          simp only [← h inner, ← ih, Except.map, bind, Except.bind]
          cases noted inner (head.after.take close) with
          | error e => rfl
          | ok made =>
              dsimp only
              cases coordinateLiteral made.1 inner with
              | error e => rfl
              | ok literal =>
                  dsimp only [mapError_ok]
                  cases noteForm noted rule (inner + close + 1) (some ')')
                    (head.after.drop (close + 1)) with
                  | error e => rfl
                  | ok rest => exact congrArg Except.ok (List.append_assoc _ _ _)
termination_by t.length
decreasing_by
  simp only [List.length_drop]
  omega

/-- The notes of several passes do not change what they make of a text. -/
lemma map_fst_foldlM (h : ∀ inner coordinate, (noted inner coordinate).map Prod.fst =
      nested inner coordinate) (rules : List Rule) (start : Int) (made : Text × List Handed) :
    (rules.foldlM (notePass noted start) made).map Prod.fst =
      rules.foldlM (fun t rule => expandForm nested rule start none t) made.1 := by
  induction rules generalizing made with
  | nil => rfl
  | cons rule rules ih =>
      have hpass := map_fst_noteForm h rule start none made.1
      rw [List.foldlM_cons, List.foldlM_cons, ← hpass, notePass]
      cases noteForm noted rule start none made.1 with
      | error e => rfl
      | ok next => exact ih (next.1, made.2 ++ next.2)

lemma map_fst_noteWithin (rules : List Rule) (depth : Nat) (start : Int) (t : Text) :
    (noteWithin rules depth start t).map Prod.fst = expandWithin rules depth start t := by
  induction depth generalizing start t with
  | zero => rfl
  | succ depth ih => exact map_fst_foldlM ih rules start (t, [])

/-- **The expander with notes expands as the one without.** -/
theorem map_fst_noteExpand (rules : List Rule) (t : Text) :
    (noteExpand rules t).map Prod.fst = expand rules t :=
  map_fst_noteWithin rules (sigilCount t) 0 t

end

/-! ## The heads around a shortcut -/

section

variable {p : Rule → Option Char → Option Text → Prop} {rule : Rule} {prev : Option Char}
  {name : Option Text} {before after : Text}

/-- The heads in a text are those before a head, the head itself, and those after it. -/
lemma everyHead_head_iff (hprev : Rule.mayPrecede (lastOf prev before) = true)
    (hname : rule.Admits name) :
    EveryHead p prev (before ++ rule.sigil :: (name.getD [] ++ '(' :: after)) ↔
      EveryHead p prev before ∧ p rule (lastOf prev before) name ∧
        EveryHead p (some '(') after := by
  constructor
  · intro h
    have hhead := h.append_right.1 hprev rule name after
      (Rule.headHere?_eq_some_iff.mpr ⟨rfl, hname, rfl⟩)
    exact ⟨h.append_left, hhead, h.append_right.2.append_right.2⟩
  · rintro ⟨hbefore, hhead, hafter⟩
    refine hbefore.append_of_not_isNamePart ⟨?_, ?_⟩ fun c hc => ?_
    · intro _ rule' name' after' hhere
      by_cases hrule : rule' = rule
      · subst hrule
        have hhere' := Rule.headHere?_eq_some_iff.mpr
          (⟨rfl, hname, rfl⟩ : rule'.sigil = rule'.sigil ∧ rule'.Admits name ∧
            name.getD [] ++ '(' :: after = name.getD [] ++ '(' :: after)
        obtain ⟨rfl, -⟩ := Prod.mk.inj (Option.some_inj.mp (hhere.symm.trans hhere'))
        exact hhead
      · rw [Rule.headHere?_of_ne (fun h => hrule h.symm) hname] at hhere
        cases hhere
    · refine .append_of_not_isSigil (fun c hc => ?_) ⟨?_, hafter⟩
      · exact not_isSigil_of_isPlain (hname.isPlain c hc)
      · intro _ rule' name' after' hhere
        rw [Rule.headHere?_of_not_isSigil (by rfl)] at hhere
        cases hhere
    · obtain rfl := Option.some_inj.mp hc
      have hsigil := isSigil_sigil rule
      refine ⟨?_, ?_⟩ <;> cases rule <;> decide

/-- The heads in a text with a shortcut: those around it, its own, and those in its coordinate. -/
lemma everyHead_shortcut_iff {coordinate : Text}
    (hprev : Rule.mayPrecede (lastOf prev before) = true) (hname : rule.Admits name) :
    EveryHead p prev
        (before ++ rule.sigil :: (name.getD [] ++ '(' :: (coordinate ++ ')' :: after))) ↔
      EveryHead p prev before ∧ p rule (lastOf prev before) name ∧
        EveryHead p (some '(') coordinate ∧ EveryHead p (some ')') after := by
  rw [everyHead_head_iff hprev hname]
  refine and_congr_right fun _ => and_congr_right fun _ => ?_
  constructor
  · intro h
    exact ⟨h.append_left, h.append_right.2⟩
  · rintro ⟨hcoordinate, hafter⟩
    have hclose : EveryHead p (lastOf (some '(') coordinate) (')' :: after) := by
      refine ⟨fun _ rule' name' after' hhere => ?_, hafter⟩
      rw [Rule.headHere?_of_not_isSigil (by rfl)] at hhere
      cases hhere
    refine hcoordinate.append_of_not_isNamePart hclose fun c hc => ?_
    obtain rfl := Option.some_inj.mp hc
    exact ⟨rfl, by decide⟩

/-- The heads in a text with a call whose coordinate has none: those around the call. None is made
of what stands before the call and the method, if no sigil or dot stands there. -/
lemma everyHead_rewritten_iff {literal : Text}
    (hprev : Rule.mayPrecede (lastOf prev before) = true)
    (hseparates : Separates (lastOf prev before)) (hname : rule.Admits name)
    (hliteral : HeadNames (fun _ => False) literal) :
    EveryHead p prev (before ++ (rule.rewrite name literal ++ after)) ↔
      EveryHead p prev before ∧ EveryHead p (some ')') after := by
  constructor
  · intro h
    refine ⟨h.append_left, ?_⟩
    have hafter := h.append_right.append_right
    rwa [Rule.rewrite_eq hname, ← List.append_assoc, ← List.cons_append, ← List.append_assoc,
      lastOf_append] at hafter
  · rintro ⟨hbefore, hafter⟩
    have hnone (prev : Option Char) : EveryHead p prev literal :=
      (hliteral.everyHead prev).imp fun _ _ _ h => h.elim
    refine hbefore.append (everyHead_call hname hnone hafter _) ?_
    intro a₁ y₁ y₂ after' rule' name' ha _ hname' hy _
    rw [ha] at hseparates hprev
    refine absurd hseparates (not_separates (fun c hc => ?_) hprev)
    exact hname'.isNamePart c (hy ▸ List.mem_append_left _ hc)

end

/-! ## A pass with its notes -/

/-- The pass for the form makes `u` of the text `t` after `prev` and hands these names over. -/
inductive Notes (noted : Int → Text → Except ShortcutError (Text × List Handed)) (rule : Rule) :
    (prev : Option Char) → (t u : Text) → List Handed → Prop where
  /-- No head of the form is left. -/
  | keep {prev : Option Char} {t : Text} (h : EveryHead (fun rule' _ _ => rule' ≠ rule) prev t) :
      Notes noted rule prev t t []
  /-- The first head is replaced, and the pass goes on behind its coordinate. -/
  | head {prev : Option Char} {before coordinate after expanded literal rest : Text}
      {name : Option Text} {inner : Int} {below later : List Handed}
      (hprev : Rule.mayPrecede (lastOf prev before) = true) (hname : rule.Admits name)
      (hnoted : noted inner coordinate = .ok (expanded, below))
      (hliteral : coordinateLiteral expanded inner = .ok literal)
      (hrest : Notes noted rule (some ')') after rest later) :
      Notes noted rule prev
        (before ++ rule.sigil :: (name.getD [] ++ '(' :: (coordinate ++ ')' :: after)))
        (before ++ (rule.rewrite name literal ++ rest)) (below ++ ⟨rule, name⟩ :: later)

section

variable {noted : Int → Text → Except ShortcutError (Text × List Handed)} {rule : Rule}
  {start : Int} {prev : Option Char} {t u : Text} {handed : List Handed}

lemma notes_of_noteForm {start : Int} {prev : Option Char} {t u : Text} {handed : List Handed}
    (h : noteForm noted rule start prev t = .ok (u, handed)) :
    Notes noted rule prev t u handed := by
  cases hfind : rule.findHead prev t with
  | none =>
      rw [noteForm_of_none hfind] at h
      obtain ⟨rfl, rfl⟩ := Prod.mk.inj (Except.ok.inj h)
      exact .keep (Rule.findHead_eq_none_iff.mp hfind)
  | some head =>
      have hlength := Rule.findHead_length hfind
      obtain ⟨htext, hname, hprev, -⟩ := Rule.findHead_eq_some hfind
      rw [noteForm_of_some hfind] at h
      generalize start + (head.before.length : Int) + (head.length : Int) = inner at h
      cases hclose : closingParen? head.after with
      | none =>
          rw [hclose] at h
          cases h
      | some close =>
          rw [hclose] at h
          obtain ⟨⟨expanded, below⟩, hnoted, h⟩ := exists_of_bind_eq_ok h
          obtain ⟨literal, hliteral, h⟩ := exists_of_bind_eq_ok h
          obtain ⟨⟨rest, later⟩, hrest, h⟩ := exists_of_bind_eq_ok h
          obtain ⟨rfl, rfl⟩ := Prod.mk.inj (Except.ok.inj h)
          rw [closingParen?_eq_some hclose] at htext
          rw [htext, List.append_assoc]
          exact .head hprev hname hnoted hliteral (notes_of_noteForm hrest)
termination_by t.length
decreasing_by
  simp only [List.length_drop]
  omega

/-- What is known of the expansion of a coordinate: it leaves no head, and takes note of all of
them. -/
def NotesAll (noted : Int → Text → Except ShortcutError (Text × List Handed)) (depth : Nat) :
    Prop :=
  ∀ {inner : Int} {coordinate expanded : Text} {below : List Handed},
    sigilCount coordinate ≤ depth → HeadsSeparate coordinate →
      noted inner coordinate = .ok (expanded, below) →
        HeadNames (fun _ => False) expanded ∧
          ∀ p : Rule → Option Text → Prop,
            EveryHead (fun rule _ name => p rule name) none coordinate ↔
              ∀ h ∈ below, p h.rule h.name

/-- **A pass takes note of exactly the heads that it takes out of a text**: the heads of the text
are those it has handed over and those that are left. -/
lemma Notes.everyHead_iff {depth : Nat} (hnoted : NotesAll noted depth)
    (h : Notes noted rule prev t u handed) (hcount : sigilCount t ≤ depth + 1)
    (ht : EveryHead (fun _ prev _ => Separates prev) prev t) (p : Rule → Option Text → Prop) :
    EveryHead (fun rule _ name => p rule name) prev t ↔
      (∀ h ∈ handed, p h.rule h.name) ∧ EveryHead (fun rule _ name => p rule name) prev u := by
  induction h with
  | keep => exact ⟨fun h => ⟨fun _ hmem => absurd hmem List.not_mem_nil, h⟩, fun h => h.2⟩
  | @head prev before coordinate after expanded literal rest name inner below later hprev hname
      hcoordinate hliteral _ ih =>
      rw [sigilCount_append, sigilCount_shortcut hname] at hcount
      rw [everyHead_shortcut_iff hprev hname] at ht ⊢
      obtain ⟨-, hseparates, hinside, hafter⟩ := ht
      have hseparate : HeadsSeparate coordinate :=
        hinside.of_prev rfl fun _ _ _ => separates_none
      obtain ⟨hexpanded, hbelow⟩ := hnoted (by omega) hseparate hcoordinate
      have hprev' : EveryHead (fun rule _ name => p rule name) (some '(') coordinate ↔
          EveryHead (fun rule _ name => p rule name) none coordinate :=
        ⟨fun h => h.of_prev rfl fun _ _ h => h, fun h => h.of_prev rfl fun _ _ h => h⟩
      rw [everyHead_rewritten_iff hprev hseparates hname
        ((tame_coordinateLiteral hliteral).names _ hexpanded), hprev', hbelow p,
        ih (by omega) hafter]
      simp only [List.forall_mem_append, List.forall_mem_cons]
      constructor
      · rintro ⟨hbefore, hhead, hbelow, hlater, hrest⟩
        exact ⟨⟨hbelow, hhead, hlater⟩, hbefore, hrest⟩
      · rintro ⟨⟨hbelow, hhead, hlater⟩, hbefore, hrest⟩
        exact ⟨hbefore, hhead, hbelow, hlater, hrest⟩

end

/-! ## All passes with their notes -/

section

variable {rules : List Rule} {depth : Nat} {start : Int} {t u : Text} {handed : List Handed}

/-- What is made with notes is made without them. -/
lemma expandWithin_of_noteWithin (h : noteWithin rules depth start t = .ok (u, handed)) :
    expandWithin rules depth start t = .ok u := by
  rw [← map_fst_noteWithin, h]
  rfl

/-- A text without heads gives no notes and keeps every property of its heads. -/
lemma everyHead_of_headNames {p : Rule → Option Char → Option Text → Prop} {prev : Option Char}
    (h : HeadNames (fun _ => False) t) : EveryHead p prev t :=
  (h.everyHead prev).imp fun _ _ _ h => h.elim

/-- A pass that takes notes keeps the bound on the sigils, and that no head touches a sigil or a dot. -/
lemma separate_of_noteForm (hrules : ∀ rule, rule ∈ rules) {rule : Rule}
    (hcount : sigilCount t ≤ depth + 1) (ht : HeadsSeparate t)
    (h : noteForm (noteWithin rules depth) rule start none t = .ok (u, handed)) :
    sigilCount u ≤ depth + 1 ∧ HeadsSeparate u := by
  have hpass : expandForm (expandWithin rules depth) rule start none t = .ok u := by
    rw [← map_fst_noteForm (map_fst_noteWithin rules depth), h]
    rfl
  exact separate_of_expandForm hrules hcount ht hpass

/-- **Passes one after the other** take note of exactly the heads that they take out of a text. -/
lemma everyHead_iff_of_foldlM (hrules : ∀ rule, rule ∈ rules)
    (hnoted : NotesAll (noteWithin rules depth) depth) {passes : List Rule} {noted : List Handed}
    (hcount : sigilCount t ≤ depth + 1) (ht : HeadsSeparate t)
    (h : passes.foldlM (notePass (noteWithin rules depth) start) (t, noted) = .ok (u, handed))
    (p : Rule → Option Text → Prop) :
    ((∀ h ∈ noted, p h.rule h.name) ∧ EveryHead (fun rule _ name => p rule name) none t) ↔
      (∀ h ∈ handed, p h.rule h.name) ∧ EveryHead (fun rule _ name => p rule name) none u := by
  induction passes generalizing t noted with
  | nil =>
      obtain ⟨rfl, rfl⟩ := Prod.mk.inj (Except.ok.inj h)
      exact Iff.rfl
  | cons rule passes ih =>
      rw [List.foldlM_cons] at h
      obtain ⟨made, hmade, h⟩ := exists_of_bind_eq_ok h
      rw [notePass] at hmade
      cases hform : noteForm (noteWithin rules depth) rule start none t with
      | error e =>
          rw [hform] at hmade
          cases hmade
      | ok next =>
          obtain ⟨t', more⟩ := next
          rw [hform] at hmade
          obtain rfl := Except.ok.inj hmade
          obtain ⟨hcount', ht'⟩ := separate_of_noteForm hrules hcount ht hform
          rw [(notes_of_noteForm hform).everyHead_iff hnoted hcount ht p, ← ih hcount' ht' h,
            List.forall_mem_append, and_assoc]

/-- **The expansion of a coordinate**, at every bound on the nesting, takes note of all heads. -/
lemma notesAll_noteWithin (hrules : ∀ rule, rule ∈ rules) (depth : Nat) :
    NotesAll (noteWithin rules depth) depth := by
  have hnone {depth : Nat} {inner : Int} {coordinate expanded : Text} {below : List Handed}
      (hcount : sigilCount coordinate ≤ depth) (ht : HeadsSeparate coordinate)
      (h : noteWithin rules depth inner coordinate = .ok (expanded, below)) :
      HeadNames (fun _ => False) expanded := by
    have hremains : EveryHead (Remains False fun _ => True) none coordinate :=
      EveryHead.imp ht fun _ _ _ h => Or.inl ⟨trivial, Or.inl h⟩
    exact EveryHead.imp (headNames_expandWithin hrules hcount hremains
      (expandWithin_of_noteWithin h)) fun _ _ _ h => h.1
  induction depth with
  | zero =>
      intro inner coordinate expanded below hcount ht h
      refine ⟨hnone hcount ht h, fun p => ?_⟩
      obtain ⟨rfl, rfl⟩ := Prod.mk.inj (Except.ok.inj h)
      exact ⟨fun _ _ hmem => absurd hmem List.not_mem_nil,
        fun _ => everyHead_of_headNames (hnone hcount ht h)⟩
  | succ depth ih =>
      intro inner coordinate expanded below hcount ht h
      refine ⟨hnone hcount ht h, fun p => ?_⟩
      have hiff := everyHead_iff_of_foldlM hrules ih hcount ht h p
      have hleft : EveryHead (fun rule _ name => p rule name) none expanded :=
        everyHead_of_headNames (hnone hcount ht h)
      exact ⟨fun hheads => (hiff.mp ⟨fun _ hmem => absurd hmem List.not_mem_nil, hheads⟩).1,
        fun hbelow => (hiff.mpr ⟨hbelow, hleft⟩).2⟩

end

/-! ## The names that are extracted -/

lemma headNames_of_none {rule : Rule} {prev : Option Char} {t : Text}
    (h : rule.findHead prev t = none) : headNames rule prev t = [] := by
  rw [headNames.eq_def]
  split
  · rfl
  · rename_i hsome
    rw [h] at hsome
    cases hsome

lemma headNames_of_some {rule : Rule} {prev : Option Char} {t : Text} {head : Rule.Head}
    (h : rule.findHead prev t = some head) :
    headNames rule prev t = head.name.toList ++ headNames rule (some '(') head.after := by
  rw [headNames.eq_def]
  split
  · rename_i hnone
    rw [h] at hnone
    cases hnone
  · rename_i found hfound
    obtain rfl := Option.some_inj.mp (h.symm.trans hfound)
    rfl

/-- **The names of a form that are read off a text** are those in all heads of the form. -/
lemma forall_mem_headNames (rule : Rule) (prev : Option Char) (t : Text) (p : Text → Prop) :
    (∀ name ∈ headNames rule prev t, p name) ↔
      EveryHead (fun rule' _ name => rule' = rule → ∀ n ∈ name, p n) prev t := by
  cases hfind : rule.findHead prev t with
  | none =>
      rw [headNames_of_none hfind]
      refine ⟨fun _ => ?_, fun _ _ hmem => absurd hmem List.not_mem_nil⟩
      exact (Rule.findHead_eq_none_iff.mp hfind).imp fun _ _ _ hne heq => absurd heq hne
  | some head =>
      have hlength := Rule.findHead_length hfind
      obtain ⟨htext, hname, hprev, hbefore⟩ := Rule.findHead_eq_some hfind
      have ih := forall_mem_headNames rule (some '(') head.after p
      rw [headNames_of_some hfind, List.forall_mem_append, ih, htext,
        everyHead_head_iff hprev hname]
      constructor
      · rintro ⟨hhere, hafter⟩
        refine ⟨hbefore.imp fun _ _ _ hne heq => absurd heq hne, fun _ n hn => ?_, hafter⟩
        exact hhere n (Option.mem_toList.mpr hn)
      · rintro ⟨-, hhere, hafter⟩
        exact ⟨fun n hn => hhere rfl n (Option.mem_toList.mp hn), hafter⟩
termination_by t.length

/-- **The expander and the extraction of names are in lockstep.** If no head of the source directly
follows a sigil or a dot and the expansion succeeds, then the names that the named forms hand over
for rewriting, at any depth, are those that are read off the source; and no head of any form is
left, so that no name is read off the expansion. -/
theorem noteExpand_lockstep {s u : Text} (h : expand Rule.all s = .ok u) (hs : HeadsSeparate s) :
    (∃ handed, noteExpand Rule.all s = .ok (u, handed) ∧
      ∀ name, (∃ rule ∈ Rule.named, ⟨rule, some name⟩ ∈ handed) ↔
        name ∈ Rule.named.flatMap fun rule => headNames rule none s) ∧
    (∀ rule : Rule, rule.findHead none u = none) ∧
      (Rule.named.flatMap fun rule => headNames rule none u) = [] := by
  have hleft (rule : Rule) : rule.findHead none u = none :=
    (headNames_expand Rule.mem_all h).2 hs rule rule.mem_all
  refine ⟨?_, hleft, ?_⟩
  · have hnotes := map_fst_noteExpand Rule.all s
    rw [h] at hnotes
    cases hnote : noteExpand Rule.all s with
    | error e =>
        rw [hnote] at hnotes
        cases hnotes
    | ok made =>
        obtain ⟨u', handed⟩ := made
        rw [hnote] at hnotes
        obtain rfl := Except.ok.inj hnotes
        refine ⟨handed, rfl, fun name => ?_⟩
        have hall (p : Rule → Option Text → Prop) :
            EveryHead (fun rule _ name => p rule name) none s ↔ ∀ h ∈ handed, p h.rule h.name :=
          (notesAll_noteWithin Rule.mem_all (sigilCount s) (Nat.le_refl _) hs hnote).2 p
        rw [List.mem_flatMap]
        constructor
        · rintro ⟨rule, hrule, hmem⟩
          -- All heads of the form have names that are read off, so the one handed over has.
          refine ⟨rule, hrule, ?_⟩
          have hread := (forall_mem_headNames rule none s (· ∈ headNames rule none s)).mp
            fun _ hname => hname
          exact (hall _).mp hread ⟨rule, some name⟩ hmem rfl name rfl
        · rintro ⟨rule, hrule, hmem⟩
          -- All names handed over are in the heads of the source, so the one read off is.
          refine ⟨rule, hrule, ?_⟩
          have hhanded := (hall fun rule' name => rule' = rule → ∀ n ∈ name,
            (⟨rule, some n⟩ : Handed) ∈ handed).mpr fun note hnote hrule n hn => by
              obtain ⟨rule', name'⟩ := note
              obtain rfl : rule' = rule := hrule
              obtain rfl : name' = some n := hn
              exact hnote
          exact (forall_mem_headNames rule none s _).mpr hhanded name hmem
  · exact List.flatMap_eq_nil_iff.mpr fun rule _ => headNames_of_none (hleft rule)

theorem noteExpand_lockstep_nested :
    expand Rule.all "@(a: $T(b: 1))".toList =
        .ok ("self.get_relative_cell(\x7b'a': ".toList ++
          "self.get_fixed_cell('T', \x7b'b': 1\x7d)\x7d)".toList) ∧
      HeadsSeparate "@(a: $T(b: 1))".toList ∧
      ∃ handed, noteExpand Rule.all "@(a: $T(b: 1))".toList =
          .ok ("self.get_relative_cell(\x7b'a': ".toList ++
            "self.get_fixed_cell('T', \x7b'b': 1\x7d)\x7d)".toList, handed) ∧
        ∃ rule ∈ Rule.named, ⟨rule, some ['T']⟩ ∈ handed := by
  have hexpand : expand Rule.all "@(a: $T(b: 1))".toList =
      .ok ("self.get_relative_cell(\x7b'a': ".toList ++
          "self.get_fixed_cell('T', \x7b'b': 1\x7d)\x7d)".toList) := by
    have hwell : (Fragment.shortcut .relativeAt none
        (.keyed <| .last (.keyed [] (.name ['a']) []) <|
          .plain ' ' <| .shortcut .fixedCube (some ['T'])
            (.keyed <| .last (.keyed [] (.name ['b']) []) <| .plain ' ' <| .plain '1' .empty)
            .empty) .empty).WellFormed none := by
      simp only [Fragment.WellFormed, EntryLead.WellFormed, Axis.WellFormed, Rule.Admits]
      decide
    exact (expand_eq_rewrite hwell).trans (congrArg Except.ok (by decide))
  have hseparate : HeadsSeparate "@(a: $T(b: 1))".toList := by
    have hsource : "@(a: $T(b: 1))".toList =
        '@' :: ("(a: ".toList ++ '$' :: "T(b: 1))".toList) := by decide
    rw [hsource]
    refine ⟨fun _ _ _ _ _ => separates_none, .append_of_not_isSigil (not_isSigil_of_all (by decide))
      ⟨fun _ _ _ _ _ c hc => ?_, .of_not_isSigil (not_isSigil_of_all (by decide))⟩⟩
    obtain rfl := Option.some_inj.mp hc
    exact ⟨rfl, by decide⟩
  obtain ⟨⟨handed, hnote, hnames⟩, -⟩ := noteExpand_lockstep hexpand hseparate
  refine ⟨hexpand, hseparate, handed, hnote, (hnames ['T']).mpr ?_⟩
  have hread : headNames .fixedCube none "@(a: $T(b: 1))".toList = [['T']] := by
    have hfind : Rule.fixedCube.findHead none "@(a: $T(b: 1))".toList =
        some ⟨"@(a: ".toList, some ['T'], "b: 1))".toList⟩ := by decide
    have hnone : Rule.fixedCube.findHead (some '(') "b: 1))".toList = none := by decide
    rw [headNames_of_some hfind, headNames_of_none hnone]
    rfl
  exact List.mem_flatMap.mpr ⟨.fixedCube, by decide, by rw [hread]; exact List.mem_cons_self⟩

end FormulaCube
