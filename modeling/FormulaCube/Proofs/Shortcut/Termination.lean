import FormulaCube.Proofs.Shortcut.Independence
import FormulaCube.Proofs.Shortcut.Positions

/-!
# Every expansion ends

The passes over a text and the expansions of coordinates call each other, and a pass goes through
its text by position. Here a run of them is a finite derivation: every lookup of a position or of a
stack is made on the way, and may be a fault, and so may be one call more than there are levels for.

* `Scan.entry`, `Scan.literal` — coordinates, read by position.
* `Ends` — a task ends with an outcome, after some work.
* `Ends.unique` — a task ends in one way only.
* `Ends.descends`, `Ends.sigils` — the sigils that the work takes away.
* `Ends.lt_of_tooDeep` — one level more than sigils suffices.
* `ends_expand` — every text is expanded, and what `expandLevels` gives is the outcome.
* `expandIn_of_sigilCount_lt` — where there are more levels than sigils, the limit does not matter.
* `expand_ends` — all of this for one expansion.
-/

namespace FormulaCube

namespace Scan

/-! ## Coordinates -/

/-- Reads one entry of a coordinate by position. -/
def entry (position : Int) (item : Text) : Except Failure CoordinateEntry :=
  if "**".toList.isPrefixOf item.trim then .ok (.spread item.trim)
  else do
    let found ← ((parts ':' item).run item 0 ([], 0, 0)).mapError Failure.fault
    if found.length = 1 then return .bare
    match found[0]? with
    | none => throw (.fault (.indexRange "list".toList))
    | some key =>
      let value := (Text.join [':'] (found.drop 1)).trim
      match CoordinateEntry.axis? key with
      | none => throw (.shortcut ⟨.invalidEntry, position, item.trim⟩)
      | some axis =>
        if value.isEmpty then throw (.shortcut ⟨.invalidEntry, position, item.trim⟩)
        return .keyed axis value

lemma entry_eq (position : Int) (item : Text) :
    entry position item = (CoordinateEntry.ofText position item).mapError Failure.shortcut := by
  rw [entry, CoordinateEntry.ofText]
  split
  · rfl
  · have hparts := splitPieces_ne_nil ':' 0 (Piece.ofText item)
    rw [parts_run, splitTopLevel]
    generalize splitPieces ':' 0 (Piece.ofText item) = found at hparts
    rcases found with _ | ⟨key, _ | ⟨second, more⟩⟩
    · exact absurd rfl hparts
    · rfl
    · have hlength : ¬ (key :: second :: more).length = 1 := by simp
      simp only [mapError_ok, bind, Except.bind]
      rw [if_neg hlength]
      simp only [List.getElem?_cons_zero, List.drop_one, List.tail_cons]
      cases CoordinateEntry.axis? key with
      | none => rfl
      | some axis =>
          dsimp only
          split <;> rfl

/-- The expression that a coordinate stands for, read by position. -/
def literal (t : Text) (position : Int) : Except Failure Text := do
  let stripped ← ((uncommented t).run t 0 ([], 0)).mapError Failure.fault
  let trimmed := stripped.trim
  if trimmed.isEmpty then return "\x7b\x7d".toList
  let items ← ((parts ',' trimmed).run trimmed 0 ([], 0, 0)).mapError Failure.fault
  let entries ← (items.filter fun item => !item.isBlankText).mapM (entry position)
  if !entries.any CoordinateEntry.isKeyed then return trimmed
  if !entries.all CoordinateEntry.isKeyed then
    throw (.shortcut ⟨.mixedEntries, position, trimmed⟩)
  return '\x7b' :: (Text.join ", ".toList (entries.map CoordinateEntry.text) ++ ['\x7d'])

/-- **A coordinate is read by position without a fault.** -/
theorem literal_eq (t : Text) (position : Int) :
    literal t position = (coordinateLiteral t position).mapError Failure.shortcut := by
  have hentries : entry position =
      fun item => (CoordinateEntry.ofText position item).mapError Failure.shortcut :=
    funext (entry_eq position)
  have hok {α : Type} (a : α) (f : α → Except Failure Text) :
      ((Except.ok a : Except Fault α).mapError Failure.fault >>= f) = f a := rfl
  rw [literal, coordinateLiteral, uncommented_run, hentries, hok]
  dsimp only
  split
  · rfl
  · rw [parts_run, hok, bind_mapError, mapM_mapError]
    refine congrArg _ (funext fun entries => ?_)
    split
    · rfl
    · split <;> rfl

end Scan

/-! ## Runs -/

/-- What there is to do. -/
inductive Task where
  /-- Expand a text that begins at the offset. -/
  | expand (offset : Int) (source : Text)
  /-- Go through the text once for each of the forms. -/
  | passes (pending : List Rule) (offset : Int) (source : Text)
  /-- Go on with the pass at the position; `out` has been written. -/
  | apply (rule : Rule) (offset : Int) (source : Text) (pos : Nat) (out : Text)

/-- A coordinate that is expanded while a pass goes through a text. -/
structure Descent where
  /-- The text that the pass goes through. -/
  source : Text
  /-- The coordinate in it. -/
  coordinate : Text
  deriving DecidableEq, Repr

/-- What has been done: the coordinates that were expanded, and the number of shortcuts that were
rewritten, at any depth. -/
structure Work where
  /-- The coordinates that were expanded. -/
  descents : List Descent
  /-- The number of shortcuts that were rewritten. -/
  rewrites : Nat
  deriving DecidableEq, Repr

namespace Work

/-- Nothing has been done. -/
def none : Work := ⟨[], 0⟩

/-- One after the other. -/
def and (w w' : Work) : Work := ⟨w.descents ++ w'.descents, w.rewrites + w'.rewrites⟩

/-- The work on a coordinate, together with the descent to it. -/
def below (w : Work) (source coordinate : Text) : Work :=
  ⟨⟨source, coordinate⟩ :: w.descents, w.rewrites⟩

/-- One shortcut more is rewritten. -/
def rewritten (w : Work) : Work := ⟨w.descents, w.rewrites + 1⟩

end Work

/-- With that many levels, the task ends with the outcome after the work. A text that is expanded takes
one of them, and its passes have the others. -/
inductive Ends (rules : List Rule) : (levels : Nat) → Task → Except Failure Text → Work → Prop where
  /-- No level is left. -/
  | tooDeep {offset : Int} {source : Text} :
      Ends rules 0 (.expand offset source) (.error (.fault .tooDeep)) .none
  /-- A text is expanded with all forms. -/
  | expand {levels : Nat} {offset : Int} {source : Text} {r : Except Failure Text} {w : Work}
      (h : Ends rules levels (.passes rules offset source) r w) :
      Ends rules (levels + 1) (.expand offset source) r w
  /-- No form is left. -/
  | done {levels : Nat} {offset : Int} {source : Text} :
      Ends rules levels (.passes [] offset source) (.ok source) .none
  /-- The other forms go on with what the first has made. -/
  | pass {levels : Nat} {rule : Rule} {pending : List Rule} {offset : Int} {source made : Text}
      {r : Except Failure Text} {w w' : Work}
      (h : Ends rules levels (.apply rule offset source 0 []) (.ok made) w)
      (h' : Ends rules levels (.passes pending offset made) r w') :
      Ends rules levels (.passes (rule :: pending) offset source) r (w.and w')
  /-- The first form stops. -/
  | passStops {levels : Nat} {rule : Rule} {pending : List Rule} {offset : Int} {source : Text} {s : Failure}
      {w : Work} (h : Ends rules levels (.apply rule offset source 0 []) (.error s) w) :
      Ends rules levels (.passes (rule :: pending) offset source) (.error s) w
  /-- No head is left. -/
  | finished {levels : Nat} {rule : Rule} {offset : Int} {source : Text} {pos : Nat} {out : Text}
      (hmatch : rule.matchFrom source pos = none) :
      Ends rules levels (.apply rule offset source pos out) (.ok (out ++ source.drop pos)) .none
  /-- The search for the closing parenthesis has a fault. -/
  | closingFaults {levels : Nat} {rule : Rule} {offset : Int} {source : Text} {pos : Nat} {out : Text}
      {begins ends : Nat} {name : Option Text} {f : Fault}
      (hmatch : rule.matchFrom source pos = some (begins, ends, name))
      (hclose : Scan.closing.run source ends [')'] = .error f) :
      Ends rules levels (.apply rule offset source pos out) (.error (.fault f)) .none
  /-- The parenthesis of a head is not closed. -/
  | unbalanced {levels : Nat} {rule : Rule} {offset : Int} {source : Text} {pos : Nat} {out : Text}
      {begins ends : Nat} {name : Option Text}
      (hmatch : rule.matchFrom source pos = some (begins, ends, name))
      (hclose : Scan.closing.run source ends [')'] = .ok none) :
      Ends rules levels (.apply rule offset source pos out)
        (.error (.shortcut ⟨.unbalanced rule, offset + begins,
          Scan.slice source begins (begins + 60)⟩)) .none
  /-- The expansion of the coordinate stops. -/
  | nestedStops {levels : Nat} {rule : Rule} {offset : Int} {source : Text} {pos : Nat} {out : Text}
      {begins ends close : Nat} {name : Option Text} {s : Failure} {w : Work}
      (hmatch : rule.matchFrom source pos = some (begins, ends, name))
      (hclose : Scan.closing.run source ends [')'] = .ok (some close))
      (h : Ends rules levels (.expand (offset + ends) (Scan.slice source ends close)) (.error s) w) :
      Ends rules levels (.apply rule offset source pos out) (.error s)
        (w.below source (Scan.slice source ends close))
  /-- The coordinate is no expression. -/
  | literalStops {levels : Nat} {rule : Rule} {offset : Int} {source : Text} {pos : Nat} {out : Text}
      {begins ends close : Nat} {name : Option Text} {expanded : Text} {s : Failure} {w : Work}
      (hmatch : rule.matchFrom source pos = some (begins, ends, name))
      (hclose : Scan.closing.run source ends [')'] = .ok (some close))
      (h : Ends rules levels (.expand (offset + ends) (Scan.slice source ends close)) (.ok expanded) w)
      (hliteral : Scan.literal expanded (offset + ends) = .error s) :
      Ends rules levels (.apply rule offset source pos out) (.error s)
        (w.below source (Scan.slice source ends close))
  /-- The shortcut is rewritten, and the pass goes on behind it. -/
  | rewrite {levels : Nat} {rule : Rule} {offset : Int} {source : Text} {pos : Nat} {out : Text}
      {begins ends close : Nat} {name : Option Text} {expanded literal : Text}
      {r : Except Failure Text} {w w' : Work}
      (hmatch : rule.matchFrom source pos = some (begins, ends, name))
      (hclose : Scan.closing.run source ends [')'] = .ok (some close))
      (h : Ends rules levels (.expand (offset + ends) (Scan.slice source ends close)) (.ok expanded) w)
      (hliteral : Scan.literal expanded (offset + ends) = .ok literal)
      (h' : Ends rules levels (.apply rule offset source (close + 1)
        (out ++ Scan.slice source pos begins ++ rule.rewrite name literal)) r w') :
      Ends rules levels (.apply rule offset source pos out) r
        ((w.below source (Scan.slice source ends close)).rewritten.and w')

variable {rules : List Rule} {levels : Nat} {task : Task} {r r' : Except Failure Text} {w w' : Work}

/-- **A task ends in one way only.** -/
theorem Ends.unique (h : Ends rules levels task r w) (h' : Ends rules levels task r' w') :
    r = r' ∧ w = w' := by
  induction h generalizing r' w' with
  | tooDeep =>
      cases h' with
      | tooDeep => exact ⟨rfl, rfl⟩
  | expand _ ih =>
      cases h' with
      | expand h' => exact ih h'
  | done =>
      cases h' with
      | done => exact ⟨rfl, rfl⟩
  | pass _ _ ih ih' =>
      cases h' with
      | pass h h' =>
          obtain ⟨hmade, rfl⟩ := ih h
          obtain rfl := Except.ok.inj hmade
          obtain ⟨rfl, rfl⟩ := ih' h'
          exact ⟨rfl, rfl⟩
      | passStops h => cases (ih h).1
  | passStops _ ih =>
      cases h' with
      | pass h _ => cases (ih h).1
      | passStops h => exact ih h
  | finished hmatch => cases h' <;> grind
  | closingFaults hmatch hclose => cases h' <;> grind
  | unbalanced hmatch hclose => cases h' <;> grind
  | nestedStops hmatch hclose _ ih => cases h' <;> grind
  | literalStops hmatch hclose _ hliteral ih => cases h' <;> grind
  | rewrite hmatch hclose _ hliteral _ ih ih' => cases h' <;> grind

/-! ## What stands where a head is found -/

lemma Rule.matchFrom_eq (rule : Rule) (source : Text) (pos : Nat) : rule.matchFrom source pos =
    (rule.findHead (source.take pos).getLast? (source.drop pos)).map fun head =>
      (pos + head.before.length, pos + head.before.length + head.length, head.name) := by
  rw [Rule.matchFrom, Int.toNat_natCast]
  rcases Nat.le_total pos source.length with hle | hle
  · rw [Nat.min_eq_left hle]
  · rw [Nat.min_eq_right hle, List.drop_length, List.drop_eq_nil_of_le hle]
    rfl

/-- **What a pass has before it when it finds a shortcut.** -/
lemma exists_of_found {rule : Rule} {source : Text} {pos begins ends close : Nat}
    {name : Option Text} (hmatch : rule.matchFrom source pos = some (begins, ends, name))
    (hclose : Scan.closing.run source ends [')'] = .ok (some close)) :
    ∃ before coordinate after, rule.Admits name ∧ source.drop pos =
        before ++ rule.sigil :: (name.getD [] ++ '(' :: (coordinate ++ ')' :: after)) ∧
      Scan.slice source pos begins = before ∧ Scan.slice source ends close = coordinate ∧
      source.drop (close + 1) = after := by
  rw [Rule.matchFrom_eq] at hmatch
  obtain ⟨head, hfind, hhead⟩ := Option.map_eq_some_iff.mp hmatch
  obtain ⟨rfl, rfl, rfl⟩ : pos + head.before.length = begins ∧
      pos + head.before.length + head.length = ends ∧ head.name = name := by simpa using hhead
  obtain ⟨htext, hname, -, -⟩ := Rule.findHead_eq_some hfind
  have hafter : source.drop (pos + head.before.length + head.length) = head.after := by
    have hsplit : source.drop pos =
        (head.before ++ rule.sigil :: (head.name.getD [] ++ ['('])) ++ head.after := by
      simpa using htext
    rw [← Scan.drop_add hsplit]
    congr 1
    simp only [Rule.Head.length, List.length_append, List.length_cons, List.length_nil]
    omega
  rw [Scan.closing_run, hafter] at hclose
  obtain ⟨n, hparen, rfl⟩ := Option.map_eq_some_iff.mp (Except.ok.inj hclose)
  refine ⟨head.before, head.after.take n, head.after.drop (n + 1), hname, ?_, ?_, ?_, ?_⟩
  · rw [← closingParen?_eq_some hparen]
    exact htext
  · rw [Scan.slice, Nat.add_sub_cancel_left, htext, List.take_left]
  · rw [Scan.slice, Nat.add_sub_cancel, hafter]
  · rw [Nat.add_right_comm, Nat.add_comm, ← List.drop_drop, hafter]

/-! ## Sigils -/

/-- The sigils that are left for a task. -/
def Task.sigils : Task → Nat
  | .expand _ source => sigilCount source
  | .passes _ _ source => sigilCount source
  | .apply _ _ source pos out => sigilCount out + sigilCount (source.drop pos)

lemma sigilCount_drop_le (t : Text) (n : Nat) : sigilCount (t.drop n) ≤ sigilCount t :=
  (List.drop_sublist n t).countP_le

/-- **A coordinate has fewer sigils than the text of its shortcut**, because it lacks the sigil of the
head. -/
lemma sigilCount_coordinate_lt {rule : Rule} {source : Text} {pos begins ends close : Nat}
    {name : Option Text} (hmatch : rule.matchFrom source pos = some (begins, ends, name))
    (hclose : Scan.closing.run source ends [')'] = .ok (some close)) :
    sigilCount (Scan.slice source ends close) < sigilCount source := by
  obtain ⟨before, coordinate, after, hname, htext, -, rfl, -⟩ := exists_of_found hmatch hclose
  have hle := sigilCount_drop_le source pos
  rw [htext, sigilCount_append, sigilCount_shortcut hname] at hle
  omega

/-- **Every coordinate that is expanded has fewer sigils than the text that the pass goes through.** -/
theorem Ends.descends (h : Ends rules levels task r w) :
    ∀ d ∈ w.descents, sigilCount d.coordinate < sigilCount d.source := by
  have hbelow {w : Work} {source coordinate : Text} (hlt : sigilCount coordinate < sigilCount source)
      (hw : ∀ d ∈ w.descents, sigilCount d.coordinate < sigilCount d.source) :
      ∀ d ∈ (w.below source coordinate).descents, sigilCount d.coordinate < sigilCount d.source :=
    List.forall_mem_cons.mpr ⟨hlt, hw⟩
  induction h with
  | tooDeep => exact nofun
  | expand _ ih => exact ih
  | done => exact nofun
  | pass _ _ ih ih' => exact List.forall_mem_append.mpr ⟨ih, ih'⟩
  | passStops _ ih => exact ih
  | finished _ => exact nofun
  | closingFaults _ _ => exact nofun
  | unbalanced _ _ => exact nofun
  | nestedStops hmatch hclose _ ih => exact hbelow (sigilCount_coordinate_lt hmatch hclose) ih
  | literalStops hmatch hclose _ _ ih => exact hbelow (sigilCount_coordinate_lt hmatch hclose) ih
  | rewrite hmatch hclose _ _ _ ih ih' =>
      exact List.forall_mem_append.mpr ⟨hbelow (sigilCount_coordinate_lt hmatch hclose) ih, ih'⟩

/-- **Every shortcut that is rewritten takes a sigil away**, and nothing adds one. -/
theorem Ends.sigils {u : Text} (h : Ends rules levels task (.ok u) w) :
    sigilCount u + w.rewrites ≤ task.sigils := by
  generalize hr : (Except.ok u : Except Failure Text) = r at h
  induction h generalizing u with
  | expand _ ih => exact ih hr
  | done =>
      obtain rfl := Except.ok.inj hr
      exact Nat.le_refl _
  | pass _ _ ih ih' =>
      have hfirst := ih rfl
      have hlater := ih' hr
      simp only [Task.sigils, List.drop_zero, Work.and] at hfirst hlater ⊢
      have hnil : sigilCount [] = 0 := rfl
      omega
  | finished _ =>
      obtain rfl := Except.ok.inj hr
      rw [sigilCount_append]
      exact Nat.le_refl _
  | @rewrite levels rule offset source pos out begins ends close name expanded literal r w w' hmatch hclose
      _ hliteral _ ih ih' =>
      obtain ⟨before, coordinate, after, hname, htext, hbefore, hcoordinate, hafter⟩ :=
        exists_of_found hmatch hclose
      have hnested := ih rfl
      have hrest := ih' hr
      have hdisplay : sigilCount literal ≤ sigilCount expanded := by
        rw [Scan.literal_eq] at hliteral
        cases hok : coordinateLiteral expanded (offset + ends) with
        | error e =>
            rw [hok] at hliteral
            cases hliteral
        | ok made =>
            rw [hok] at hliteral
            obtain rfl := Except.ok.inj hliteral
            exact (tame_coordinateLiteral hok).sigils
      simp only [Task.sigils, Work.and, Work.below, Work.rewritten, hcoordinate, hbefore, hafter, htext,
        sigilCount_append, sigilCount_rewrite hname, sigilCount_shortcut hname] at hnested hrest ⊢
      omega
  | _ => cases hr

/-- Levels that suffice for a task. -/
def Task.enough : Task → Nat
  | .expand _ source => sigilCount source + 1
  | .passes _ _ source => sigilCount source
  | .apply _ _ source pos _ => sigilCount (source.drop pos)

/-- **One level more than sigils suffices**, because every level takes one away. -/
lemma Ends.lt_of_tooDeep (h : Ends rules levels task r w) (hr : r = .error (.fault .tooDeep)) :
    levels < task.enough := by
  induction h with
  | tooDeep => exact Nat.succ_pos _
  | expand _ ih => exact Nat.succ_lt_succ (ih hr)
  | done => cases hr
  | pass h _ _ ih' =>
      have hfirst := h.sigils
      have hlater := ih' hr
      have hnil : sigilCount [] = 0 := rfl
      simp only [Task.sigils, Task.enough, List.drop_zero] at hfirst hlater ⊢
      omega
  | passStops _ ih => exact ih hr
  | finished _ => cases hr
  | closingFaults _ hclose =>
      rw [Scan.closing_run] at hclose
      cases hclose
  | unbalanced _ _ => cases hr
  | nestedStops hmatch hclose _ ih =>
      obtain ⟨before, coordinate, after, hname, htext, -, hcoordinate, -⟩ :=
        exists_of_found hmatch hclose
      have hnested := ih hr
      simp only [Task.enough, hcoordinate, htext, sigilCount_append, sigilCount_shortcut hname]
        at hnested ⊢
      omega
  | @literalStops _ _ _ _ _ _ _ _ _ _ expanded _ _ _ _ _ hliteral _ =>
      rw [Scan.literal_eq, hr] at hliteral
      cases hok : coordinateLiteral expanded _ with
      | error e =>
          rw [hok] at hliteral
          cases hliteral
      | ok made =>
          rw [hok] at hliteral
          cases hliteral
  | rewrite hmatch hclose _ _ _ _ ih' =>
      obtain ⟨before, coordinate, after, hname, htext, -, -, hafter⟩ := exists_of_found hmatch hclose
      have hrest := ih' hr
      simp only [Task.enough, hafter, htext, sigilCount_append, sigilCount_shortcut hname] at hrest ⊢
      omega

/-! ## Every expansion ends -/

section

variable {nested : Int → Text → Except Failure Text}

/-- The first head behind `x` is found, and the search for its closing parenthesis begins behind it. -/
lemma found_of_first {rule : Rule} {x before : Text} {name : Option Text}
    (hbefore : EveryHead (fun rule' _ _ => rule' ≠ rule) x.getLast? before)
    (hprev : Rule.mayPrecede (lastOf x.getLast? before) = true) (hname : rule.Admits name)
    (after : Text) :
    rule.matchFrom (x ++ (before ++ rule.sigil :: (name.getD [] ++ '(' :: after))) x.length =
        some (x.length + before.length,
          (x ++ (before ++ rule.sigil :: (name.getD [] ++ ['(']))).length, name) ∧
      (x ++ (before ++ rule.sigil :: (name.getD [] ++ '(' :: after))).drop
        (x ++ (before ++ rule.sigil :: (name.getD [] ++ ['(']))).length = after := by
  have hends : x.length + before.length + (Rule.Head.mk before name after).length =
      (x ++ (before ++ rule.sigil :: (name.getD [] ++ ['(']))).length := by
    simp only [Rule.Head.length, List.length_append, List.length_cons, List.length_nil]
    omega
  have hsource : x ++ (before ++ rule.sigil :: (name.getD [] ++ '(' :: after)) =
      (x ++ (before ++ rule.sigil :: (name.getD [] ++ ['(']))) ++ after := by
    simp only [List.append_assoc, List.cons_append, List.nil_append]
  constructor
  · rw [Rule.matchFrom_eq, List.take_left, List.drop_left,
      Rule.findHead_first hbefore hprev hname, Option.map_some, hends]
  · rw [hsource, List.drop_left]

/-- A shortcut behind `x` whose parenthesis is closed, by position. -/
lemma found_of_closed {rule : Rule} {x before coordinate after source : Text} {name : Option Text}
    {ends : Nat} (hbefore : EveryHead (fun rule' _ _ => rule' ≠ rule) x.getLast? before)
    (hprev : Rule.mayPrecede (lastOf x.getLast? before) = true) (hname : rule.Admits name)
    (hclose : closingParen? (coordinate ++ ')' :: after) = some coordinate.length)
    (hsource : x ++ (before ++ rule.sigil :: (name.getD [] ++ '(' :: (coordinate ++ ')' :: after))) =
      source)
    (hends : (x ++ (before ++ rule.sigil :: (name.getD [] ++ ['(']))).length = ends) :
    rule.matchFrom source x.length = some (x.length + before.length, ends, name) ∧
      Scan.closing.run source ends [')'] = .ok (some (coordinate.length + ends)) ∧
      Scan.slice source x.length (x.length + before.length) = before ∧
      Scan.slice source ends (coordinate.length + ends) = coordinate := by
  obtain ⟨hmatch, hafter⟩ := found_of_first hbefore hprev hname (coordinate ++ ')' :: after)
  rw [hsource, hends] at hmatch hafter
  refine ⟨hmatch, ?_, ?_, ?_⟩
  · rw [Scan.closing_run, hafter, hclose]
    rfl
  · rw [Scan.slice, Nat.add_sub_cancel_left, ← hsource, List.drop_left, List.take_left]
  · rw [Scan.slice, Nat.add_sub_cancel, hafter, List.take_left]

/-- A pass goes on behind the first `x` of its text and ends, if the expansions of coordinates do. -/
lemma ends_apply
    (hnested : ∀ inner coordinate,
      ∃ w, Ends rules levels (.expand inner coordinate) (nested inner coordinate) w)
    (rule : Rule) (offset : Int) (x y out : Text) :
    ∃ w, Ends rules levels (.apply rule offset (x ++ y) x.length out)
      ((expandForm nested rule (offset + x.length) x.getLast? y).map (out ++ ·)) w := by
  generalize hprev : x.getLast? = prev
  induction shortcuts rule prev y generalizing x out with
  | @none prev y hnone =>
      have hmatch : rule.matchFrom (x ++ y) x.length = none := by
        rw [Rule.matchFrom_eq, List.take_left, List.drop_left, hprev,
          Rule.findHead_eq_none_iff.mpr hnone]
        rfl
      have hends : Ends rules levels (.apply rule offset (x ++ y) x.length out) _ _ := .finished hmatch
      rw [List.drop_left] at hends
      rw [expandForm_of_everyHead hnone]
      exact ⟨_, hends⟩
  | @opened prev before after name hbefore hprev' hname hopen =>
      subst hprev
      obtain ⟨hmatch, hafter⟩ := found_of_first hbefore hprev' hname after
      generalize (x ++ (before ++ rule.sigil :: (name.getD [] ++ ['(']))).length = ends at hmatch hafter
      rw [expandForm_opened hbefore hprev' hname hopen]
      generalize hhead : rule.sigil :: (name.getD [] ++ '(' :: after) = head at hmatch hafter ⊢
      have hclose := Scan.closing_run (x ++ (before ++ head)) ends
      rw [hafter, hopen] at hclose
      have hends : Ends rules levels (.apply rule offset (x ++ (before ++ head)) x.length out) _ _ :=
        .unbalanced hmatch hclose
      have hat : offset + (x.length + before.length : Nat) = offset + x.length + before.length := by
        omega
      have htext : Scan.slice (x ++ (before ++ head)) (x.length + before.length)
          (x.length + before.length + 60) = head.take 60 := by
        rw [Scan.slice, Nat.add_sub_cancel_left, ← List.append_assoc, ← List.length_append,
          List.drop_left]
      rw [hat, htext] at hends
      exact ⟨_, hends⟩
  | @closed prev before coordinate after name hbefore hprev' hname hclose hrest ih =>
      subst hprev
      generalize hopening : before ++ rule.sigil :: (name.getD [] ++ ['(']) = opening
      generalize hends : (x ++ opening).length = ends
      generalize hsource : x ++ (before ++ rule.sigil :: (name.getD [] ++ '(' ::
        (coordinate ++ ')' :: after))) = source
      obtain ⟨hmatch, hfound, hbegins, hcoordinate⟩ :=
        found_of_closed hbefore hprev' hname hclose hsource (hopening ▸ hends)
      have hinner : offset + ends = offset + x.length + opening.length := by
        rw [← hends, List.length_append]
        omega
      rw [← hopening] at hinner
      rw [expandForm_closed hbefore hprev' hname hclose hinner]
      obtain ⟨w, hexpand⟩ := hnested (offset + ends) coordinate
      cases hexpanded : nested (offset + ends) coordinate with
      | error e =>
          rw [hexpanded, ← hcoordinate] at hexpand
          exact ⟨_, .nestedStops hmatch hfound hexpand⟩
      | ok expanded =>
          rw [hexpanded, ← hcoordinate] at hexpand
          have hliteral := Scan.literal_eq expanded (offset + ends)
          simp only [bind, Except.bind]
          cases hdisplay : coordinateLiteral expanded (offset + ends) with
          | error e =>
              rw [hdisplay] at hliteral
              exact ⟨_, .literalStops hmatch hfound hexpand hliteral⟩
          | ok literal =>
              rw [hdisplay] at hliteral
              -- the pass goes on behind the closing parenthesis
              have hlength : (x ++ opening ++ coordinate ++ [')']).length =
                  coordinate.length + ends + 1 := by
                rw [← hends]
                simp only [List.length_append, List.length_singleton]
                omega
              have htext : (x ++ opening ++ coordinate ++ [')']) ++ after = source := by
                rw [← hsource, ← hopening]
                simp only [List.append_assoc, List.cons_append, List.nil_append]
              have hat : offset + ends + (coordinate ++ [')']).length =
                  offset + (x ++ opening ++ coordinate ++ [')']).length := by
                rw [hlength, List.length_append, List.length_singleton]
                omega
              obtain ⟨w', hrest⟩ := ih (x ++ opening ++ coordinate ++ [')'])
                (out ++ before ++ rule.rewrite name literal) List.getLast?_concat
              rw [hlength, htext] at hrest
              rw [hat, hlength]
              simp only [mapError_ok, map_append_append, ← List.append_assoc]
              generalize Except.map (out ++ before ++ rule.rewrite name literal ++ ·) _ = outcome
                at hrest ⊢
              rw [← hbegins] at hrest
              exact ⟨_, .rewrite hmatch hfound hexpand hliteral hrest⟩

/-- The passes of all forms end, if the expansions of coordinates do. -/
lemma ends_passes
    (hnested : ∀ inner coordinate,
      ∃ w, Ends rules levels (.expand inner coordinate) (nested inner coordinate) w)
    (pending : List Rule) (offset : Int) (source : Text) :
    ∃ w, Ends rules levels (.passes pending offset source)
      (pending.foldlM (fun t rule => expandForm nested rule offset none t) source) w := by
  induction pending generalizing source with
  | nil => exact ⟨_, .done⟩
  | cons rule pending ih =>
      obtain ⟨w, hpass⟩ : ∃ w, Ends rules levels (.apply rule offset source 0 [])
          (expandForm nested rule offset none source) w := by
        have hoffset : offset + (([] : Text).length : Int) = offset := Int.add_zero offset
        obtain ⟨w, hpass⟩ := ends_apply hnested rule offset [] source []
        rw [hoffset, map_nil_append] at hpass
        exact ⟨w, hpass⟩
      rw [List.foldlM_cons]
      cases hmade : expandForm nested rule offset none source with
      | error e =>
          rw [hmade] at hpass
          exact ⟨_, .passStops hpass⟩
      | ok made =>
          rw [hmade] at hpass
          obtain ⟨w', hlater⟩ := ih made
          exact ⟨_, .pass hpass hlater⟩

end

/-- **Every expansion ends**, by induction on the levels, and what `expandLevels` gives is the outcome. -/
theorem ends_expand (rules : List Rule) (levels : Nat) (offset : Int) (t : Text) :
    ∃ w, Ends rules levels (.expand offset t) (expandLevels rules levels offset t) w := by
  induction levels generalizing offset t with
  | zero => exact ⟨_, .tooDeep⟩
  | succ levels ih =>
      obtain ⟨w, hends⟩ := ends_passes ih rules offset t
      exact ⟨w, .expand hends⟩

/-- Where there are more levels than sigils, the limit does not matter. -/
lemma expandIn_of_sigilCount_lt {levels : Nat} {t : Text} (h : sigilCount t < levels)
    (rules : List Rule) : expandIn levels rules t = (expand rules t).mapError ofShortcut := by
  refine (expandIn_limited levels rules t).resolve_right fun hdeep => ?_
  obtain ⟨w, hends⟩ := ends_expand rules levels 0 t
  exact absurd (Nat.le_of_lt_succ (hends.lt_of_tooDeep hdeep)) (Nat.not_le_of_lt h)

/-- **Every expansion ends**, and in one way only: with a text, with what is wrong with a shortcut, or
because there are too few levels, no more than sigils. Each coordinate that is expanded on the way has
fewer sigils than the text of its shortcut; and if the expansion succeeds, every shortcut that was
rewritten has taken a sigil away. Nor has any scan of a text a fault: each finds what the walk over its
pieces finds. -/
theorem expand_ends (rules : List Rule) (levels : Nat) (t : Text) :
    (∃ w, Ends rules levels (.expand 0 t) (expandIn levels rules t) w ∧
      (∀ r w', Ends rules levels (.expand 0 t) r w' → r = expandIn levels rules t ∧ w' = w) ∧
      (∀ d ∈ w.descents, sigilCount d.coordinate < sigilCount d.source) ∧
      ∀ u, expandIn levels rules t = .ok u → sigilCount u + w.rewrites ≤ sigilCount t) ∧
    (expandIn levels rules t = (expand rules t).mapError Failure.shortcut ∨
      expandIn levels rules t = .error (.fault .tooDeep) ∧ levels ≤ sigilCount t) ∧
    Scan.spans.run t 0 [] = .ok (stringSpans t) ∧
    (Scan.uncommented t).run t 0 ([], 0) = .ok (withoutComments t) ∧
    (∀ i, Scan.closing.run t i [')'] = .ok ((closingParen? (t.drop i)).map (· + i))) ∧
    ∀ sep, (Scan.parts sep t).run t 0 ([], 0, 0) = .ok (splitTopLevel sep t) := by
  obtain ⟨w, hends⟩ := ends_expand rules levels 0 t
  rw [← expandIn] at hends
  refine ⟨⟨w, hends, fun r w' h => h.unique hends, hends.descends, fun u hu => ?_⟩, ?_,
    Scan.spans_run t, Scan.uncommented_run t, Scan.closing_run t, fun sep => Scan.parts_run sep t⟩
  · rw [hu] at hends
    exact hends.sigils
  · exact (expandIn_limited levels rules t).imp_right fun hdeep =>
      ⟨hdeep, Nat.le_of_lt_succ (hends.lt_of_tooDeep hdeep)⟩

/-- The passes over five hundred shortcuts in each other take more levels than there are. -/
theorem ends_nest : ∃ w, Ends Rule.all expansionLevels (.expand 0 (Fragment.nest 499).render)
    (.error (.fault .tooDeep)) w := by
  obtain ⟨w, hends⟩ := ends_expand Rule.all expansionLevels 0 (Fragment.nest 499).render
  rw [Fragment.expandLevels_nest (by decide) (by decide)] at hends
  exact ⟨w, hends⟩

end FormulaCube
