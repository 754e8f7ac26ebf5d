import FormulaCube.Proofs.Registry.Turns

/-!
# The registry as if its changes came one at a time

* `RegistrySystem.Linear` — the maps that were published, the answers to changes, their reports, and
  the answers to questions are those of the changes made one after the other, in the order in which
  the lock was taken.
* `RegistrySystem.linear_of_reachable` — so they are, whatever the order of the steps.
* `RegistrySystem.Move`, `RegistrySystem.play` — orders of steps that can be written down.
-/

namespace FormulaCube.RegistrySystem

variable {α : Type} {s : RegistrySystem α}

/-- **The changes come one at a time, in the order in which the lock was taken.** `s.mapAfter k` is
what the first `k` of them make of an empty map. -/
structure Linear (s : RegistrySystem α) : Prop where
  /-- No writer takes the lock twice. -/
  once : (s.turns.map (·.1)).Nodup
  /-- The map published at a turn is by the writer of that turn. It is what all changes up to that
  turn make, and what the one change makes of the map before: no entry of another writer is lost. -/
  published : ∀ (k i : Nat) (map : Directory α), s.maps[k]? = some (i, map) →
    ∃ change, s.turns[k]? = some (i, change) ∧ map = s.mapAfter (k + 1) ∧
      change.Makes (s.mapAfter k) map
  /-- The current map is the one published last, or empty. -/
  current : s.shared.directory = s.mapAfter s.maps.length
  /-- A change that is made was published at its turn. -/
  made : ∀ (i : Nat) (writer : Writer α) (found : Option α), s.writers[i]? = some writer →
    writer.phase = .done found →
    ∃ (k : Nat) (map : Directory α),
      s.turns[k]? = some (i, writer.change) ∧ s.maps[k]? = some (i, map)
  /-- Taking a name out answers with what it stood for at that turn. -/
  removed : ∀ (i : Nat) (writer : Writer α) (name : Text) (found : Option α),
    s.writers[i]? = some writer → writer.change = .remove name → writer.phase = .done found →
    ∃ k : Nat, s.turns[k]? = some (i, .remove name) ∧ found = (s.mapAfter k).find? name
  /-- The one report of a cube that was entered says whether the name was there at that turn. -/
  replaced : ∀ (i : Nat) (writer : Writer α) (name : Text) (cube : α),
    s.writers[i]? = some writer → writer.change = .register name cube → writer.reported = true →
    ∃ k : Nat, s.turns[k]? = some (i, .register name cube) ∧
      s.reportsOf i = [⟨"cube_registered".toList, .info, [("cube".toList, .str name),
        ("replaced".toList, .bool (decide (name ∈ (s.mapAfter k).names)))]⟩]
  /-- An answer is what the name stands for in one of the maps, none older than the question. -/
  seen : ∀ (q : Nat) (question : Question α) (found : Option α),
    s.questions[q]? = some question → question.phase = .answered found →
    ∃ k, question.since ≤ k ∧ k ≤ s.maps.length ∧ found = (s.mapAfter k).find? question.name

/-- A change that was made has its map. -/
lemma Made.exists_map {i : Nat} {change : Change α} {found : Option α} (h : s.Sound)
    (hmade : s.Made i change found) : ∃ (k : Nat) (map : Directory α), s.turns[k]? = some (i, change) ∧
      s.maps[k]? = some (i, map) ∧ found = change.found? (s.mapAfter k) := by
  obtain ⟨k, hk, hturn, hfound⟩ := hmade
  have hmap := List.getElem?_eq_getElem hk
  obtain ⟨change', hturn', -⟩ := h.published _ _ _ hmap
  have hi : (s.maps[k]).1 = i :=
    congrArg Prod.fst (Option.some.inj (hturn'.symm.trans hturn))
  exact ⟨k, (s.maps[k]).2, hturn, by rw [hmap, ← hi], hfound⟩

/-- Where a writer is done, its change was made. -/
lemma Sound.made (h : s.Sound) {i : Nat} {writer : Writer α} {found : Option α}
    (hwriter : s.writers[i]? = some writer) (hdone : writer.phase = .done found) :
    s.Made i writer.change found := by
  have hfits := h.fits i writer hwriter
  rw [Fits, hdone] at hfits
  exact hfits

/-- **The registry behaves as if its changes came one at a time.** Whatever the order in which any
number of writers and readers take their steps, every map that is published, every answer to a change,
every report and every answer to a question is the one of the changes made one after the other, in the
order in which the lock was taken. -/
theorem linear_of_reachable (hreach : s.Reachable) : s.Linear := by
  have h := sound_of_reachable hreach
  refine ⟨h.once, ?published, h.current, ?made, ?removed, ?replaced, ?seen⟩
  case published =>
    intro k i map hmap
    obtain ⟨change, hturn, rfl⟩ := h.published k i map hmap
    refine ⟨change, hturn, rfl, ?_⟩
    rw [mapAfter_succ hturn]
    exact Change.makes_apply (Directory.nodup_after _) change
  case made =>
    intro i writer found hwriter hdone
    obtain ⟨k, map, hturn, hmap, -⟩ := (h.made hwriter hdone).exists_map h
    exact ⟨k, map, hturn, hmap⟩
  case removed =>
    intro i writer name found hwriter hchange hdone
    obtain ⟨k, -, hturn, hfound⟩ := h.made hwriter hdone
    rw [hchange] at hturn hfound
    exact ⟨k, hturn, hfound⟩
  case replaced =>
    intro i writer name cube hwriter hchange hreported
    rcases h.told i writer hwriter with ⟨hfalse, -⟩ | ⟨-, found, hdone, htold⟩
    · rw [hreported] at hfalse
      cases hfalse
    · obtain ⟨k, -, hturn, hfound⟩ := h.made hwriter hdone
      rw [hchange] at hturn hfound htold
      refine ⟨k, hturn, htold.trans ?_⟩
      have hthere : found.isSome = decide (name ∈ (s.mapAfter k).names) := by
        rw [Bool.eq_iff_iff, decide_eq_true_iff, hfound]
        exact Directory.isSome_find?_iff
      rw [Change.event?, hthere]
      rfl
  case seen =>
    intro q question found hquestion hphase
    have hsees := (h.seen q question hquestion).2
    rw [hphase] at hsees
    exact hsees

/-! ## Orders that can be written down -/

/-- An entry of a schedule. -/
inductive Move (α : Type) where
  /-- A change is asked for. -/
  | begin (change : Change α)
  /-- A writer takes its next step. -/
  | advance (i : Nat)
  /-- A change that is made is reported. -/
  | report (i : Nat)
  /-- The cube of a name is asked for. -/
  | ask (name : Text)
  /-- A question takes its next step. -/
  | follow (q : Nat)

/-- What an entry leads to, if it can be done. -/
def move (s : RegistrySystem α) : Move α → Option (RegistrySystem α)
  | .begin change => some (s.begin change)
  | .advance i =>
    s.writers[i]?.bind fun writer =>
      (writer.phase.step i s.shared).map fun next => s.goOn i writer next.1 next.2
  | .report i =>
    match s.writers[i]? with
    | some ⟨change, .done found, false⟩ => some (s.report i ⟨change, .done found, false⟩ found)
    | _ => none
  | .ask name => some (s.ask name)
  | .follow q =>
    match s.questions[q]? with
    | some ⟨name, since, .fetching⟩ =>
      some (s.follow q ⟨name, since, .fetching⟩ (.looking s.shared.directory))
    | some ⟨name, since, .looking directory⟩ =>
      some (s.follow q ⟨name, since, .looking directory⟩ (.answered (directory.find? name)))
    | _ => none

/-- What a schedule leads to, if all its entries can be done. -/
def play : List (Move α) → RegistrySystem α → Option (RegistrySystem α)
  | [], s => some s
  | m :: moves, s => (s.move m).bind (play moves)

/-- An entry that can be done is a step. -/
lemma step_of_move {t : RegistrySystem α} (m : Move α) (h : s.move m = some t) : s.Step t := by
  cases m with
  | begin change =>
      cases h
      exact .begin s change
  | advance i =>
      obtain ⟨writer, hwriter, h⟩ := Option.bind_eq_some_iff.mp h
      obtain ⟨⟨phase, shared⟩, hstep, rfl⟩ := Option.map_eq_some_iff.mp h
      exact .advance s i writer phase shared hwriter hstep
  | report i =>
      rw [move] at h
      split at h
      · rename_i hwriter
        cases h
        exact .report s i _ _ hwriter rfl rfl
      · cases h
  | ask name =>
      cases h
      exact .ask s name
  | follow q =>
      rw [move] at h
      split at h
      · rename_i hquestion
        cases h
        exact .fetch s q _ hquestion rfl
      · rename_i hquestion
        cases h
        exact .look s q _ _ hquestion rfl
      · cases h

/-- **A schedule is an order of steps.** -/
lemma reachable_of_play (moves : List (Move α)) {t : RegistrySystem α} (hs : s.Reachable)
    (h : play moves s = some t) : t.Reachable := by
  induction moves generalizing s with
  | nil =>
      cases h
      exact hs
  | cons m moves ih =>
      obtain ⟨u, hu, h⟩ := Option.bind_eq_some_iff.mp h
      exact ih (hs.more (step_of_move m hu)) h

/-- Two cubes are entered under one name and a reader asks for it: it fetches the map between their
turns, the second writer asks for the lock while the first has it, and then the name is taken out. -/
def contended : List (Move Nat) :=
  [.begin (.register ['A'] 1), .begin (.register ['A'] 2), .advance 0, .advance 0, .advance 0,
    .ask ['A'], .advance 0, .follow 0, .advance 0, .advance 1, .report 0, .advance 1, .advance 1,
    .advance 1, .follow 0, .advance 1, .report 1, .begin (.remove ['A']), .advance 2, .advance 2,
    .advance 2, .advance 2, .advance 2, .report 2]

/-- What the schedule leads to. -/
def afterContended : RegistrySystem Nat := (play contended empty).getD empty

theorem contended_linear :
    afterContended.turns.map (·.1) = [0, 1, 2] ∧
    afterContended.maps = [(0, [(['A'], 1)]), (1, [(['A'], 2)]), (2, [])] ∧
    afterContended.questions.toList.map (·.since) = [0] ∧
    afterContended.Linear :=
  have hplay : play contended empty = some afterContended := rfl
  ⟨rfl, rfl, rfl, linear_of_reachable (reachable_of_play contended .empty hplay)⟩

end FormulaCube.RegistrySystem
