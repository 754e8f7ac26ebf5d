import FormulaCube.Proofs.Registry.System

/-!
# Writers take turns

Whatever the order of the steps, the private copy of a writer goes with the maps that were published.

**The invariant.** `RegistrySystem.Sound` says for each writer how its private copy goes with the maps
that were published (`RegistrySystem.Fits`): whoever works on a copy holds the lock, has the one turn
for which no map was published yet, and its copy is what the turns before it make.

**Others.** A writer takes steps only while nobody else holds the lock (`holder_of_step`), and so
cannot disturb one that works on a copy (`Fits.goOn`).

* `RegistrySystem.fits_goOn`, `RegistrySystem.published_goOn`, `RegistrySystem.current_goOn` — what
  the step of a writer does to its copy, to the maps, and to the current one.
* `RegistrySystem.sound_step`, `RegistrySystem.sound_of_reachable` — the invariant holds in every
  reachable state.
-/

namespace FormulaCube.RegistrySystem

variable {α : Type} {s : RegistrySystem α} {i j k : Nat} {writer other : Writer α}
  {phase : Writing α} {shared : Published α} {change : Change α} {found : Option α}

/-- The writer holds the lock and has the one turn for which no map was published yet. -/
def HasTurn (s : RegistrySystem α) (i : Nat) (change : Change α) : Prop :=
  s.shared.holder = some i ∧ s.turns.length = s.maps.length + 1 ∧
    s.turns[s.maps.length]? = some (i, change)

/-- The change has been published, and found this at its turn. -/
def Made (s : RegistrySystem α) (i : Nat) (change : Change α) (found : Option α) : Prop :=
  ∃ k, k < s.maps.length ∧ s.turns[k]? = some (i, change) ∧ found = change.found? (s.mapAfter k)

/-- Where a writer stands goes with the turns that were taken and the maps that were published. -/
def Fits (s : RegistrySystem α) (i : Nat) (writer : Writer α) : Prop :=
  match writer.phase with
  | .waiting change => change = writer.change ∧ ∀ turn ∈ s.turns, turn.1 ≠ i
  | .copying change => change = writer.change ∧ s.HasTurn i change
  | .changing change copy =>
    change = writer.change ∧ s.HasTurn i change ∧ copy = s.mapAfter s.maps.length
  | .publishing found copy =>
    s.HasTurn i writer.change ∧ found = writer.change.found? (s.mapAfter s.maps.length) ∧
      copy = writer.change.apply (s.mapAfter s.maps.length)
  | .releasing found =>
    s.shared.holder = some i ∧ s.turns.length = s.maps.length ∧ s.Made i writer.change found
  | .done found => s.Made i writer.change found

/-- What was reported for a writer. -/
def reportsOf (s : RegistrySystem α) (i : Nat) : List Event :=
  (s.reports.filter fun report => report.1 == i).map (·.2)

/-- What was reported for a writer goes with where it stands. -/
def Told (s : RegistrySystem α) (i : Nat) (writer : Writer α) : Prop :=
  writer.reported = false ∧ s.reportsOf i = [] ∨
    writer.reported = true ∧
      ∃ found, writer.phase = .done found ∧ s.reportsOf i = (writer.change.event? found).toList

/-- A question sees one of the maps that were published since it was asked, or the one before them. -/
def Sees (s : RegistrySystem α) (question : Question α) : Prop :=
  question.since ≤ s.maps.length ∧
  match question.phase with
  | .fetching => True
  | .looking directory =>
    ∃ k, question.since ≤ k ∧ k ≤ s.maps.length ∧ directory = s.mapAfter k
  | .answered found =>
    ∃ k, question.since ≤ k ∧ k ≤ s.maps.length ∧ found = (s.mapAfter k).find? question.name

/-- What holds in every reachable state. -/
structure Sound (s : RegistrySystem α) : Prop where
  /-- Each writer stands where it fits. -/
  fits : ∀ (i : Nat) (writer : Writer α), s.writers[i]? = some writer → s.Fits i writer
  /-- Where nobody holds the lock, every turn has its map. -/
  free : s.shared.holder = none → s.turns.length = s.maps.length
  /-- The map of a turn is what the turns up to it make. -/
  published : ∀ (k i : Nat) (map : Directory α), s.maps[k]? = some (i, map) →
    ∃ change, s.turns[k]? = some (i, change) ∧ map = s.mapAfter (k + 1)
  /-- The current map is what all turns with a map make. -/
  current : s.shared.directory = s.mapAfter s.maps.length
  /-- A writer has one turn. -/
  once : (s.turns.map (·.1)).Nodup
  /-- Only writers have turns. -/
  takers : ∀ turn ∈ s.turns, turn.1 < s.writers.size
  /-- What was reported goes with the writers. -/
  told : ∀ (i : Nat) (writer : Writer α), s.writers[i]? = some writer → s.Told i writer
  /-- Only for writers there are reports. -/
  reporters : ∀ report ∈ s.reports, report.1 < s.writers.size
  /-- Each question sees a published map. -/
  seen : ∀ (q : Nat) (question : Question α), s.questions[q]? = some question → s.Sees question

/-- No map was published without a turn. -/
lemma Sound.maps_le_turns (h : s.Sound) : s.maps.length ≤ s.turns.length := by
  by_contra hlt
  have hmap := List.getElem?_eq_getElem (Nat.lt_of_not_le hlt)
  obtain ⟨change, hturn, -⟩ := h.published _ _ _ hmap
  rw [List.getElem?_eq_none (Nat.le_refl _)] at hturn
  cases hturn

/-! ## The next turn -/

/-- The first turns stay when turns are added. -/
lemma mapAfter_goOn (hk : k ≤ s.turns.length) :
    (s.goOn i writer phase shared).mapAfter k = s.mapAfter k := by
  rw [mapAfter, mapAfter, goOn, List.take_append_of_le_length hk]

/-- One turn more is one change more. -/
lemma mapAfter_succ (hturn : s.turns[k]? = some (i, change)) :
    s.mapAfter (k + 1) = change.apply (s.mapAfter k) := by
  rw [mapAfter, List.take_add_one, hturn, List.map_append]
  exact Directory.after_concat _ _

lemma getElem?_turns_goOn {turn : Nat × Change α} (hturn : s.turns[k]? = some turn) :
    (s.goOn i writer phase shared).turns[k]? = some turn := by
  have hk : k < s.turns.length := (List.getElem?_eq_some_iff.mp hturn).1
  rw [goOn, List.getElem?_append_left hk, hturn]

lemma maps_le_maps_goOn : s.maps.length ≤ (s.goOn i writer phase shared).maps.length := by
  rw [goOn, List.length_append]
  exact Nat.le_add_right _ _

lemma turns_goOn (h : writer.phase.turn i = []) :
    (s.goOn i writer phase shared).turns = s.turns := by
  rw [goOn, h, List.append_nil]

lemma maps_goOn (h : writer.phase.map i = []) : (s.goOn i writer phase shared).maps = s.maps := by
  rw [goOn, h, List.append_nil]

/-- Who neither takes the lock nor publishes keeps its turn. -/
lemma HasTurn.goOn (h : s.HasTurn i change) (hholder : shared.holder = s.shared.holder)
    (hturn : writer.phase.turn i = []) (hmap : writer.phase.map i = []) :
    (s.goOn i writer phase shared).HasTurn i change := by
  rw [HasTurn, turns_goOn hturn, maps_goOn hmap]
  exact ⟨hholder.trans h.1, h.2⟩

/-- A change that was published stays published. -/
lemma Made.goOn (h : s.Made j change found) : (s.goOn i writer phase shared).Made j change found := by
  obtain ⟨k, hk, hturn, hfound⟩ := h
  have hlt : k < s.turns.length := (List.getElem?_eq_some_iff.mp hturn).1
  exact ⟨k, Nat.lt_of_lt_of_le hk maps_le_maps_goOn, getElem?_turns_goOn hturn,
    by rw [mapAfter_goOn (Nat.le_of_lt hlt), hfound]⟩

lemma Sees.goOn {question : Question α} (hle : s.maps.length ≤ s.turns.length)
    (h : s.Sees question) : (s.goOn i writer phase shared).Sees question := by
  obtain ⟨hsince, hphase⟩ := h
  refine ⟨Nat.le_trans hsince maps_le_maps_goOn, ?_⟩
  cases hq : question.phase with
  | fetching => trivial
  | looking directory =>
      rw [hq] at hphase
      obtain ⟨k, hfrom, hto, rfl⟩ := hphase
      exact ⟨k, hfrom, Nat.le_trans hto maps_le_maps_goOn,
        (mapAfter_goOn (Nat.le_trans hto hle)).symm⟩
  | answered found =>
      rw [hq] at hphase
      obtain ⟨k, hfrom, hto, rfl⟩ := hphase
      exact ⟨k, hfrom, Nat.le_trans hto maps_le_maps_goOn,
        by rw [mapAfter_goOn (Nat.le_trans hto hle)]⟩

/-! ## Writers do not disturb one another -/

/-- A turn is taken by the writer whose step it is. -/
lemma fst_of_mem_turn {turn : Nat × Change α} (h : turn ∈ phase.turn i) : turn.1 = i := by
  cases phase with
  | waiting change => rw [List.mem_singleton.mp h]
  | _ => cases h

/-- Whoever takes a step finds the lock free or holds it. -/
lemma holder_of_step (hfits : s.Fits i writer)
    (hstep : writer.phase.step i s.shared = some (phase, shared)) :
    s.shared.holder = none ∨ s.shared.holder = some i := by
  rw [Fits] at hfits
  cases hphase : writer.phase with
  | waiting change =>
      rw [hphase, Writing.step] at hstep
      cases hholder : s.shared.holder with
      | none => exact .inl rfl
      | some j => rw [hholder] at hstep; cases hstep
  | copying change => rw [hphase] at hfits; exact .inr hfits.2.1
  | changing change copy => rw [hphase] at hfits; exact .inr hfits.2.1.1
  | publishing found copy => rw [hphase] at hfits; exact .inr hfits.1.1
  | releasing found => rw [hphase] at hfits; exact .inr hfits.1
  | done found => rw [hphase] at hstep; cases hstep

/-- **A step leaves every other writer where it fits.** One that works on a copy holds the lock, and
then nobody else takes a step. -/
lemma Fits.goOn (hij : i ≠ j) (hholder : s.shared.holder = none ∨ s.shared.holder = some i)
    (h : s.Fits j other) : (s.goOn i writer phase shared).Fits j other := by
  have hfree : s.shared.holder ≠ some j := by
    intro hj
    rw [hj] at hholder
    rcases hholder with hholder | hholder
    · cases hholder
    · exact hij (Option.some.inj hholder).symm
  rw [Fits] at h ⊢
  cases hphase : other.phase with
  | waiting change =>
      rw [hphase] at h
      refine ⟨h.1, fun turn hturn => ?_⟩
      rcases List.mem_append.mp hturn with hturn | hturn
      · exact h.2 turn hturn
      · rw [fst_of_mem_turn hturn]
        exact hij
  | copying change => rw [hphase] at h; exact absurd h.2.1 hfree
  | changing change copy => rw [hphase] at h; exact absurd h.2.1.1 hfree
  | publishing found copy => rw [hphase] at h; exact absurd h.1.1 hfree
  | releasing found => rw [hphase] at h; exact absurd h.1 hfree
  | done found => rw [hphase] at h; exact h.goOn

/-- **A step leaves its writer where it fits.** -/
lemma fits_goOn (h : s.Sound) (hwriter : s.writers[i]? = some writer)
    (hstep : writer.phase.step i s.shared = some (phase, shared)) :
    (s.goOn i writer phase shared).Fits i { writer with phase := phase } := by
  have hfits := h.fits i writer hwriter
  obtain ⟨change, stand, reported⟩ := writer
  cases stand with
  | waiting change' =>
      obtain ⟨rfl, -⟩ := hfits
      rw [Writing.step] at hstep
      cases hholder : s.shared.holder with
      | some j => rw [hholder] at hstep; cases hstep
      | none =>
          rw [hholder] at hstep
          cases hstep
          refine ⟨rfl, rfl, ?_, ?_⟩ <;> rw [maps_goOn rfl, ← h.free hholder]
          · exact List.length_append
          · exact List.getElem?_concat_length
  | copying change' =>
      obtain ⟨rfl, hturn⟩ := hfits
      cases hstep
      refine ⟨rfl, hturn.goOn rfl rfl rfl, ?_⟩
      rw [maps_goOn rfl, mapAfter_goOn h.maps_le_turns]
      exact h.current
  | changing change' copy =>
      obtain ⟨rfl, hturn, rfl⟩ := hfits
      cases hstep
      refine ⟨hturn.goOn rfl rfl rfl, ?_, ?_⟩ <;> rw [maps_goOn rfl, mapAfter_goOn h.maps_le_turns]
  | publishing found copy =>
      obtain ⟨⟨hholder, hlength, hturn⟩, hfound, -⟩ := hfits
      cases hstep
      have hlength' : s.turns.length = (s.maps ++ [(i, copy)]).length := by
        rw [List.length_append]
        exact hlength
      refine ⟨hholder, ?_, s.maps.length, ?_, ?_, ?_⟩
      · rw [turns_goOn rfl]
        exact hlength'
      · exact Nat.lt_of_lt_of_eq (Nat.lt_of_lt_of_eq (Nat.lt_succ_self _) hlength.symm) hlength'
      · exact getElem?_turns_goOn hturn
      · rw [mapAfter_goOn h.maps_le_turns]
        exact hfound
  | releasing found =>
      obtain ⟨hholder, hlength, hmade⟩ := hfits
      cases hstep
      exact hmade.goOn
  | done found => cases hstep

/-- Where the lock is free after a step, every turn has its map. -/
lemma free_goOn (h : s.Sound) (hwriter : s.writers[i]? = some writer)
    (hstep : writer.phase.step i s.shared = some (phase, shared)) (hfree : shared.holder = none) :
    (s.goOn i writer phase shared).turns.length = (s.goOn i writer phase shared).maps.length := by
  have hfits := h.fits i writer hwriter
  obtain ⟨change, stand, reported⟩ := writer
  cases stand with
  | waiting change' =>
      rw [Writing.step] at hstep
      cases hholder : s.shared.holder with
      | some j => rw [hholder] at hstep; cases hstep
      | none => rw [hholder] at hstep; cases hstep; cases hfree
  | copying change' => cases hstep; cases hfits.2.1.symm.trans hfree
  | changing change' copy => cases hstep; cases hfits.2.1.1.symm.trans hfree
  | publishing found copy => cases hstep; cases hfits.1.1.symm.trans hfree
  | releasing found =>
      rw [turns_goOn rfl, maps_goOn rfl]
      exact hfits.2.1
  | done found => cases hstep

/-- **What a step publishes is what the turns up to that of its writer make.** -/
lemma published_goOn (h : s.Sound) (hwriter : s.writers[i]? = some writer) {k j : Nat}
    {map : Directory α} (hmap : (s.goOn i writer phase shared).maps[k]? = some (j, map)) :
    ∃ change, (s.goOn i writer phase shared).turns[k]? = some (j, change) ∧
      map = (s.goOn i writer phase shared).mapAfter (k + 1) := by
  have hfits := h.fits i writer hwriter
  by_cases hk : k < s.maps.length
  · rw [goOn, List.getElem?_append_left hk] at hmap
    obtain ⟨change, hturn, rfl⟩ := h.published k j map hmap
    exact ⟨change, getElem?_turns_goOn hturn,
      (mapAfter_goOn (List.getElem?_eq_some_iff.mp hturn).1).symm⟩
  · -- the map is the new one, and so its writer was about to publish
    obtain ⟨change, stand, reported⟩ := writer
    have hlast : k < (s.goOn i ⟨change, stand, reported⟩ phase shared).maps.length :=
      (List.getElem?_eq_some_iff.mp hmap).1
    cases stand with
    | publishing found copy =>
        obtain ⟨⟨-, hlength, hturn⟩, -, hcopy⟩ := hfits
        have hlength' : (s.maps ++ [(i, copy)]).length = s.maps.length + 1 := List.length_append
        obtain rfl : k = s.maps.length :=
          Nat.le_antisymm (Nat.le_of_lt_succ (Nat.lt_of_lt_of_eq hlast hlength')) (Nat.le_of_not_lt hk)
        obtain ⟨rfl, rfl⟩ : i = j ∧ copy = map := by
          rw [goOn, Writing.map, List.getElem?_concat_length] at hmap
          exact Prod.mk.inj (Option.some.inj hmap)
        refine ⟨change, getElem?_turns_goOn hturn, ?_⟩
        rw [mapAfter_goOn (Nat.le_of_eq hlength.symm), mapAfter_succ hturn]
        exact hcopy
    | _ =>
        rw [maps_goOn rfl] at hlast
        exact absurd hlast hk

/-- The current map after a step is what all turns with a map make. -/
lemma current_goOn (h : s.Sound) (hwriter : s.writers[i]? = some writer)
    (hstep : writer.phase.step i s.shared = some (phase, shared)) :
    shared.directory =
      (s.goOn i writer phase shared).mapAfter (s.goOn i writer phase shared).maps.length := by
  have hfits := h.fits i writer hwriter
  obtain ⟨change, stand, reported⟩ := writer
  cases stand with
  | publishing found copy =>
      obtain ⟨⟨-, hlength, hturn⟩, -, hcopy⟩ := hfits
      cases hstep
      have hlength' : (s.maps ++ [(i, copy)]).length = s.maps.length + 1 := List.length_append
      refine hcopy.trans ?_
      rw [← mapAfter_succ hturn, ← hlength', mapAfter_goOn]
      · rfl
      · exact Nat.le_of_eq (hlength'.trans hlength.symm)
  | waiting change' =>
      rw [maps_goOn rfl, mapAfter_goOn h.maps_le_turns, ← h.current]
      rw [Writing.step] at hstep
      cases hholder : s.shared.holder with
      | some j => rw [hholder] at hstep; cases hstep
      | none => rw [hholder] at hstep; cases hstep; rfl
  | done found => cases hstep
  | _ =>
      cases hstep
      rw [maps_goOn rfl, mapAfter_goOn h.maps_le_turns, ← h.current]

/-- A writer has one turn, also after a step. -/
lemma once_goOn (h : s.Sound) (hwriter : s.writers[i]? = some writer) :
    ((s.goOn i writer phase shared).turns.map (·.1)).Nodup := by
  have hfits := h.fits i writer hwriter
  obtain ⟨change, stand, reported⟩ := writer
  cases stand with
  | waiting change' =>
      have hnew : i ∉ s.turns.map (·.1) := by
        intro hi
        obtain ⟨turn, hturn, rfl⟩ := List.mem_map.mp hi
        exact hfits.2 turn hturn rfl
      rw [goOn, Writing.turn, List.map_append]
      exact List.nodup_append.mpr ⟨h.once, List.nodup_singleton _, fun a ha b hb => by
        rw [List.mem_singleton.mp hb]
        rintro rfl
        exact hnew ha⟩
  | _ =>
      rw [turns_goOn rfl]
      exact h.once

/-! ## The invariant -/

/-- Whoever is asked for last comes after the others. -/
lemma getElem?_push {β : Type} {xs : Array β} {x y : β} {n : Nat} (h : (xs.push x)[n]? = some y) :
    xs[n]? = some y ∨ n = xs.size ∧ y = x := by
  rw [Array.getElem?_push] at h
  split at h
  · rename_i hn
    exact .inr ⟨hn, (Option.some.inj h).symm⟩
  · exact .inl h

/-- One of them goes on, and the others stay. -/
lemma getElem?_set {β : Type} {xs : Array β} {x x' y : β} {n m : Nat} (hx : xs[n]? = some x)
    (h : (xs.setIfInBounds n x')[m]? = some y) : n = m ∧ y = x' ∨ n ≠ m ∧ xs[m]? = some y := by
  rw [Array.getElem?_setIfInBounds] at h
  split at h
  · rename_i hnm
    rw [if_pos (Array.getElem?_eq_some_iff.mp hx).1] at h
    exact .inl ⟨hnm, (Option.some.inj h).symm⟩
  · rename_i hnm
    exact .inr ⟨hnm, h⟩

lemma not_done_of_step (hstep : writer.phase.step i s.shared = some (phase, shared)) :
    writer.phase ≠ .done found := by
  intro hdone
  rw [hdone] at hstep
  cases hstep

lemma Sound.goOn (h : s.Sound) (hwriter : s.writers[i]? = some writer)
    (hstep : writer.phase.step i s.shared = some (phase, shared)) :
    (s.goOn i writer phase shared).Sound where
  fits j other hother := by
    rcases getElem?_set hwriter hother with ⟨rfl, rfl⟩ | ⟨hij, hother⟩
    · exact fits_goOn h hwriter hstep
    · exact (h.fits j other hother).goOn hij (holder_of_step (h.fits i writer hwriter) hstep)
  free := free_goOn h hwriter hstep
  published _ _ _ := published_goOn h hwriter
  current := current_goOn h hwriter hstep
  once := once_goOn h hwriter
  takers turn hturn := by
    rw [RegistrySystem.goOn, Array.size_setIfInBounds]
    rcases List.mem_append.mp hturn with hturn | hturn
    · exact h.takers turn hturn
    · rw [fst_of_mem_turn hturn]
      exact (Array.getElem?_eq_some_iff.mp hwriter).1
  told j other hother := by
    rcases getElem?_set hwriter hother with ⟨rfl, rfl⟩ | ⟨-, hother⟩
    · rcases h.told i writer hwriter with htold | ⟨-, found, hdone, -⟩
      · exact .inl htold
      · exact absurd hdone (not_done_of_step hstep)
    · exact h.told j other hother
  reporters report hreport := by
    rw [RegistrySystem.goOn, Array.size_setIfInBounds]
    exact h.reporters report hreport
  seen q question hquestion := (h.seen q question hquestion).goOn h.maps_le_turns

lemma Sound.begin (h : s.Sound) (change : Change α) : (s.begin change).Sound where
  fits i writer hwriter := by
    rcases getElem?_push hwriter with hwriter | ⟨rfl, rfl⟩
    · exact h.fits i writer hwriter
    · exact ⟨rfl, fun turn hturn => Nat.ne_of_lt (h.takers turn hturn)⟩
  free := h.free
  published := h.published
  current := h.current
  once := h.once
  takers turn hturn := by
    rw [RegistrySystem.begin, Array.size_push]
    exact Nat.lt_succ_of_lt (h.takers turn hturn)
  told i writer hwriter := by
    rcases getElem?_push hwriter with hwriter | ⟨rfl, rfl⟩
    · exact h.told i writer hwriter
    · refine .inl ⟨rfl, ?_⟩
      rw [reportsOf, List.filter_eq_nil_iff.mpr, List.map_nil]
      intro report hreport
      rw [beq_iff_eq]
      exact Nat.ne_of_lt (h.reporters report hreport)
  reporters report hreport := by
    rw [RegistrySystem.begin, Array.size_push]
    exact Nat.lt_succ_of_lt (h.reporters report hreport)
  seen := h.seen

/-- A report is about the writer that it is made for. -/
lemma reportsOf_report :
    (s.report i writer found).reportsOf j =
      s.reportsOf j ++ if i = j then (writer.change.event? found).toList else [] := by
  rw [reportsOf, report, List.filter_append, List.map_append]
  congr 1
  cases writer.change.event? found with
  | none => exact (ite_self _).symm
  | some event =>
      rw [Option.map_some, Option.toList_some, Option.toList_some, List.filter_cons]
      by_cases hij : i = j
      · rw [if_pos (beq_iff_eq.mpr hij), if_pos hij]
        rfl
      · rw [if_neg (fun h => hij (beq_iff_eq.mp h)), if_neg hij]
        rfl

lemma Sound.report (h : s.Sound) (hwriter : s.writers[i]? = some writer)
    (hdone : writer.phase = .done found) (hreported : writer.reported = false) :
    (s.report i writer found).Sound where
  fits j other hother := by
    rcases getElem?_set hwriter hother with ⟨rfl, rfl⟩ | ⟨-, hother⟩
    · exact h.fits i writer hwriter
    · exact h.fits j other hother
  free := h.free
  published := h.published
  current := h.current
  once := h.once
  takers turn hturn := by
    rw [RegistrySystem.report, Array.size_setIfInBounds]
    exact h.takers turn hturn
  told j other hother := by
    rw [Told, reportsOf_report]
    rcases getElem?_set hwriter hother with ⟨rfl, rfl⟩ | ⟨hij, hother⟩
    · have hnone : s.reportsOf i = [] := by
        rcases h.told i writer hwriter with ⟨-, hnone⟩ | ⟨htrue, -⟩
        · exact hnone
        · rw [hreported] at htrue
          cases htrue
      refine .inr ⟨rfl, found, hdone, ?_⟩
      rw [if_pos rfl, hnone, List.nil_append]
    · rw [if_neg hij, List.append_nil]
      exact h.told j other hother
  reporters report hreport := by
    rw [RegistrySystem.report, Array.size_setIfInBounds]
    rcases List.mem_append.mp hreport with hreport | hreport
    · exact h.reporters report hreport
    · obtain ⟨event, -, rfl⟩ := Option.map_eq_some_iff.mp (Option.mem_toList.mp hreport)
      exact (Array.getElem?_eq_some_iff.mp hwriter).1
  seen := h.seen

lemma Sound.ask (h : s.Sound) (name : Text) : (s.ask name).Sound :=
  { h with
    seen := fun q question hquestion => by
      rcases getElem?_push hquestion with hquestion | ⟨-, rfl⟩
      · exact h.seen q question hquestion
      · exact ⟨Nat.le_refl _, trivial⟩ }

lemma Sound.follow {q : Nat} {question : Question α} {asking : Asking α} (h : s.Sound)
    (hquestion : s.questions[q]? = some question)
    (hsees : s.Sees { question with phase := asking }) : (s.follow q question asking).Sound :=
  { h with
    seen := fun r other hother => by
      rcases getElem?_set hquestion hother with ⟨-, rfl⟩ | ⟨-, hother⟩
      · exact hsees
      · exact h.seen r other hother }

lemma sound_empty : (empty : RegistrySystem α).Sound where
  fits := nofun
  free _ := rfl
  published := nofun
  current := rfl
  once := List.nodup_nil
  takers := nofun
  told := nofun
  reporters := nofun
  seen := nofun

/-- **Every step keeps the invariant.** -/
lemma sound_step {t : RegistrySystem α} (h : s.Sound) (hstep : s.Step t) : t.Sound := by
  cases hstep with
  | begin change => exact h.begin change
  | advance i writer phase shared hwriter hstep => exact h.goOn hwriter hstep
  | report i writer found hwriter hdone hreported => exact h.report hwriter hdone hreported
  | ask name => exact h.ask name
  | fetch q question hquestion hphase =>
      have hsince := (h.seen q question hquestion).1
      exact h.follow hquestion ⟨hsince, s.maps.length, hsince, Nat.le_refl _, h.current⟩
  | look q question directory hquestion hphase =>
      obtain ⟨hsince, hsees⟩ := h.seen q question hquestion
      rw [hphase] at hsees
      obtain ⟨k, hfrom, hto, hdirectory⟩ := hsees
      exact h.follow hquestion ⟨hsince, k, hfrom, hto, by rw [hdirectory]⟩

lemma sound_of_reachable (h : s.Reachable) : s.Sound := by
  induction h with
  | empty => exact sound_empty
  | more _ hstep ih => exact sound_step ih hstep

end FormulaCube.RegistrySystem
