import FormulaCube.Proofs.Nesting.Playbook

/-!
# What is merged into the input

A cube is asked at a dictionary. Relative references merge their coordinates into it, in the cell that
runs and in those that are reached from it by relative references only. Nothing else changes it.

* `Entries.overlay` — a dictionary overlaid with entries.
* `World.withDict` — other entries in a dictionary; `updateWith_eq` — merging overlays.
* `Moment.merged?` — what a moment merges; `overlaid` — what all moments come to.
* `answer_input` — the dictionary after the evaluation.
-/

namespace FormulaCube

open Run Eval

/-! ## Merging -/

/-- A dictionary overlaid with entries, one after the other. -/
def Entries.overlay {α β : Type} (entries others : Entries α β) : Entries α β :=
  others.foldl (fun entries other => entries.insert other.1 other.2.1 other.2.2) entries

/-- Every entry stands under the key of what it is shown as. -/
def Filed (m : Memory) (entries : Entries Datum Datum) : Prop :=
  ∀ entry ∈ entries, entry.2.1.key m = .ok entry.1

/-- The world with other entries in the dictionary at an address. -/
def World.withDict (w : World) (address : Nat) (entries : Entries Datum Datum) : World :=
  { w with memory := w.memory.write address (.dict entries) }

section

variable {w : World} {input address : Nat} {entries others : Entries Datum Datum}

lemma read_withDict (h : w.memory.read input = some (.dict entries))
    (others : Entries Datum Datum) :
    (w.withDict input others).memory.read input = some (.dict others) :=
  w.memory.read_write_self _ (lt_size_of_read h)

/-- The entries that are there already change nothing. -/
lemma withDict_self (h : w.memory.read input = some (.dict entries)) :
    w.withDict input entries = w := by
  have hwrite : w.memory.objects.setIfInBounds input (.dict entries) = w.memory.objects := by
    obtain ⟨hsize, hget⟩ := Array.getElem?_eq_some_iff.mp h
    rw [← hget, Array.setIfInBounds, dif_pos hsize, Array.set_getElem_self]
  rw [World.withDict, Memory.write, hwrite]

/-- Only the entries that came last are there. -/
lemma withDict_withDict (w : World) (input : Nat) (entries others : Entries Datum Datum) :
    (w.withDict input entries).withDict input others = w.withDict input others := by
  rw [World.withDict, World.withDict, World.withDict, Memory.write, Memory.write, Memory.write,
    Array.setIfInBounds_setIfInBounds]

/-- An entry is put into the input, and nothing else changes. -/
lemma setItem_eq {index : Datum} {k : Key} (h : w.memory.read input = some (.dict entries))
    (hk : index.key w.memory = .ok k) (value : Datum) :
    setItem (.ref input) index value w =
      (.ok (), w.withDict input (entries.insert k index value)) := by
  rw [setItem, bind_of_ok (read_of_some h)]
  exact bind_of_ok (keyOf_of_ok hk)

/-- **Merging overlays** the input with the coordinate, and nothing else changes. -/
lemma updateWith_eq (h : w.memory.read input = some (.dict entries))
    (hcoordinate : w.memory.read address = some (.dict others)) (hfiled : Filed w.memory others) :
    updateWith input (.ref address) w = (.ok (), w.withDict input (entries.overlay others)) := by
  rw [updateWith, bind_of_ok (entriesOf?_of_read hcoordinate)]
  dsimp only
  clear hcoordinate
  -- The keys stay the same while the input changes.
  induction others generalizing w entries with
  | nil => exact congrArg (Prod.mk (Except.ok ())) (withDict_self h).symm
  | cons other others ih =>
      have hset := setItem_eq h (hfiled other List.mem_cons_self) other.2.2
      have hagrees := AgreesUpToDicts.write h (entries.insert other.1 other.2.1 other.2.2)
      have hrest := ih (read_withDict h _) fun later hlater =>
        hagrees.key_of_ok _ (hfiled later (List.mem_cons_of_mem _ hlater))
      rw [withDict_withDict] at hrest
      exact (bind_of_ok hset).trans hrest

end

/-! ## Moments -/

namespace Moment

/-- What a moment merges into the input that was given at the outermost level: the coordinate of a
relative reference of a cell that was reached by relative references only. -/
def merged? (moment : Moment) : Option (Entries Datum Datum) :=
  match moment.act with
  | .call r coordinate =>
    if moment.isDirect && r.isRelative then moment.world.memory.entries? coordinate else none
  | _ => none

/-- What back ends and code change is not the dictionary at an address, and the coordinates of
references are other dictionaries. -/
def Spares (input : Nat) (moment : Moment) : Prop :=
  match moment.act with
  | .compile after | .change after => ∀ entries,
      moment.world.memory.read input = some (.dict entries) →
        after.memory.read input = some (.dict entries)
  | .call _ coordinate => ∃ address entries, coordinate = .ref address ∧ address ≠ input ∧
      moment.world.memory.read address = some (.dict entries) ∧ Filed moment.world.memory entries
  | _ => True

end Moment

/-- A dictionary overlaid with what moments merge, in order. -/
def overlaid (entries : Entries Datum Datum) (all : List Moment) : Entries Datum Datum :=
  (all.filterMap Moment.merged?).foldl Entries.overlay entries

lemma overlaid_append (entries : Entries Datum Datum) (all others : List Moment) :
    overlaid entries (all ++ others) = overlaid (overlaid entries all) others := by
  rw [overlaid, List.filterMap_append, List.foldl_append]
  rfl

lemma overlaid_call {w : World} {address : Nat} {others : Entries Datum Datum}
    (h : w.memory.read address = some (.dict others)) (entries : Entries Datum Datum)
    (levels : List Level) (isDirect : Bool) (s : Surroundings) (r : Reference) (all : List Moment) :
    overlaid entries (⟨levels, isDirect, s, w, .call r (.ref address)⟩ :: all) =
      overlaid (if isDirect && r.isRelative then entries.overlay others else entries) all := by
  have hentries := Memory.entries?_eq_some.mpr ⟨address, rfl, h⟩
  rw [overlaid, List.filterMap_cons, Moment.merged?]
  dsimp only
  rw [hentries]
  cases isDirect && r.isRelative <;> rfl

/-! ## References -/

section

variable {input address : Nat} {isDirect : Bool} {s : Surroundings} {w : World}
  {entries others : Entries Datum Datum}

/-- Another dictionary may be changed. -/
lemma frees_of_ne {entries : Entries Datum Datum} (h : address ≠ input) :
    Frees (fun w => w.memory.read input = some (.dict entries)) address :=
  fun w _ hread _ => (w.memory.read_write_of_ne _ h).trans hread

/-- A reference that goes on with the input merges its coordinate, whether or not its target is
found. -/
lemma Reference.resolve_input (hdirect : s.input = .ref input ↔ isDirect = true)
    (hread : w.memory.read input = some (.dict entries))
    (hcoordinate : w.memory.read address = some (.dict others)) (hfiled : Filed w.memory others)
    (r : Reference) : (r.resolve s (.ref address) w).2.memory.read input = some (.dict
      (if isDirect && r.isRelative then entries.overlay others else entries)) := by
  by_cases hmerges : (isDirect && r.isRelative) = true
  · obtain ⟨hinput, hr⟩ := Bool.and_eq_true_iff.mp hmerges
    rw [if_pos hmerges]
    have hupdate := updateWith_eq hread hcoordinate hfiled
    exact resolve_merged (I := fun w => w.memory.read input = some (.dict _)) hr
      ((mergeInput_of_dict (hdirect.mpr hinput) hread _).trans hupdate) (read_withDict hread _)
  · rw [if_neg hmerges]
    refine resolve_preserves (robust_dict input entries).toTolerant (fun hr other hother => ?_) _ w hread
    refine frees_of_ne fun hsame => hmerges ?_
    rw [hr, Bool.and_true]
    exact hdirect.mp (hother.trans (congrArg Datum.ref hsame))

/-- What asking a cube does to the dictionary: it is overlaid with what the moments merge. -/
def Overlays (input : Nat) (machine : Machine) (codes : Codes) (ask : Ask) (below : Below) : Prop :=
  ∀ isDirect cube coordinate output w entries,
    (coordinate = .ref input ↔ isDirect = true) →
    w.memory.read input = some (.dict entries) →
    (∀ moment ∈ below isDirect cube coordinate output w,
      moment.Runs machine codes ∧ moment.Spares input) →
    (ask cube coordinate output w).2.memory.read input =
      some (.dict (overlaid entries (below isDirect cube coordinate output w)))

variable {machine : Machine} {codes : Codes} {ask : Ask} {below : Below}

lemma Reference.perform_input (hask : Overlays input machine codes ask below)
    (hdirect : s.input = .ref input ↔ isDirect = true)
    (hread : w.memory.read input = some (.dict entries)) (haddress : address ≠ input)
    (hcoordinate : w.memory.read address = some (.dict others)) (hfiled : Filed w.memory others)
    {r : Reference}
    (hall : ∀ moment ∈ r.moments below isDirect s (.ref address) w,
      moment.Runs machine codes ∧ moment.Spares input) :
    (r.perform ask s (.ref address) w).2.memory.read input = some (.dict (overlaid
      (if isDirect && r.isRelative then entries.overlay others else entries)
      (r.moments below isDirect s (.ref address) w))) := by
  have hresolved := r.resolve_input hdirect hread hcoordinate hfiled
  rw [r.perform_world]
  rw [Reference.moments] at hall ⊢
  rcases hrun : r.resolve s (.ref address) w with ⟨result, w₁⟩
  rw [hrun] at hresolved hall
  cases result with
  | error e => exact hresolved
  | ok target =>
      obtain ⟨cube, target⟩ := target
      cases cube with
      | cube number =>
          refine hask _ number target s.output w₁ _ ?_ hresolved hall
          have htarget : target = if r.isRelative then s.input else .ref address :=
            Reference.resolve_target hrun
          rw [htarget]
          cases r.isRelative with
          | true => rwa [if_pos rfl, Bool.and_true]
          | false =>
              rw [if_neg Bool.false_ne_true, Bool.and_false]
              exact iff_of_false (fun h => haddress (Datum.ref.inj h)) Bool.false_ne_true
      | _ => exact hresolved

/-! ## Code -/

/-- **While code runs**, the dictionary is overlaid with what the moments merge. -/
theorem Script.run_input {α : Type} (hask : Overlays input machine codes ask below)
    (hdirect : s.input = .ref input ↔ isDirect = true) (levels : List Level) (script : Script α)
    (hread : w.memory.read input = some (.dict entries))
    (hall : ∀ moment ∈ script.moments ask below levels isDirect s w,
      moment.Runs machine codes ∧ moment.Spares input) :
    (script.run ask s w).2.memory.read input =
      some (.dict (overlaid entries (script.moments ask below levels isDirect s w))) := by
  induction script generalizing w entries with
  | done result => exact hread
  | look next ih => exact ih w hread hall
  | change f next ih =>
      rw [moments] at hall ⊢
      obtain ⟨hchange, hrest⟩ := List.forall_mem_cons.mp hall
      exact ih (hchange.2 entries hread) hrest
  | call r coordinate next ih =>
      rw [moments] at hall ⊢
      obtain ⟨hcall, hrest⟩ := List.forall_mem_cons.mp hall
      obtain ⟨hbelow, hafter⟩ := List.forall_mem_append.mp hrest
      obtain ⟨address, others, rfl, hne, hcoordinate, hfiled⟩ := hcall.2
      have hperformed := Reference.perform_input hask hdirect hread hne hcoordinate hfiled hbelow
      rw [overlaid_call hcoordinate, overlaid_append]
      exact ih (r.perform ask s (.ref address) w).1 hperformed hafter

end

/-! ## Evaluations -/

section

variable {input : Nat} {entries : Entries Datum Datum}

/-- What comes before the code of a cell runs leaves dictionaries alone. -/
lemma enter_input (cube : Nat) (coordinate output : Datum) :
    Preserves (fun w => w.memory.read input = some (.dict entries))
      (enter cube coordinate output) := by
  have hrobust := robust_dict input entries
  refine .bind (hrobust.locate cube coordinate) fun found => ?_
  cases found with
  | inl value => exact .pure _
  | inr located =>
      have hadd (object : Object) : Preserves (fun w => w.memory.read input = some (.dict entries))
          (Eval.add object) := fun w h => hrobust.add object h
      have hlist : ∀ items, Object.dict entries ≠ .list items := fun _ => nofun
      exact .bind (.bind (hadd _) fun frame => .bind (pushFrame_preserves hlist frame)
        fun _ => .bind (hrobust.surround cube located.record located.input output)
          fun _ => .pure _) fun _ => .pure _

/-- The input of a cell that was entered is the dictionary exactly if the cube was asked at it. -/
lemma entered_input {cube : Nat} {coordinate output : Datum} {entered : Entered} {w w' : World}
    (hread : w.memory.read input = some (.dict entries))
    (henter : enter cube coordinate output w = (.ok (.inr entered), w')) :
    entered.surroundings.input = .ref input ↔ coordinate = .ref input := by
  rcases enter_cases w cube coordinate output with
    ⟨located, w₁, hlocate, hthen⟩ | ⟨result, hthen, hne⟩
  · obtain ⟨other, w₂, hentered, hpure⟩ := of_bind_ok (hthen.symm.trans henter)
    obtain rfl := Sum.inr.inj (Except.ok.inj (Prod.mk.inj hpure).1)
    have hspec := locate_spec hlocate
    rw [Located.enter_input hentered]
    obtain ⟨address, copy, _, hinput, -, hnew, -, -⟩ := hspec.copied
    constructor
    · -- The dictionary was there before, so it is no new one.
      intro hsame
      rcases hnew with hgiven | hnew
      · rw [← hgiven, hsame]
      · obtain rfl := Datum.ref.inj (hinput.symm.trans hsame)
        exact absurd (lt_size_of_read hread) (Nat.not_lt.mpr hnew)
    · rintro rfl
      refine hspec.given ?_
      rw [Memory.entries?_eq_some.mpr ⟨input, rfl, hread⟩]
      exact Option.some_ne_none _
  · exact absurd (Prod.mk.inj (hthen.symm.trans henter)).1 (hne entered)

variable {machine : Machine} {codes : Codes}

/-- What a level merges from when it is entered. -/
lemma Entered.overlays {ask : Ask} {below : Below} (hask : Overlays input machine codes ask below)
    {levels : List Level} {isDirect : Bool} {entered : Entered} {w : World}
    (hdirect : entered.surroundings.input = .ref input ↔ isDirect = true)
    (hread : w.memory.read input = some (.dict entries))
    (hall : ∀ moment ∈ entered.compiling machine levels isDirect w ++
      entered.running machine codes ask below levels isDirect w,
        moment.Runs machine codes ∧ moment.Spares input) :
    (match prepare machine entered w with
      | (.ok (artifact, method), w) => (machine.invoke ask artifact entered.surroundings method w).2
      | (_, w) => w).memory.read input =
      some (.dict (overlaid entries (entered.compiling machine levels isDirect w ++
        entered.running machine codes ask below levels isDirect w))) := by
  obtain ⟨hcompiling, hrunning⟩ := List.forall_mem_append.mp hall
  have hprepared : (prepare machine entered w).2.memory.read input = some (.dict entries) := by
    refine prepare_preserves (robust_dict input entries) hread fun w₁ after hcompile hread₁ => ?_
    rw [Entered.compiling, hcompile] at hcompiling
    exact (hcompiling _ List.mem_cons_self).2 entries hread₁
  have hnothing : overlaid entries (entered.compiling machine levels isDirect w) = entries := by
    rw [Entered.compiling]
    cases compilation? machine entered.compiler entered.cell w <;> rfl
  rw [overlaid_append, hnothing]
  rw [Entered.running] at hrunning ⊢
  rcases hprepare : prepare machine entered w with ⟨result, w₂⟩
  rw [hprepare] at hprepared hrunning
  rcases result with e | ⟨artifact, method⟩
  · exact hprepared
  · obtain ⟨hstart, hrest⟩ := List.forall_mem_cons.mp hrunning
    dsimp only
    rw [hstart.1 ask]
    exact Script.run_input hask hdirect levels _ hprepared hrest

/-- **An evaluation overlays** the dictionary with what its moments merge. -/
theorem answer_overlays (machine : Machine) (codes : Codes) (depth : Nat) (levels : List Level) :
    Overlays input machine codes (answer machine depth) (moments machine codes depth levels) := by
  induction depth generalizing levels with
  | zero => exact fun _ _ _ _ _ _ _ hread _ => hread
  | succ depth ih =>
      intro isDirect cube coordinate output w entries hdirect hread hall
      rw [answer_world]
      rw [moments] at hall ⊢
      have hentered := enter_input cube coordinate output w hread
      rcases henter : enter cube coordinate output w with ⟨result, w₁⟩
      rw [henter] at hentered hall
      rcases result with e | value | entered
      · exact hentered
      · exact hentered
      · exact popFrame_preserves (fun _ h => Object.noConfusion h)
          (Entered.overlays (ih _) ((entered_input hread henter).trans hdirect) hentered hall)

/-- A check that code refers to other cells with other dictionaries. -/
def Moment.refersBeside (input : Nat) (moment : Moment) : Bool :=
  match moment.act with
  | .call _ coordinate =>
    match coordinate, moment.world.memory.entries? coordinate with
    | .ref address, some entries => address != input && entries.all fun entry =>
      match entry.2.1.key moment.world.memory with
      | .ok k => k == entry.1
      | .error _ => false
    | _, _ => false
  | _ => true

/-- Playbooks that set nothing leave the dictionary alone. -/
lemma Moment.spares {moment : Moment} (hquiet : moment.isQuiet = true)
    (hundisturbed : moment.IsUndisturbed) (hbeside : moment.refersBeside input = true) :
    moment.Spares input := by
  rw [isQuiet] at hquiet
  rw [IsUndisturbed] at hundisturbed
  rw [refersBeside] at hbeside
  rw [Spares]
  cases hact : moment.act with
  | compile after =>
      rw [hact] at hquiet
      cases hquiet
  | change after =>
      rw [hact] at hundisturbed
      exact fun entries => hundisturbed (robust_dict input entries).toTolerant
  | call r coordinate =>
      rw [hact] at hbeside
      dsimp only at hbeside ⊢
      split at hbeside
      next address entries hentries =>
        obtain ⟨hne, hfiled⟩ := Bool.and_eq_true_iff.mp hbeside
        obtain ⟨other, hother, hread⟩ := Memory.entries?_eq_some.mp hentries
        obtain rfl := Datum.ref.inj hother
        refine ⟨address, entries, rfl, by simpa using hne, hread, fun entry hentry => ?_⟩
        have hkey := List.all_eq_true.mp hfiled entry hentry
        split at hkey
        next k hk => rw [hk, eq_of_beq hkey]
        next => cases hkey
      next => cases hbeside
  | _ => trivial

/-- The cube `P` refers to `A` with its input, to exactly a coordinate of `B`, and to one that is not
there, which fails; `A` and `B` refer to `C` with their inputs. -/
def mergingWorld : World := soloWorld
  [(['P'], [.relativeCube (.str ['A']) (axis ['x'] 1), .fixed (.str ['B']) (axis ['u'] 5),
      .relativeCube (.str []) (axis ['z'] 3)]),
    (['A'], [.relativeCube (.str ['C']) (axis ['y'] 2)]),
    (['B'], [.relativeCube (.str ['C']) (axis ['w'] 4)]), (['C'], [])]

end

end FormulaCube
