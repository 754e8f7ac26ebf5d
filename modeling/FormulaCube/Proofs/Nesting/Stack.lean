import Mathlib.Data.List.Forall2
import FormulaCube.Proofs.Nesting.Playbook

/-!
# The stack of nested evaluations

The stack is a list of frames, one for each cell that is being evaluated, with the name of its cube and
a copy of its input. A level is put on it before the code of a cell runs and taken off however that
ends.

* `LeavesStack` — the stack is left alone: the list, the frames, and the copies of inputs.
* `snapshots` — the copies of inputs that the frames hold.
* `StackShows` — the stack in terms of addresses.
* `answer_stack` — the stack during an evaluation and after it.
-/

namespace FormulaCube

open Run Eval

/-! ## The stack -/

/-- An address at which a part of the stack is kept: the list, a frame, or the copy it holds. -/
def OnStack (w : World) (address : Nat) : Prop :=
  address = w.stack ∨ ∃ items frame, w.memory.read w.stack = some (.list items) ∧
    .ref frame ∈ items ∧ (address = frame ∨ ∃ cube,
      w.memory.read frame = some (.frame cube (.ref address)))

/-- The stack is the same in both worlds, with all its parts; what can be gone through only once is
none. -/
structure LeavesStack (w w' : World) : Prop where
  /-- Where it is. -/
  stack : w'.stack = w.stack
  /-- Its parts. -/
  objects : ∀ address object, OnStack w address → w.memory.read address = some object →
    (∀ type items, object ≠ .iterator type items) → w'.memory.read address = some object

/-- The copies of inputs that the frames on the stack hold. -/
def snapshots (w : World) : List Datum :=
  match w.memory.read w.stack with
  | some (.list items) => items.filterMap fun item =>
    match item with
    | .ref frame =>
      match w.memory.read frame with
      | some (.frame _ copy) => some copy
      | _ => none
    | _ => none
  | _ => []

/-- A frame for a level; it holds the input as it was if that is intact. -/
def IsFrame (m : Memory) (intact : Prop) (frame : Datum) (level : Level) : Prop :=
  ∃ address copy, frame = .ref address ∧
    m.read address = some (.frame (.word level.cube) (.ref copy)) ∧
    (intact → m.read copy = some (.dict level.input))

namespace Moment

/-- Back ends and code leave the stack alone. -/
def LeavesStack (moment : Moment) : Prop :=
  match moment.act with
  | .compile after | .change after => FormulaCube.LeavesStack moment.world after
  | _ => True

/-- The code refers to a cell at exactly the copy that a frame on the stack holds. -/
def HandsSnapshot (moment : Moment) : Prop :=
  match moment.act with
  | .call r coordinate => r.isRelative = false ∧ coordinate ∈ snapshots moment.world
  | _ => False

end Moment

/-! ## Frames by their addresses -/

/-- A frame by its address and that of the copy it holds, with its level. -/
structure Frame where
  /-- Its address. -/
  address : Nat
  /-- That of the copy. -/
  copy : Nat
  /-- The level. -/
  level : Level

/-- The stack, as a list of frames; `intact` says whether the copies are as they were. -/
structure StackShows (stack : Nat) (intact : Prop) (frames : List Frame) (w : World) : Prop where
  /-- Where it is. -/
  place : w.stack = stack
  /-- The list. -/
  list : w.memory.read stack = some (.list (frames.map fun frame => .ref frame.address))
  /-- The frames. -/
  held : ∀ frame ∈ frames, w.memory.read frame.address =
    some (.frame (.word frame.level.cube) (.ref frame.copy))
  /-- The copies. -/
  copies : intact → ∀ frame ∈ frames, w.memory.read frame.copy = some (.dict frame.level.input)

/-- Something is none of the copies, if these are to stay intact. -/
def Apart (intact : Prop) (frames : List Frame) (d : Datum) : Prop :=
  intact → ∀ frame ∈ frames, d ≠ .ref frame.copy

section

variable {stack : Nat} {intact : Prop} {frames : List Frame} {w w' : World}

/-- Looking things up does not change the stack. -/
lemma robust_stackShows : Robust (StackShows stack intact frames) := by
  have hall := (robust_stack stack).and <|
    (robust_read stack (.list (frames.map fun frame => .ref frame.address))
      fun _ _ => nofun).and <|
    (Robust.all fun frame => Robust.all fun (_ : frame ∈ frames) =>
      robust_read frame.address (.frame (.word frame.level.cube) (.ref frame.copy))
        fun _ _ => nofun).and <|
    Robust.all fun (_ : intact) => Robust.all fun frame => Robust.all fun (_ : frame ∈ frames) =>
      robust_dict frame.copy frame.level.input
  exact hall.of_iff fun w => ⟨fun h => ⟨h.1, h.2.1, h.2.2.1, h.2.2.2⟩,
    fun h => ⟨h.place, h.list, h.held, h.copies⟩⟩

/-- A dictionary that is no copy may be changed. -/
lemma StackShows.frees {address : Nat} (hapart : Apart intact frames (.ref address)) :
    Frees (StackShows stack intact frames) address := by
  rintro w entries h ⟨old, hread⟩
  have hother {other : Nat} {object : Object} (hother : w.memory.read other = some object)
      (hne : address ≠ other) :
      (w.memory.write address (.dict entries)).read other = some object :=
    (w.memory.read_write_of_ne _ hne).trans hother
  refine ⟨h.place, hother h.list ?_, fun frame hframe => hother (h.held frame hframe) ?_,
    fun hintact frame hframe => hother (h.copies hintact frame hframe) ?_⟩
  · rintro rfl
    cases h.list.symm.trans hread
  · rintro rfl
    cases (h.held frame hframe).symm.trans hread
  · exact fun hsame => hapart hintact frame hframe (congrArg Datum.ref hsame)

/-- Whatever leaves the stack alone leaves it as it is shown. -/
lemma StackShows.leaves (h : StackShows stack intact frames w) (hleaves : LeavesStack w w') :
    StackShows stack intact frames w' := by
  have hstack := h.place
  subst hstack
  have hmem {frame : Frame} (hframe : frame ∈ frames) :
      Datum.ref frame.address ∈ frames.map fun frame => .ref frame.address :=
    List.mem_map_of_mem hframe
  refine ⟨hleaves.stack, hleaves.objects _ _ (Or.inl rfl) h.list fun _ _ => nofun,
    fun frame hframe => ?_, fun hintact frame hframe => ?_⟩
  · exact hleaves.objects _ _ (Or.inr ⟨_, _, h.list, hmem hframe, Or.inl rfl⟩)
      (h.held frame hframe) fun _ _ => nofun
  · exact hleaves.objects _ _ (Or.inr ⟨_, _, h.list, hmem hframe,
      Or.inr ⟨_, h.held frame hframe⟩⟩) (h.copies hintact frame hframe) fun _ _ => nofun

/-- What is no snapshot is apart from the copies. -/
lemma StackShows.apart (h : StackShows stack intact frames w) {d : Datum}
    (hd : intact → d ∉ snapshots w) : Apart intact frames d := by
  rintro hintact frame hframe rfl
  have hstack := h.place
  subst hstack
  refine hd hintact ?_
  rw [snapshots, h.list]
  refine List.mem_filterMap.mpr ⟨_, List.mem_map.mpr ⟨frame, hframe, rfl⟩, ?_⟩
  dsimp only
  rw [h.held frame hframe]

/-- A change of the list leaves all but lists alone. -/
lemma StackShows.beside (h : StackShows stack intact frames w) {address : Nat} {object : Object}
    (hread : w.memory.read address = some object) (hobject : ∀ items, object ≠ .list items)
    (items : List Datum) : (w.memory.write stack (.list items)).read address = some object := by
  refine (w.memory.read_write_of_ne _ ?_).trans hread
  rintro rfl
  exact hobject _ (Option.some_inj.mp (hread.symm.trans h.list))

/-- Taking the last level off. -/
lemma StackShows.pop {frame : Frame} (h : StackShows stack intact (frames ++ [frame]) w) :
    StackShows stack intact frames (popFrame w) := by
  have hplace := h.place
  subst hplace
  rw [popFrame_of_list h.list]
  refine ⟨rfl, ?_, fun frame hframe => ?_, fun hintact frame hframe => ?_⟩
  · rw [List.map_append, List.map_singleton, List.dropLast_concat]
    exact w.memory.read_write_self _ (lt_size_of_read h.list)
  · exact h.beside (h.held frame (List.mem_append_left _ hframe)) (fun _ => nofun) _
  · exact h.beside (h.copies hintact frame (List.mem_append_left _ hframe)) (fun _ => nofun) _

/-- Putting a level on changes no other object. -/
lemma StackShows.push (h : StackShows stack intact frames w) {frame : Frame}
    (hframe : w.memory.read frame.address =
      some (.frame (.word frame.level.cube) (.ref frame.copy)))
    (hcopy : w.memory.read frame.copy = some (.dict frame.level.input)) :
    ∃ w', pushFrame (.ref frame.address) w = (.ok (), w') ∧ w'.cubes = w.cubes ∧
      StackShows stack intact (frames ++ [frame]) w' := by
  have hplace := h.place
  subst hplace
  refine ⟨_, pushFrame_of_list h.list _, rfl, rfl, ?_, ?_, fun hintact => ?_⟩
  · rw [List.map_append, List.map_singleton]
    exact w.memory.read_write_self _ (lt_size_of_read h.list)
  · refine List.forall_mem_append.mpr ⟨fun other hother =>
      h.beside (h.held other hother) (fun _ => nofun) _, ?_⟩
    exact List.forall_mem_singleton.mpr (h.beside hframe (fun _ => nofun) _)
  · refine List.forall_mem_append.mpr ⟨fun other hother =>
      h.beside (h.copies hintact other hother) (fun _ => nofun) _, ?_⟩
    exact List.forall_mem_singleton.mpr (h.beside hcopy (fun _ => nofun) _)

/-- **A cell that is found is entered** with a level for it on the stack. -/
theorem StackShows.enter {cube : Nat} {coordinate : Datum} {located : Located}
    (h : StackShows stack intact frames w) (hapart : Apart intact frames coordinate)
    (hlocate : locate cube coordinate w = (.ok (.inr located), w')) (output : Datum) :
    ∃ entered w₂ frame, located.enter cube output w' = (.ok entered, w₂) ∧
      StackShows stack intact (frames ++ [frame]) w₂ ∧ frame.level = entered.level cube w₂ ∧
      entered.surroundings.stack = .ref stack ∧
      Apart intact (frames ++ [frame]) entered.surroundings.input := by
  have h' : StackShows stack intact frames w' := by
    have hkeeps := robust_stackShows.locate cube coordinate w h
    rwa [hlocate] at hkeeps
  obtain ⟨hrecord, -, address, copy, entries, hinput, hsnapshot, hnew, hlt, hsize, hread, hcopy⟩ :=
    locate_spec hlocate
  -- The frame is a new object, and holds the copy.
  obtain ⟨frame, hframe⟩ : ∃ frame : Frame, frame =
    ⟨w'.memory.objects.size, copy, located.record.name.getD [], entries⟩ := ⟨_, rfl⟩
  obtain ⟨w₁, hadd, hshows, hcubes, hheld, hcopied, hdict⟩ : ∃ w₁,
      Eval.add (.frame (.word (located.record.name.getD [])) located.snapshot) w' =
        (.ok (.ref frame.address), w₁) ∧ StackShows stack intact frames w₁ ∧
      w₁.cubes = w'.cubes ∧ w₁.memory.read frame.address =
        some (.frame (.word frame.level.cube) (.ref frame.copy)) ∧
      w₁.memory.read frame.copy = some (.dict frame.level.input) ∧
      w₁.memory.read address = some (.dict entries) := by
    subst hframe
    rw [hsnapshot]
    exact ⟨_, rfl, robust_stackShows.add _ h', rfl, w'.memory.read_add_self _,
      read_add_of_read hcopy _, read_add_of_read hread _⟩
  obtain ⟨w₂, hpush, hcubes', hshows'⟩ := hshows.push hheld hcopied
  have hdict' : w₂.memory.read address = some (.dict entries) := by
    have hlist : ∀ items, Object.dict entries ≠ .list items := fun _ => nofun
    have hkeeps := pushFrame_preserves hlist (.ref frame.address) w₁ hdict
    rwa [hpush] at hkeeps
  obtain ⟨s, w₃, hsurround⟩ := surround_eq cube located.record located.input output w₂
  obtain ⟨⟨hshows'', hcubes''⟩, hdict''⟩ :=
    ((robust_stackShows.and (robust_cubes w₂.cubes)).and (robust_dict address entries)).surround
      cube located.record located.input output w₂ ⟨⟨hshows', rfl⟩, hdict'⟩
  rw [hsurround] at hshows'' hcubes'' hdict''
  obtain ⟨hs, hstack⟩ := surround_spec hsurround
  refine ⟨⟨located.record.compiler, located.cell, s⟩, w₃, frame, ?_, hshows'', ?_, ?_, ?_⟩
  · rw [Located.enter, bind_of_ok hadd, bind_of_ok hpush, bind_of_ok hsurround]
    rfl
  · rw [Entered.level, hcubes'', hcubes', hcubes, hrecord, hs, hinput,
      Memory.entries?_eq_some.mpr ⟨address, rfl, hdict''⟩, hframe]
    rfl
  · rw [hstack, hshows''.place]
  · rw [hs]
    refine fun hintact => List.forall_mem_append.mpr ⟨fun other hother => ?_, ?_⟩
    · rcases hnew with hgiven | hnew
      · exact hgiven ▸ hapart hintact other hother
      · -- A copy was there before, and the input was not.
        have hlt := lt_size_of_read (h.copies hintact other hother)
        rw [hinput]
        exact fun hsame => Nat.not_lt.mpr hnew (Datum.ref.inj hsame ▸ hlt)
    · rw [List.forall_mem_singleton, hinput, hframe]
      exact fun hsame => Nat.ne_of_lt hlt (Datum.ref.inj hsame)

end

/-! ## Moments -/

/-- At a moment the stack shows the levels from some on, and the code sees it. -/
def Moment.Shows (stack : Nat) (intact : Prop) (frames : List Frame) (levels : List Level)
    (moment : Moment) : Prop :=
  moment.surroundings.stack = .ref stack ∧ ∃ more,
    StackShows stack intact (frames ++ more) moment.world ∧
      moment.levels = levels ++ more.map (·.level)

/-- The code is that of its artifact, leaves the stack alone, and hands no copy on if these are to
stay intact. -/
structure Moment.IsCareful (machine : Machine) (codes : Codes) (intact : Prop) (moment : Moment) :
    Prop where
  /-- It is that of its artifact. -/
  runs : moment.Runs machine codes
  /-- It leaves the stack alone. -/
  leaves : moment.LeavesStack
  /-- It hands no copy on. -/
  hands : intact → ¬moment.HandsSnapshot

/-- Asking a cube leaves the stack as it was, and shows the levels on it meanwhile. -/
def Balances (stack : Nat) (intact : Prop) (machine : Machine) (codes : Codes) (ask : Ask)
    (below : Below) (levels : List Level) : Prop :=
  ∀ frames isDirect cube coordinate output w, Apart intact frames coordinate →
    StackShows stack intact frames w →
    (∀ moment ∈ below isDirect cube coordinate output w,
      moment.IsCareful machine codes intact) →
    StackShows stack intact frames (ask cube coordinate output w).2 ∧
      ∀ moment ∈ below isDirect cube coordinate output w, moment.Shows stack intact frames levels

section

variable {stack : Nat} {intact : Prop} {frames : List Frame} {levels : List Level} {w : World}
  {machine : Machine} {codes : Codes} {ask : Ask} {below : Below} {s : Surroundings}
  {isDirect : Bool}

lemma StackShows.here (h : StackShows stack intact frames w) (hstack : s.stack = .ref stack)
    {act : Act} : (Moment.mk levels isDirect s w act).Shows stack intact frames levels := by
  refine ⟨hstack, [], ?_, (List.append_nil levels).symm⟩
  rwa [List.append_nil]

lemma Reference.perform_stack (hask : Balances stack intact machine codes ask below levels)
    (hinput : Apart intact frames s.input) {r : Reference} {coordinate : Datum}
    (hcoordinate : r.isRelative = false → Apart intact frames coordinate)
    (h : StackShows stack intact frames w)
    (hcareful : ∀ moment ∈ r.moments below isDirect s coordinate w,
      moment.IsCareful machine codes intact) :
    StackShows stack intact frames (r.perform ask s coordinate w).2 ∧
      ∀ moment ∈ r.moments below isDirect s coordinate w,
        moment.Shows stack intact frames levels := by
  have hresolved := resolve_preserves robust_stackShows.toTolerant (r := r) (s := s)
    (fun _ address haddress => StackShows.frees (haddress ▸ hinput)) coordinate w h
  rw [r.perform_world]
  rw [Reference.moments] at hcareful ⊢
  rcases hrun : r.resolve s coordinate w with ⟨result, w₁⟩
  rw [hrun] at hresolved hcareful
  cases result with
  | error e => exact ⟨hresolved, List.forall_mem_nil _⟩
  | ok target =>
      obtain ⟨cube, target⟩ := target
      cases cube with
      | cube number =>
          refine hask frames _ number target s.output w₁ ?_ hresolved hcareful
          have htarget : target = if r.isRelative then s.input else coordinate :=
            Reference.resolve_target hrun
          rw [htarget]
          cases hr : r.isRelative with
          | true => rwa [if_pos rfl]
          | false => exact hcoordinate hr
      | _ => exact ⟨hresolved, List.forall_mem_nil _⟩

/-- **While code runs**, the stack stays as it is, but for the levels of other cells meanwhile. -/
theorem Script.run_stack {α : Type} (hask : Balances stack intact machine codes ask below levels)
    (hinput : Apart intact frames s.input) (hstack : s.stack = .ref stack) (script : Script α)
    (h : StackShows stack intact frames w)
    (hcareful : ∀ moment ∈ script.moments ask below levels isDirect s w,
      moment.IsCareful machine codes intact) :
    StackShows stack intact frames (script.run ask s w).2 ∧
      ∀ moment ∈ script.moments ask below levels isDirect s w,
        moment.Shows stack intact frames levels := by
  have hhere {w : World} (h : StackShows stack intact frames w) (act : Act) :
      (Moment.mk levels isDirect s w act).Shows stack intact frames levels := h.here hstack
  induction script generalizing w with
  | done result => exact ⟨h, List.forall_mem_singleton.mpr (hhere h _)⟩
  | look next ih => exact ih w h hcareful
  | change f next ih =>
      rw [moments] at hcareful ⊢
      obtain ⟨hchange, hrest⟩ := List.forall_mem_cons.mp hcareful
      obtain ⟨hafter, hshown⟩ := ih (h.leaves hchange.leaves) hrest
      exact ⟨hafter, List.forall_mem_cons.mpr ⟨hhere h _, hshown⟩⟩
  | call r coordinate next ih =>
      rw [moments] at hcareful ⊢
      obtain ⟨hcall, hrest⟩ := List.forall_mem_cons.mp hcareful
      obtain ⟨hbelow, hrest⟩ := List.forall_mem_append.mp hrest
      have hcoordinate (hr : r.isRelative = false) : Apart intact frames coordinate :=
        h.apart fun hintact hsnapshot => hcall.hands hintact ⟨hr, hsnapshot⟩
      obtain ⟨hperformed, hshown⟩ := Reference.perform_stack hask hinput hcoordinate h hbelow
      obtain ⟨hafter, hshown'⟩ := ih _ hperformed hrest
      exact ⟨hafter, List.forall_mem_cons.mpr
        ⟨hhere h _, List.forall_mem_append.mpr ⟨hshown, hshown'⟩⟩⟩

/-- **While a cell is evaluated**, its level stays on the stack. -/
lemma Entered.balances (hask : Balances stack intact machine codes ask below levels)
    {entered : Entered} (hinput : Apart intact frames entered.surroundings.input)
    (hstack : entered.surroundings.stack = .ref stack) (h : StackShows stack intact frames w)
    (hcareful : ∀ moment ∈ entered.compiling machine levels isDirect w ++
      entered.running machine codes ask below levels isDirect w,
        moment.IsCareful machine codes intact) :
    StackShows stack intact frames (match prepare machine entered w with
      | (.ok (artifact, method), w) => (machine.invoke ask artifact entered.surroundings method w).2
      | (_, w) => w) ∧
    ∀ moment ∈ entered.compiling machine levels isDirect w ++
      entered.running machine codes ask below levels isDirect w,
        moment.Shows stack intact frames levels := by
  obtain ⟨hcompiling, hrunning⟩ := List.forall_mem_append.mp hcareful
  have hprepared : StackShows stack intact frames (prepare machine entered w).2 := by
    refine prepare_preserves robust_stackShows h fun w₁ after hcompile h₁ => ?_
    rw [Entered.compiling, hcompile] at hcompiling
    exact h₁.leaves (hcompiling _ List.mem_cons_self).leaves
  have hfirst : ∀ moment ∈ entered.compiling machine levels isDirect w,
      moment.Shows stack intact frames levels := by
    rw [Entered.compiling]
    cases hcompile : compilation? machine entered.compiler entered.cell w with
    | none => exact List.forall_mem_nil _
    | some worlds =>
        obtain ⟨w₁, after⟩ := worlds
        exact List.forall_mem_singleton.mpr
          ((robust_stackShows.beforeCompilation h hcompile).here hstack)
  rw [Entered.running] at hrunning ⊢
  rcases hprepare : prepare machine entered w with ⟨result, w₂⟩
  rw [hprepare] at hprepared hrunning
  rcases result with e | ⟨artifact, method⟩
  · refine ⟨hprepared, ?_⟩
    rwa [List.append_nil]
  · obtain ⟨hstart, hrest⟩ := List.forall_mem_cons.mp hrunning
    obtain ⟨hafter, hshown⟩ := Script.run_stack hask hinput hstack _ hprepared hrest
    dsimp only
    rw [hstart.runs ask]
    exact ⟨hafter, List.forall_mem_append.mpr
      ⟨hfirst, List.forall_mem_cons.mpr ⟨hprepared.here hstack, hshown⟩⟩⟩

/-- **An evaluation** leaves the stack as it was, and shows the levels on it meanwhile. -/
theorem answer_balances (machine : Machine) (codes : Codes) (depth : Nat) (levels : List Level) :
    Balances stack intact machine codes (answer machine depth) (moments machine codes depth levels)
      levels := by
  induction depth generalizing levels with
  | zero => exact fun _ _ _ _ _ _ _ h _ => ⟨h, List.forall_mem_nil _⟩
  | succ depth ih =>
      intro frames isDirect cube coordinate output w hapart h hcareful
      rw [answer_world]
      rw [moments] at hcareful ⊢
      rcases enter_cases w cube coordinate output with
        ⟨located, w₁, hlocate, hthen⟩ | ⟨result, hthen, hne⟩
      · obtain ⟨entered, w₂, frame, henter, hshows, hlevel, hstack, hinput⟩ :=
          h.enter hapart hlocate output
        have hentered : FormulaCube.enter cube coordinate output w = (.ok (.inr entered), w₂) :=
          hthen.trans (bind_of_ok henter)
        rw [hentered] at hcareful ⊢
        obtain ⟨hafter, hshown⟩ := Entered.balances (ih _) hinput hstack hshows hcareful
        refine ⟨hafter.pop, fun moment hmem => ?_⟩
        obtain ⟨hsees, more, hmore, hlevels⟩ := hshown moment hmem
        refine ⟨hsees, frame :: more, ?_, ?_⟩
        · rwa [List.append_assoc] at hmore
        · rw [hlevels, List.map_cons, hlevel, List.append_assoc]
          rfl
      · have hafter := robust_stackShows.locate cube coordinate w h
        rw [hthen] at hcareful ⊢
        rcases result with e | value | entered
        · exact ⟨hafter, List.forall_mem_nil _⟩
        · exact ⟨hafter, List.forall_mem_nil _⟩
        · exact absurd rfl (hne entered)

end

/-! ## Evaluations -/

/-- The stack of a world is a list of frames for these levels. -/
structure HasStack (w : World) (stack : Nat) (intact : Prop) (items : List Datum)
    (levels : List Level) : Prop where
  /-- Where it is. -/
  place : w.stack = stack
  /-- The list. -/
  list : w.memory.read stack = some (.list items)
  /-- The frames. -/
  frames : List.Forall₂ (IsFrame w.memory intact) items levels

lemma StackShows.hasStack {stack : Nat} {intact : Prop} {frames : List Frame} {w : World}
    (h : StackShows stack intact frames w) :
    HasStack w stack intact (frames.map fun frame => .ref frame.address)
      (frames.map (·.level)) := by
  refine ⟨h.place, h.list, ?_⟩
  rw [List.forall₂_map_left_iff, List.forall₂_map_right_iff, List.forall₂_same]
  exact fun frame hframe => ⟨frame.address, frame.copy, rfl, h.held frame hframe,
    fun hintact => h.copies hintact frame hframe⟩

/-- A list of frames, by their addresses. -/
lemma HasStack.shows {stack : Nat} {items : List Datum} {levels : List Level} {w : World}
    (h : HasStack w stack True items levels) (intact : Prop) : ∃ frames : List Frame,
      items = frames.map (fun frame => .ref frame.address) ∧ levels = frames.map (·.level) ∧
      StackShows stack intact frames w := by
  obtain ⟨hplace, hlist, hframes⟩ := h
  have hall : ∃ frames : List Frame, items = frames.map (fun frame => .ref frame.address) ∧
      levels = frames.map (·.level) ∧ ∀ frame ∈ frames,
        w.memory.read frame.address =
          some (.frame (.word frame.level.cube) (.ref frame.copy)) ∧
        w.memory.read frame.copy = some (.dict frame.level.input) := by
    clear hlist
    induction hframes with
    | nil => exact ⟨[], rfl, rfl, nofun⟩
    | cons hframe _ ih =>
        obtain ⟨frames, rfl, rfl, hall⟩ := ih
        obtain ⟨address, copy, rfl, hheld, hcopy⟩ := hframe
        exact ⟨⟨address, copy, _⟩ :: frames, rfl, rfl,
          List.forall_mem_cons.mpr ⟨⟨hheld, hcopy trivial⟩, hall⟩⟩
  obtain ⟨frames, rfl, rfl, hall⟩ := hall
  exact ⟨frames, rfl, rfl, hplace, hlist, fun frame hframe => (hall frame hframe).1,
    fun _ frame hframe => (hall frame hframe).2⟩

/-- A value that is found is the answer at once. -/
lemma answer_of_value (machine : Machine) (codes : Codes) {depth cube : Nat}
    {coordinate output value : Datum} {w w' : World}
    (hfind : findCell cube coordinate w = (.ok value, w')) (hvalue : ∀ cell, value ≠ .cell cell) :
    (∀ levels isDirect, moments machine codes depth levels isDirect cube coordinate output w = []) ∧
      (0 < depth → answer machine depth cube coordinate output w = (.ok value, w')) := by
  have henter : enter cube coordinate output w = (.ok (.inl value), w') := by
    have hlocate : locate cube coordinate w = (.ok (.inl value), w') := by
      rw [locate, bind_of_ok hfind]
      cases value with
      | cell cell => exact absurd rfl (hvalue cell)
      | _ => rfl
    rw [enter, bind_of_ok hlocate]
    rfl
  cases depth with
  | zero => exact ⟨fun _ _ => rfl, fun h => absurd h (Nat.lt_irrefl 0)⟩
  | succ depth =>
      refine ⟨fun levels isDirect => ?_, fun _ => ?_⟩
      · rw [moments, henter]
      · rw [answer, getCell_eq, bind_of_ok henter]
        rfl

/-- In an evaluation no cube is asked at exactly the copy that a frame on the stack holds, neither the
first one nor one by a fixed reference. -/
def HandsNoSnapshot (machine : Machine) (codes : Codes) (depth cube : Nat)
    (coordinate output : Datum) (w : World) : Prop :=
  coordinate ∉ snapshots w ∧
    ∀ moment ∈ moments machine codes depth [] true cube coordinate output w, ¬moment.HandsSnapshot

/-- The address of an object. -/
def addressOf? : Datum → Option Nat
  | .ref address => some address
  | _ => none

/-- A check that code refers to no cell at the very copy that a frame holds. -/
def Moment.handsNone (moment : Moment) : Bool :=
  match moment.act with
  | .call r coordinate => r.isRelative || (snapshots moment.world).all fun copy =>
    addressOf? copy != addressOf? coordinate
  | _ => true

lemma Moment.not_handsSnapshot {moment : Moment} (h : moment.handsNone = true) :
    ¬moment.HandsSnapshot := by
  rw [handsNone] at h
  rw [HandsSnapshot]
  cases hact : moment.act with
  | call r coordinate =>
      rw [hact] at h
      rintro ⟨hr, hmem⟩
      dsimp only at h
      rw [hr, Bool.false_or, List.all_eq_true] at h
      have hne := h coordinate hmem
      rw [bne_self_eq_false] at hne
      cases hne
  | _ => exact id

/-- What only looking things up changes is not on the stack. -/
lemma LeavesStack.of_undisturbed {w w' : World} (h : Undisturbed w w') : LeavesStack w w' :=
  ⟨h (robust_stack w.stack).toTolerant rfl,
    fun address object _ hread hobject => h (robust_read address object hobject).toTolerant hread⟩

/-- Playbooks that set nothing leave the stack alone. -/
lemma Moment.leavesStack {moment : Moment} (hquiet : moment.isQuiet = true)
    (hundisturbed : moment.IsUndisturbed) : moment.LeavesStack := by
  rw [isQuiet] at hquiet
  rw [IsUndisturbed] at hundisturbed
  rw [LeavesStack]
  cases hact : moment.act with
  | compile after =>
      rw [hact] at hquiet
      cases hquiet
  | change after =>
      rw [hact] at hundisturbed
      exact .of_undisturbed hundisturbed
  | _ => trivial

/-- The cube `P` refers to `A` with its input, and `A` to exactly a coordinate of `B`. -/
def nestedWorld : World := soloWorld
  [(['P'], [.relativeCube (.str ['A']) (axis ['x'] 1)]),
    (['A'], [.fixed (.str ['B']) (axis ['y'] 2)]), (['B'], [])]

/-- The moments of its evaluation. -/
def nestedMoments : List Moment :=
  moments Run.machine playbookCodes 3 [] true 0 (.ref 1) .none nestedWorld

/-- Copies that are as they were have the axes of the inputs. -/
lemma HasStack.axes {stack : Nat} {items : List Datum} {levels : List Level} {w : World}
    (h : HasStack w stack True items levels) :
    (snapshots w).map (fun copy => (w.memory.entries? copy).map fun entries => entries.map (·.1)) =
      levels.map fun level => some (level.input.map (·.1)) := by
  obtain ⟨rfl, hlist, hframes⟩ := h
  rw [snapshots, hlist]
  dsimp only
  clear hlist
  induction hframes with
  | nil => rfl
  | cons hframe _ ih =>
      obtain ⟨address, copy, rfl, hheld, hcopy⟩ := hframe
      rw [List.filterMap_cons]
      dsimp only
      rw [hheld]
      dsimp only
      rw [List.map_cons, List.map_cons, ih,
        Memory.entries?_eq_some.mpr ⟨copy, rfl, hcopy trivial⟩]
      rfl

/-- The code of `P` refers to `A` at exactly the copy that its own frame holds; the other cells have
playbooks. -/
def handingCodes : Codes := fun artifact s method =>
  if artifact.className = ['P'] then
    .look fun w => Script.refer (.fixed (.word ['A'])) ((snapshots w).headD .none)
  else playbookCodes artifact s method

/-- A machine that runs this code. -/
def handingMachine : Machine :=
  { Run.machine with
    invoke ask artifact s method := (handingCodes artifact s method).run ask s }

/-- The cube `A` refers to `B` with its input. -/
def handingWorld : World := soloWorld
  [(['P'], []), (['A'], [.relativeCube (.str ['B']) (axis ['x'] 1)]), (['B'], [])]

/-- The moments of an evaluation of `P`. -/
def handingMoments : List Moment :=
  moments handingMachine handingCodes 3 [] true 0 (.ref 1) .none handingWorld

/-- The code of `P` only looks, as that of playbooks that set nothing does. -/
lemma Moment.startsLooking_handingCodes {moment : Moment} (h : moment.isQuiet = true) :
    moment.StartsLooking handingCodes := by
  have hplayed := startsLooking_of_isQuiet h
  rw [StartsLooking] at hplayed ⊢
  cases hact : moment.act with
  | start artifact method =>
      rw [hact] at hplayed
      dsimp only
      rw [handingCodes]
      split
      · exact fun _ _ => trivial
      · exact hplayed
  | _ => trivial

end FormulaCube
