import FormulaCube.Cell.Ids
import FormulaCube.Proofs.Calls.Provenance
import FormulaCube.Proofs.Computation
import Mathlib.Data.List.Nodup

/-!
# Every compilation has a number of its own

The calls of one compiler of cells. Each of them, as it begins to compile, writes the place of its cell
and then draws the next number of a source of numbers; where the place cannot be written, the compilation
comes back without a number. Between that and the end of the compilation the other calls go on.

* `NumberedSystem` — the calls, the source of numbers, and what was compiled under which number.
* `NumberedSystem.Step` — one step: a number is drawn, a compilation comes back, or any other step of
  the calls.
* `CallSystem.placed` — the attempts that draw a number.
* `NumberedSystem.Sound` — the invariant. The numbers were drawn in the order in which versions were
  handed over to be compiled, and only the call that holds the lock may still have to draw one.
* `NumberedSystem.sound_of_reachable` — it holds in every reachable state. Its first part says that the
  calls of such a system are calls of the compiler.
* `Run.jobFor_eq` — a call that is not disturbed draws in the same way.
-/

namespace FormulaCube

variable {α : Type}

namespace Phase

/-- Whether a call in this phase handed its version over to be compiled, unless it ended before. -/
def isBegun {ε : Type} : Phase α ε → Bool
  | .start | .readArtifact _ | .readFailure _ | .waiting _ | .recheckArtifact _ | .recheckFailure _
  | .marking _ | .counting _ => false
  | _ => true

variable {ε : Type} {p p' : Phase α ε}

lemma step_isBegun {me current : Nat} {describe : Nat → ε → Except ε Text} {s s' : Records α ε}
    (h : p.step me current describe s = some (p', s')) (hp : p.isBegun = true) :
    p'.isBegun = true := by
  cases p <;> simp only [step] at h <;> (try split at h) <;> cases h <;> first | rfl | cases hp

lemma isBegun_of_isCompiling (h : p.isCompiling = true) : p.isBegun = true := by
  cases p <;> first | rfl | cases h

lemma not_isBegun_of_isCounting (h : p.isCounting = true) : p.isBegun = false := by
  cases p <;> first | rfl | cases h

lemma isBegun_compiled (v : Nat) (result : Except ε α) :
    (Phase.compiled v result).isBegun = true := by
  cases result <;> rfl

lemma isLocked_of_isCompiling (h : p.isCompiling = true) : p.isLocked = true := by
  cases p <;> first | rfl | cases h

end Phase

/-- The call that handed a version over to be compiled. -/
def Deed.attempt? {ε : Type} : Deed α ε → Option Nat
  | .began i _ => some i
  | _ => none

/-- The calls that handed a version over to be compiled, the first first. -/
def CallSystem.attempts {ε : Type} (s : CallSystem α ε) : List Nat :=
  s.deeds.reverse.filterMap Deed.attempt?

namespace CallSystem

variable {ε : Type} {describe : Nat → Text → ε → Except ε Text} {s t : CallSystem α ε}

/-! ## The steps between compilations -/

/-- What a step does with which no compilation comes back: perhaps a call hands its version over to be
compiled, and otherwise no call that compiles moves. -/
structure Begins (s t : CallSystem α ε) (new : Option Nat) : Prop where
  /-- The attempts are those before, and perhaps that of the call. -/
  attempts : t.attempts = s.attempts ++ new.toList
  /-- Nothing comes back. -/
  returned : ∀ (i v : Nat) (result : Except ε α), .returned i v result ∈ t.deeds →
    .returned i v result ∈ s.deeds
  /-- Whoever hands its version over is about to do so. -/
  counting : ∀ i, new = some i →
    (∃ call : Call α ε, s.calls[i]? = some call ∧ call.phase.isCounting = true) ∧
      ∃ call : Call α ε, t.calls[i]? = some call ∧ call.phase.isCompiling = true
  /-- Whoever compiles after the step has handed its version over with it, or compiled before. -/
  compiling : ∀ (i : Nat) (call : Call α ε), t.calls[i]? = some call →
    call.phase.isCompiling = true → new = some i ∨ s.calls[i]? = some call
  /-- A call keeps its cell. Whoever compiled before the step stays where it is, and whoever has begun
  has begun. -/
  kept : ∀ (i : Nat) (call : Call α ε), s.calls[i]? = some call →
    ∃ call' : Call α ε, t.calls[i]? = some call' ∧ call'.cell = call.cell ∧
      (call.phase.isCompiling = true → call' = call) ∧
      (call.phase.isBegun = true → call'.phase.isBegun = true)

/-- Where the calls stay as they are, nothing begins. -/
lemma Begins.of_calls_eq (hattempts : t.attempts = s.attempts)
    (hreturned : ∀ (i v : Nat) (result : Except ε α), .returned i v result ∈ t.deeds →
      .returned i v result ∈ s.deeds)
    (hcalls : ∀ (i : Nat) (call : Call α ε), t.calls[i]? = some call →
      call.phase.isCompiling = true → s.calls[i]? = some call)
    (hkept : ∀ (i : Nat) (call : Call α ε), s.calls[i]? = some call → t.calls[i]? = some call) :
    s.Begins t none where
  attempts := by rw [hattempts]; exact (List.append_nil _).symm
  returned := hreturned
  counting := nofun
  compiling i call hcall h := .inr (hcalls i call hcall h)
  kept i call hcall := ⟨call, hkept i call hcall, rfl, fun _ => rfl, id⟩

lemma attempts_goOn {i current : Nat} {call : Call α ε} {phase : Phase α ε}
    {records : Records α ε} :
    (s.goOn i call current phase records).attempts =
      s.attempts ++ (if call.phase.isCounting then some i else none).toList := by
  have hdeeds : (call.phase.deeds i current).reverse.filterMap Deed.attempt? =
      (if call.phase.isCounting then some i else none).toList := by
    cases call.phase <;> rfl
  rw [attempts, goOn, List.reverse_append, List.filterMap_append, hdeeds]
  rfl

lemma attempts_comeBack {i v : Nat} {call : Call α ε} {result : Except ε α} :
    (s.comeBack i call v result).attempts = s.attempts := by
  rw [attempts, comeBack, List.reverse_cons, List.filterMap_append]
  exact List.append_nil _

lemma begins_goOn {i current : Nat} {call : Call α ε} {phase : Phase α ε} {records : Records α ε}
    (hcall : s.calls[i]? = some call)
    (hstep : call.phase.step i current (fun v => describe call.cell (s.sourceOf v)) s.records =
      some (phase, records)) :
    s.Begins (s.goOn i call current phase records)
      (if call.phase.isCounting then some i else none) := by
  have hi : i < s.calls.size := (Array.getElem?_eq_some_iff.mp hcall).1
  have hmoved : (s.goOn i call current phase records).calls[i]? =
      some ⟨call.cell, some (call.version.getD current), phase⟩ :=
    (calls_goOn hi i).trans (if_pos rfl)
  have hnext := Phase.step_isCompiling hstep
  refine ⟨attempts_goOn, fun _ _ _ => returned_of_goOn, ?counting, ?compiling, ?kept⟩
  case counting =>
    intro j hj
    split at hj
    · rename_i hcounting
      cases hj
      exact ⟨⟨call, hcall, hcounting⟩, _, hmoved, hnext.trans hcounting⟩
    · cases hj
  case compiling =>
    intro j other hother hcompiling
    rw [calls_goOn hi] at hother
    split at hother
    · rename_i hij
      cases hother
      rw [if_pos (hnext.symm.trans hcompiling), hij]
      exact .inl rfl
    · exact .inr hother
  case kept =>
    intro j other hother
    by_cases hij : i = j
    · subst hij
      obtain rfl : call = other := Option.some.inj (hcall.symm.trans hother)
      refine ⟨_, hmoved, rfl, fun hcompiling => ?_, Phase.step_isBegun hstep⟩
      rw [Phase.not_isCompiling_of_step hstep] at hcompiling
      cases hcompiling
    · exact ⟨other, (calls_goOn hi j).trans ((if_neg hij).trans hother), rfl, fun _ => rfl, id⟩

/-- More results may come back where more are possible. -/
lemma Step.mono {compiles compiles' : Nat → Text → Except ε α → Prop}
    (hle : ∀ cell source result, compiles cell source result → compiles' cell source result)
    (h : Step describe compiles s t) : Step describe compiles' s t := by
  cases h with
  | make source number => exact .make s source number
  | edit cell source number hcell => exact .edit s cell source number hcell
  | call cell hcell => exact .call s cell hcell
  | advance i call current phase records hcall hcurrent hstep =>
      exact .advance s i call current phase records hcall hcurrent hstep
  | comeBack i call v version result hcall hphase hversion hresult =>
      exact .comeBack s i call v version result hcall hphase hversion (hle _ _ _ hresult)

/-- **Between compilations, at most one call begins one.** -/
lemma begins_of_step (h : Step describe (fun _ _ _ => False) s t) : ∃ new, s.Begins t new := by
  have hattempt : ∀ (cell v : Nat) (deeds : List (Deed α ε)),
      (Deed.made cell v :: deeds).reverse.filterMap Deed.attempt? =
        deeds.reverse.filterMap Deed.attempt? := by
    intro cell v deeds
    rw [List.reverse_cons, List.filterMap_append]
    exact List.append_nil _
  have hreturned : ∀ (cell w i v : Nat) (result : Except ε α) (deeds : List (Deed α ε)),
      .returned i v result ∈ Deed.made cell w :: deeds → .returned i v result ∈ deeds := by
    intro cell w i v result deeds hmem
    exact (List.mem_cons.mp hmem).resolve_left nofun
  cases h with
  | make source number =>
      exact ⟨none, .of_calls_eq (hattempt _ _ _) (fun _ _ _ => hreturned _ _ _ _ _ _)
        (fun _ _ h _ => h) fun _ _ h => h⟩
  | edit cell source number hcell =>
      exact ⟨none, .of_calls_eq (hattempt _ _ _) (fun _ _ _ => hreturned _ _ _ _ _ _)
        (fun _ _ h _ => h) fun _ _ h => h⟩
  | call cell hcell =>
      refine ⟨none, .of_calls_eq rfl (fun _ _ _ => id) ?_ ?_⟩
      · intro i call hcall hcompiling
        rw [CallSystem.call, Array.getElem?_push] at hcall
        split at hcall
        · cases hcall
          cases hcompiling
        · exact hcall
      · intro i call hcall
        have hi : i < s.calls.size := (Array.getElem?_eq_some_iff.mp hcall).1
        exact (calls_push _ i hi).trans hcall
  | advance i call current phase records hcall hcurrent hstep =>
      exact ⟨_, begins_goOn hcall hstep⟩
  | comeBack i call v version result hcall hphase hversion hresult => exact hresult.elim

/-- A call whose compilation comes back compiles no more, and the others stay where they are. -/
lemma others_comeBack {i j v : Nat} {call other : Call α ε} {result : Except ε α}
    (hcall : s.calls[i]? = some call) (h : j ≠ i ∨ other.phase.isCompiling = true) :
    (s.comeBack i call v result).calls[j]? = some other ↔ j ≠ i ∧ s.calls[j]? = some other := by
  rw [calls_comeBack hcall j]
  split
  · rename_i hij
    refine ⟨?_, fun hj => absurd hij.symm hj.1⟩
    rintro ⟨⟩
    have hcompiling := h.resolve_left fun hj => hj hij.symm
    rw [(compiled_facts v result).2.1] at hcompiling
    cases hcompiling
  · rename_i hij
    exact ⟨fun hother => ⟨Ne.symm hij, hother⟩, And.right⟩

/-! ## The attempts that draw a number -/

/-- The calls of the list that are for a cell of which this holds. -/
def placed (isPlaced : Nat → Bool) (s : CallSystem α ε) (calls : List Nat) : List Nat :=
  calls.filter fun i => s.calls[i]?.any fun call => isPlaced call.cell

variable {isPlaced : Nat → Bool}

lemma placed_append (calls calls' : List Nat) :
    s.placed isPlaced (calls ++ calls') = s.placed isPlaced calls ++ s.placed isPlaced calls' :=
  List.filter_append ..

/-- **Calls keep their cells.** -/
lemma placed_eq {calls : List Nat} (h : ∀ i ∈ calls, ∃ call call' : Call α ε,
    s.calls[i]? = some call ∧ t.calls[i]? = some call' ∧ call'.cell = call.cell) :
    t.placed isPlaced calls = s.placed isPlaced calls := by
  refine List.filter_congr fun i hi => ?_
  obtain ⟨call, call', hcall, hcall', hcell⟩ := h i hi
  rw [hcall, hcall', Option.any_some, Option.any_some, hcell]

lemma placed_singleton {i : Nat} {call : Call α ε} (hcall : s.calls[i]? = some call) :
    s.placed isPlaced [i] = if isPlaced call.cell then [i] else [] := by
  rw [placed, List.filter_singleton, hcall, Option.any_some]
  cases isPlaced call.cell <;> rfl

end CallSystem

/-- The place of the cell can be written. -/
def Workshop.isPlaced (shop : Workshop α) (cell : Nat) : Bool := (shop.place cell).isOk

lemma Workshop.isPlaced_of_place {shop : Workshop α} {cell : Nat} {place : Text}
    (h : shop.place cell = .ok place) : shop.isPlaced cell = true := by
  rw [isPlaced, h]
  rfl

lemma Workshop.not_isPlaced_of_place {shop : Workshop α} {cell : Nat} {reason : Fault}
    (h : shop.place cell = .error reason) : shop.isPlaced cell = false := by
  rw [isPlaced, h]
  rfl

/-- The calls of a compiler, with its source of numbers. -/
structure NumberedSystem (α : Type) where
  /-- The calls. -/
  calls : CallSystem α Failure
  /-- The source of numbers. -/
  ids : IdSource
  /-- What was compiled, with the calls that asked for it, the first first. -/
  jobs : List (Nat × Job)

namespace NumberedSystem

/-- The calls that drew a number, the first first. -/
def drawers (s : NumberedSystem α) : List Nat := s.jobs.map (·.1)

/-- The system before anything happened. -/
def empty (start : Nat) : NumberedSystem α := ⟨.empty, .sequential start, []⟩

/-- A call draws the next number for the version that it compiles. -/
def draw (s : NumberedSystem α) (shop : Workshop α) (i : Nat) (call : Call α Failure) (place : Text)
    (version : Version α Failure) : NumberedSystem α :=
  { s with
    ids := s.ids.rest
    jobs := s.jobs ++ [(i, shop.job call.cell place s.ids.text version.number version.source)] }

/-- What a compilation comes to when the back end gives this answer to its module. -/
def comesTo (job : Job) (answer : Except Failure α) : Except Failure α :=
  Job.run (m := Id) (fun _ => ()) (fun _ => answer) job

/-- One step. -/
inductive Step (shop : Workshop α) : NumberedSystem α → NumberedSystem α → Prop
  /-- A step of the calls other than that a compilation comes back. -/
  | other (s : NumberedSystem α) (calls : CallSystem α Failure)
      (hstep : CallSystem.Step shop.words (fun _ _ _ => False) s.calls calls) :
      Step shop s { s with calls := calls }
  /-- A call that is about to compile draws a number, once the place of its cell is written. -/
  | draw (s : NumberedSystem α) (i : Nat) (call : Call α Failure) (v : Nat) (place : Text)
      (version : Version α Failure) (hcall : s.calls.calls[i]? = some call)
      (hphase : call.phase = .compiling v) (hplace : shop.place call.cell = .ok place)
      (hversion : s.calls.version? v = some version) (hnew : i ∉ s.drawers) :
      Step shop s (s.draw shop i call place version)
  /-- The place of the cell cannot be written: the compilation comes back with the fault of that. -/
  | unplaced (s : NumberedSystem α) (i : Nat) (call : Call α Failure) (v : Nat) (reason : Fault)
      (version : Version α Failure) (hcall : s.calls.calls[i]? = some call)
      (hphase : call.phase = .compiling v) (hplace : shop.place call.cell = .error reason)
      (hversion : s.calls.version? v = some version) :
      Step shop s { s with calls := s.calls.comeBack i call v (.error (.fault reason)) }
  /-- The compilation of a call comes back: no module was generated, or the back end answered. -/
  | comeBack (s : NumberedSystem α) (i : Nat) (call : Call α Failure) (v : Nat) (job : Job)
      (answer : Except Failure α) (hcall : s.calls.calls[i]? = some call)
      (hphase : call.phase = .compiling v) (hjob : (i, job) ∈ s.jobs)
      (hanswer : ∀ m, job.module = .ok m → shop.answers m answer) :
      Step shop s { s with calls := s.calls.comeBack i call v (comesTo job answer) }

/-- What any number of steps lead to, where numbers start at `start`. -/
inductive Reachable (shop : Workshop α) (start : Nat) : NumberedSystem α → Prop
  | empty : Reachable shop start (empty start)
  | more {s t : NumberedSystem α} : Reachable shop start s → Step shop s t → Reachable shop start t

/-- What holds in every reachable state. -/
structure Sound (shop : Workshop α) (start : Nat) (s : NumberedSystem α) : Prop where
  /-- The calls are calls of the compiler. -/
  calls : shop.Reachable s.calls
  /-- As many numbers were drawn as there are compilations. -/
  ids : s.ids = .sequential (start + s.jobs.length : Nat)
  /-- Each compilation has its own number. -/
  numbered : ∀ (k i : Nat) (job : Job), s.jobs[k]? = some (i, job) →
    ∃ cell place version source, shop.place cell = .ok place ∧
      job = shop.job cell place (Text.ofNat (start + k)) version source
  /-- A call draws once. -/
  once : s.drawers.Nodup
  /-- Numbers are drawn in the order in which versions of cells with a place are handed over, and whoever
  has still to draw one is the call whose version is being compiled. -/
  order : ∃ pending : Option Nat,
    s.calls.placed shop.isPlaced s.calls.attempts = s.drawers ++ pending.toList ∧
    ∀ i, pending = some i ↔ i ∉ s.drawers ∧ ∃ call : Call α Failure, s.calls.calls[i]? = some call ∧
      call.phase.isCompiling = true ∧ shop.isPlaced call.cell = true
  /-- Whoever handed a version over has begun to compile. -/
  begun : ∀ i ∈ s.calls.attempts, ∃ call : Call α Failure, s.calls.calls[i]? = some call ∧
    call.phase.isBegun = true
  /-- While it is compiled, a compilation is that of its version. -/
  current : ∀ (i : Nat) (job : Job), (i, job) ∈ s.jobs → ∀ (call : Call α Failure) (v : Nat),
    s.calls.calls[i]? = some call → call.phase = .compiling v →
    ∃ version, s.calls.version? v = some version ∧
      ∃ place number n, shop.place call.cell = .ok place ∧
        job = shop.job call.cell place number n version.source
  /-- What came back is the result of a compilation, unless the place of the cell cannot be written. -/
  returned : ∀ (i v : Nat) (result : Except Failure α), .returned i v result ∈ s.calls.deeds →
    (∃ job answer, (i, job) ∈ s.jobs ∧ (∀ m, job.module = .ok m → shop.answers m answer) ∧
      result = comesTo job answer) ∨
    ∃ (call : Call α Failure) (reason : Fault), s.calls.calls[i]? = some call ∧
      shop.place call.cell = .error reason ∧ result = .error (.fault reason)

variable {shop : Workshop α} {start : Nat} {s t : NumberedSystem α}

lemma mem_drawers {i : Nat} : i ∈ s.drawers ↔ ∃ job, (i, job) ∈ s.jobs := by
  rw [drawers, List.mem_map]
  exact ⟨fun ⟨entry, hentry, hi⟩ => ⟨entry.2, hi ▸ hentry⟩, fun ⟨job, hjob⟩ => ⟨_, hjob, rfl⟩⟩

lemma sound_empty : (empty start : NumberedSystem α).Sound shop start where
  calls := .none
  ids := rfl
  numbered := nofun
  once := List.nodup_nil
  order := ⟨none, rfl, fun i => ⟨nofun, fun ⟨_, call, hcall, _⟩ => by cases hcall⟩⟩
  begun := nofun
  current := nofun
  returned := nofun

/-- Two calls cannot both be past the lock. -/
lemma Sound.eq_of_isLocked (h : s.Sound shop start) {i j : Nat} {call other : Call α Failure}
    (hcall : s.calls.calls[i]? = some call) (hother : s.calls.calls[j]? = some other)
    (hi : call.phase.isLocked = true) (hj : other.phase.isLocked = true) : i = j := by
  have hs := CallSystem.sound_of_reachable h.calls
  exact Option.some.inj (((hs.lock i call hcall).mp hi).symm.trans ((hs.lock j other hother).mp hj))

/-- Whoever drew a number handed its version over. -/
lemma Sound.begun_of_drawer (h : s.Sound shop start) {i : Nat} (hi : i ∈ s.drawers) :
    ∃ call : Call α Failure, s.calls.calls[i]? = some call ∧ call.phase.isBegun = true := by
  obtain ⟨pending, hplaced, -⟩ := h.order
  have hmem : i ∈ s.calls.placed shop.isPlaced s.calls.attempts :=
    hplaced ▸ List.mem_append_left _ hi
  exact h.begun i (List.mem_of_mem_filter hmem)

/-- Whoever handed its version over does so after the step, too. -/
lemma Sound.begun_other (h : s.Sound shop start) {calls : CallSystem α Failure} {new : Option Nat}
    (hnew : s.calls.Begins calls new) : ∀ i ∈ calls.attempts,
      ∃ call : Call α Failure, calls.calls[i]? = some call ∧ call.phase.isBegun = true := by
  intro i hi
  rw [hnew.attempts, List.mem_append, Option.mem_toList] at hi
  rcases hi with hi | hi
  · obtain ⟨call, hcall, hbegun⟩ := h.begun i hi
    obtain ⟨call', hcall', -, -, hkept⟩ := hnew.kept i call hcall
    exact ⟨call', hcall', hkept hbegun⟩
  · obtain ⟨-, call, hcall, hcompiling⟩ := hnew.counting i hi
    exact ⟨call, hcall, Phase.isBegun_of_isCompiling hcompiling⟩

/-- The calls that handed a version over keep their cells. -/
lemma Sound.placed_attempts (h : s.Sound shop start) {calls : CallSystem α Failure} {new : Option Nat}
    (hnew : s.calls.Begins calls new) : calls.placed shop.isPlaced calls.attempts =
      s.calls.placed shop.isPlaced s.calls.attempts ++ calls.placed shop.isPlaced new.toList := by
  rw [hnew.attempts, CallSystem.placed_append, CallSystem.placed_eq]
  intro i hi
  obtain ⟨call, hcall, -⟩ := h.begun i hi
  obtain ⟨call', hcall', hcell, -⟩ := hnew.kept i call hcall
  exact ⟨call, call', hcall, hcall', hcell⟩

/-- **A call that hands its version over has a number still to draw**, if its cell has a place, and nobody
else has. -/
lemma Sound.order_other (h : s.Sound shop start) {calls : CallSystem α Failure} {new : Option Nat}
    (hnew : s.calls.Begins calls new) :
    ∃ pending : Option Nat,
      calls.placed shop.isPlaced calls.attempts = s.drawers ++ pending.toList ∧
      ∀ i, pending = some i ↔ i ∉ s.drawers ∧ ∃ call : Call α Failure, calls.calls[i]? = some call ∧
        call.phase.isCompiling = true ∧ shop.isPlaced call.cell = true := by
  obtain ⟨pending, hplaced, hpending⟩ := h.order
  have hattempts := h.placed_attempts hnew
  cases new with
  | none =>
      refine ⟨pending, ?_, fun i => (hpending i).trans (and_congr_right fun _ => ⟨?_, ?_⟩)⟩
      · rw [hattempts, hplaced]
        exact List.append_nil _
      · rintro ⟨call, hcall, hcompiling, hplace⟩
        obtain ⟨call', hcall', -, hsame, -⟩ := hnew.kept i call hcall
        obtain rfl := hsame hcompiling
        exact ⟨call', hcall', hcompiling, hplace⟩
      · rintro ⟨call, hcall, hcompiling, hplace⟩
        exact ⟨call, (hnew.compiling i call hcall hcompiling).resolve_left nofun, hcompiling, hplace⟩
  | some j =>
      obtain ⟨⟨old, hold, hcounting⟩, call, hcall, hcompiling⟩ := hnew.counting j rfl
      -- nobody compiles, as the call that is about to holds the lock
      have hidle : ∀ (i : Nat) (other : Call α Failure), s.calls.calls[i]? = some other →
          other.phase.isCompiling ≠ true := by
        intro i other hother hcompiling
        obtain rfl := h.eq_of_isLocked hother hold (Phase.isLocked_of_isCompiling hcompiling)
          (Phase.isLocked_of_isCounting hcounting)
        obtain rfl : other = old := Option.some.inj (hother.symm.trans hold)
        have hbegun := Phase.isBegun_of_isCompiling hcompiling
        rw [Phase.not_isBegun_of_isCounting hcounting] at hbegun
        cases hbegun
      have hnone : pending = none := by
        cases hp : pending with
        | none => rfl
        | some i =>
            obtain ⟨-, other, hother, hcompiling, -⟩ := (hpending i).mp hp
            exact absurd hcompiling (hidle i other hother)
      have hfresh : j ∉ s.drawers := by
        intro hj
        obtain ⟨other, hother, hbegun⟩ := h.begun_of_drawer hj
        obtain rfl : other = old := Option.some.inj (hother.symm.trans hold)
        rw [Phase.not_isBegun_of_isCounting hcounting] at hbegun
        cases hbegun
      refine ⟨if shop.isPlaced call.cell then some j else none, ?_, fun i => ⟨?_, ?_⟩⟩
      · rw [hattempts, hplaced, hnone, Option.toList_none, List.append_nil, Option.toList_some,
          CallSystem.placed_singleton hcall]
        split <;> rfl
      · intro hi
        split at hi
        · rename_i hplace
          cases hi
          exact ⟨hfresh, call, hcall, hcompiling, hplace⟩
        · cases hi
      · rintro ⟨-, other, hother, hcompiling, hplace⟩
        obtain rfl : j = i := Option.some.inj <|
          (hnew.compiling i other hother hcompiling).resolve_right
            fun hbefore => hidle i other hbefore hcompiling
        obtain rfl : call = other := Option.some.inj (hcall.symm.trans hother)
        exact if_pos hplace

/-- A call that drew a number and compiles after a step compiled before it: one that has just handed its
version over has not drawn a number yet. -/
lemma Sound.compiling_before (h : s.Sound shop start) {calls : CallSystem α Failure} {new : Option Nat}
    (hnew : s.calls.Begins calls new) {i : Nat} {call : Call α Failure} (hdrew : i ∈ s.drawers)
    (hcall : calls.calls[i]? = some call) (hcompiling : call.phase.isCompiling = true) :
    s.calls.calls[i]? = some call := by
  refine (hnew.compiling i call hcall hcompiling).resolve_left fun hi => ?_
  obtain ⟨⟨old, hold, hcounting⟩, -⟩ := hnew.counting i hi
  obtain ⟨other, hother, hbegun⟩ := h.begun_of_drawer hdrew
  obtain rfl : other = old := Option.some.inj (hother.symm.trans hold)
  rw [Phase.not_isBegun_of_isCounting hcounting] at hbegun
  cases hbegun

lemma Sound.other (h : s.Sound shop start) {calls : CallSystem α Failure}
    (hstep : CallSystem.Step shop.words (fun _ _ _ => False) s.calls calls) :
    ({ s with calls := calls } : NumberedSystem α).Sound shop start := by
  obtain ⟨new, hnew⟩ := CallSystem.begins_of_step hstep
  exact
    { h with
      calls := h.calls.more (hstep.mono fun _ _ _ => False.elim)
      order := h.order_other hnew
      begun := h.begun_other hnew
      current := fun i job hjob call v hcall hphase => by
        have hcompiling : call.phase.isCompiling = true := by rw [hphase]; rfl
        have hbefore := h.compiling_before hnew (mem_drawers.mpr ⟨job, hjob⟩) hcall hcompiling
        obtain ⟨version, hversion, place, number, n, hplace, hjob⟩ :=
          h.current i job hjob call v hbefore hphase
        obtain ⟨version', hversion', hsource⟩ := CallSystem.source_of_step hstep hversion
        exact ⟨version', hversion', place, number, n, hplace, by rw [hsource]; exact hjob⟩
      returned := fun i v result hresult => by
        refine (h.returned i v result (hnew.returned i v result hresult)).imp_right ?_
        rintro ⟨call, reason, hcall, hplace, heq⟩
        obtain ⟨call', hcall', hcell, -⟩ := hnew.kept i call hcall
        exact ⟨call', reason, hcall', by rw [hcell]; exact hplace, heq⟩ }

section

variable {i v : Nat} {call : Call α Failure} {place : Text} {version : Version α Failure}

lemma drawers_draw : (s.draw shop i call place version).drawers = s.drawers ++ [i] := by
  rw [drawers, draw, List.map_append]
  rfl

/-- The number that is drawn is the next one. -/
lemma Sound.text_ids (h : s.Sound shop start) :
    s.ids.text = Text.ofNat (start + s.jobs.length) := by
  rw [h.ids]
  rfl

lemma Sound.draw (h : s.Sound shop start) (hcall : s.calls.calls[i]? = some call)
    (hphase : call.phase = .compiling v) (hplace : shop.place call.cell = .ok place)
    (hversion : s.calls.version? v = some version) (hnew : i ∉ s.drawers) :
    (s.draw shop i call place version).Sound shop start where
  calls := h.calls
  ids := by
    rw [NumberedSystem.draw, h.ids, List.length_append]
    rfl
  numbered k j job hjob := by
    rw [NumberedSystem.draw] at hjob
    rcases Nat.lt_or_ge k s.jobs.length with hk | hk
    · rw [List.getElem?_append_left hk] at hjob
      exact h.numbered k j job hjob
    · rw [List.getElem?_append_right hk] at hjob
      rw [List.getElem?_singleton] at hjob
      split at hjob
      · rename_i hzero
        obtain rfl : k = s.jobs.length := Nat.le_antisymm (Nat.sub_eq_zero_iff_le.mp hzero) hk
        cases hjob
        exact ⟨call.cell, place, version.number, version.source, hplace, by rw [h.text_ids]⟩
      · cases hjob
  once := by
    rw [drawers_draw]
    exact List.nodup_append.mpr ⟨h.once, List.nodup_singleton _, fun a ha b hb => by
      rw [List.mem_singleton.mp hb]
      rintro rfl
      exact hnew ha⟩
  order := by
    obtain ⟨pending, hattempts, hpending⟩ := h.order
    have hcompiling : call.phase.isCompiling = true := by rw [hphase]; rfl
    obtain rfl : pending = some i := (hpending i).mpr
      ⟨hnew, call, hcall, hcompiling, shop.isPlaced_of_place hplace⟩
    rw [drawers_draw]
    refine ⟨none, hattempts.trans (List.append_nil _).symm, fun j => ⟨nofun, ?_⟩⟩
    rintro ⟨hj, hother⟩
    rw [List.mem_append, not_or] at hj
    cases (hpending j).mpr ⟨hj.1, hother⟩
    exact absurd (List.mem_singleton_self _) hj.2
  begun := h.begun
  current j job hjob other w hother hphase' := by
    rcases List.mem_append.mp hjob with hjob | hjob
    · exact h.current j job hjob other w hother hphase'
    · cases List.mem_singleton.mp hjob
      obtain rfl : call = other := Option.some.inj (hcall.symm.trans hother)
      obtain rfl : v = w := Phase.compiling.inj (hphase.symm.trans hphase')
      exact ⟨version, hversion, _, _, _, hplace, rfl⟩
  returned j w result hresult := by
    refine (h.returned j w result hresult).imp_left ?_
    rintro ⟨job, answer, hjob, hrest⟩
    exact ⟨job, answer, List.mem_append_left _ hjob, hrest⟩

/-- **A compilation comes back**, which has drawn a number if its cell has a place. -/
lemma Sound.comeBack (h : s.Sound shop start) {result : Except Failure α}
    (hcall : s.calls.calls[i]? = some call) (hphase : call.phase = .compiling v)
    (hversion : s.calls.version? v = some version)
    (hcomes : shop.Comes call.cell version.source result)
    (hdrew : shop.isPlaced call.cell = true → i ∈ s.drawers)
    (hresult : (∃ job answer, (i, job) ∈ s.jobs ∧ (∀ m, job.module = .ok m → shop.answers m answer) ∧
        result = comesTo job answer) ∨
      ∃ reason, shop.place call.cell = .error reason ∧ result = .error (.fault reason)) :
    ({ s with calls := s.calls.comeBack i call v result } : NumberedSystem α).Sound shop start := by
  have hkept (j : Nat) (other : Call α Failure) (hother : s.calls.calls[j]? = some other) :
      ∃ other', (s.calls.comeBack i call v result).calls[j]? = some other' ∧
        other'.cell = other.cell ∧ (other.phase.isBegun = true → other'.phase.isBegun = true) := by
    by_cases hij : i = j
    · subst hij
      obtain rfl : call = other := Option.some.inj (hcall.symm.trans hother)
      exact ⟨_, (CallSystem.calls_comeBack hcall i).trans (if_pos rfl), rfl,
        fun _ => Phase.isBegun_compiled v result⟩
    · exact ⟨other, (CallSystem.calls_comeBack hcall j).trans ((if_neg hij).trans hother), rfl, id⟩
  exact
    { h with
      calls := h.calls.more (.comeBack s.calls i call v version _ hcall hphase hversion hcomes)
      order := by
        obtain ⟨pending, hattempts, hpending⟩ := h.order
        refine ⟨pending, ?_, fun j => (hpending j).trans (and_congr_right fun hj => ?_)⟩
        · refine Eq.trans ?_ hattempts
          rw [CallSystem.attempts_comeBack]
          refine CallSystem.placed_eq fun j hj => ?_
          obtain ⟨other, hother, -⟩ := h.begun j hj
          obtain ⟨other', hother', hcell, -⟩ := hkept j other hother
          exact ⟨other, other', hother, hother', hcell⟩
        · refine exists_congr fun other => and_congr_left fun ⟨hcompiling, hplace⟩ => ?_
          rw [CallSystem.others_comeBack hcall (.inr hcompiling)]
          refine ⟨fun hother => ⟨?_, hother⟩, And.right⟩
          rintro rfl
          obtain rfl : call = other := Option.some.inj (hcall.symm.trans hother)
          exact hj (hdrew hplace)
      begun := fun j hj => by
        obtain ⟨other, hother, hbegun⟩ := h.begun j (CallSystem.attempts_comeBack ▸ hj)
        obtain ⟨other', hother', -, hbegun'⟩ := hkept j other hother
        exact ⟨other', hother', hbegun' hbegun⟩
      current := fun j job' hjob' other w hother hphase' => by
        have hcompiling : other.phase.isCompiling = true := by rw [hphase']; rfl
        have hbefore := ((CallSystem.others_comeBack hcall (.inr hcompiling)).mp hother).2
        exact h.current j job' hjob' other w hbefore hphase'
      returned := fun j w result' hmem => by
        rcases List.mem_cons.mp hmem with heq | hmem
        · cases heq
          refine hresult.imp_right ?_
          rintro ⟨reason, hplace, heq⟩
          obtain ⟨call', hcall', hcell, -⟩ := hkept i call hcall
          exact ⟨call', reason, hcall', by rw [hcell]; exact hplace, heq⟩
        · refine (h.returned j w result' hmem).imp_right ?_
          rintro ⟨other, reason, hother, hplace, heq⟩
          obtain ⟨other', hother', hcell, -⟩ := hkept j other hother
          exact ⟨other', reason, hother', by rw [hcell]; exact hplace, heq⟩ }

end

/-- **Every step keeps the invariant.** -/
lemma sound_step (h : s.Sound shop start) (hstep : Step shop s t) : t.Sound shop start := by
  cases hstep with
  | other calls hstep => exact h.other hstep
  | draw i call v place version hcall hphase hplace hversion hnew =>
      exact h.draw hcall hphase hplace hversion hnew
  | unplaced i call v reason version hcall hphase hplace hversion =>
      refine h.comeBack hcall hphase hversion (.inl ⟨reason, hplace, rfl⟩) (fun hplaced => ?_)
        (.inr ⟨reason, hplace, rfl⟩)
      rw [shop.not_isPlaced_of_place hplace] at hplaced
      cases hplaced
  | comeBack i call v job answer hcall hphase hjob hanswer =>
      obtain ⟨version, hversion, place, number, n, hplace, rfl⟩ := h.current i job hjob call v hcall hphase
      exact h.comeBack hcall hphase hversion (.inr ⟨place, number, n, answer, hplace, hanswer, rfl⟩)
        (fun _ => mem_drawers.mpr ⟨_, hjob⟩) (.inl ⟨_, answer, hjob, hanswer, rfl⟩)

lemma sound_of_reachable (h : Reachable shop start s) : s.Sound shop start := by
  induction h with
  | empty => exact sound_empty
  | more _ hstep ih => exact sound_step ih hstep

end NumberedSystem

open Eval

/-- A call that is not disturbed writes the place of its cell and draws the next number as well, before
anything is generated. -/
lemma Run.jobFor_eq {w : World} {compiler cell version : Nat} {record : CellRecord}
    {c : CompilerRecord} (hcell : w.cells[cell]? = some record)
    (hcompiler : w.compilers[compiler]? = some c) :
    (∀ place, (w.viewCoordinate record.coordinate).formatted = .ok place →
      ∃ job, Run.jobFor compiler cell version w = (.ok (.ok job),
          { w with compilers := w.compilers.modify compiler fun c => { c with ids := c.ids.rest } }) ∧
        job.number = c.ids.text ∧ job.settings = c.settings ∧ job.rules = c.rules ∧
        job.kind = record.kind ∧ job.cube = record.cube ∧ job.coordinate = place) ∧
    (∀ reason, (w.viewCoordinate record.coordinate).formatted = .error reason →
      Run.jobFor compiler cell version w = (.ok (.error reason), w)) := by
  have hget : (get : Eval World) w = (.ok w, w) := rfl
  have hrecord : Run.cellRecord cell w = (.ok record, w) := by
    rw [Run.cellRecord, bind_of_ok hget, hcell]
    rfl
  have hown : Run.compilerRecord compiler w = (.ok c, w) := by
    rw [Run.compilerRecord, bind_of_ok hget, hcompiler]
    rfl
  rw [Run.jobFor, bind_of_ok hrecord, bind_of_ok hown, bind_of_ok hget]
  refine ⟨fun place hplace => ?_, fun reason hreason => ?_⟩
  · rw [hplace]
    exact ⟨_, rfl, rfl, rfl, rfl, rfl, rfl, rfl⟩
  · rw [hreason]
    rfl

end FormulaCube
