import FormulaCube.Proofs.Nesting.Moment
import FormulaCube.Run.Loading

/-!
# The code of playbooks

A playbook is code that refers to other cells: each action makes the values it is about, refers to a
cell or changes something, and the results are collected. So an evaluation of cells with playbooks has
the moments that this code has. Unless an action sets an entry, nothing is changed at these moments that
looking things up would not change.

* `Script.bind`, `Script.lift`, `Script.refer` — code is put together; `Script.run_bind` says what it
  comes to.
* `playbookCodes` — the code of playbooks; `Moment.runs_playbookCodes` — it is what the back ends run.
* `Undisturbed` — what looking things up may change; `moments_undisturbed` — whole evaluations.
* `moments_isQuiet` — playbooks that set nothing.
-/

namespace FormulaCube

open Run Eval

/-! ## Putting code together -/

namespace Script

variable {α β : Type}

/-- Code, and then code that goes on with its result. -/
def bind : Script α → (α → Script β) → Script β
  | .done (.ok a), f => f a
  | .done (.error e), _ => .done (.error e)
  | .look next, f => .look fun w => (next w).bind f
  | .change g next, f => .change g (next.bind f)
  | .call r coordinate next, f => .call r coordinate fun result => (next result).bind f

instance : Monad Script where
  pure a := .done (.ok a)
  bind := bind

/-- A computation that refers to no other cell. -/
def lift (x : Eval α) : Script α := .look fun w => .change (fun _ => (x w).2) (.done (x w).1)

/-- A reference to another cell. -/
def refer (r : Reference) (coordinate : Datum) : Script Datum := .call r coordinate .done

variable (ask : Ask) (s : Surroundings)

@[simp]
lemma run_pure (a : α) : (pure a : Script α).run ask s = pure a := rfl

@[simp]
lemma run_lift (x : Eval α) : (lift x).run ask s = x := rfl

@[simp]
lemma run_refer (r : Reference) (coordinate : Datum) :
    (refer r coordinate).run ask s = r.perform ask s coordinate := rfl

/-- **Code that goes on** comes to what it comes to, one after the other. -/
@[simp]
theorem run_bind (script : Script α) (f : α → Script β) :
    (script >>= f).run ask s = script.run ask s >>= fun a => (f a).run ask s := by
  funext w
  change (script.bind f).run ask s w = _
  induction script generalizing w with
  | done result => cases result <;> rfl
  | look next ih => exact ih w w
  | change g next ih => exact ih (g w)
  | call r coordinate next ih => exact ih _ _

end Script

open Script

/-! ## Playbooks -/

/-- The code of an action. -/
def Action.code (s : Surroundings) : Action → Script (List Datum)
  | .fixed cube coordinate => do
    let name ← lift (load cube)
    return [← refer (.fixed name) (← lift (load coordinate))]
  | .relative coordinate => do return [← refer .relative (← lift (load coordinate))]
  | .relativeCube cube coordinate => do
    let name ← lift (load cube)
    return [← refer (.relativeCube name) (← lift (load coordinate))]
  | .fixedInput cube => do return [← refer (.fixed (← lift (load cube))) s.input]
  | action => lift (Run.perform (fun _ _ _ => fault .tooDeep) s action)

/-- An action comes to what its code comes to. -/
lemma Action.run_code (ask : Ask) (s : Surroundings) (action : Action) :
    (action.code s).run ask s = Run.perform ask s action := by
  cases action <;> simp [code, Run.perform, Reference.perform]

/-- The code of actions, one after the other. -/
def actionsCode (s : Surroundings) : List Action → Script (List Datum)
  | [] => return []
  | action :: actions => do
    let first ← action.code s
    return first ++ (← actionsCode s actions)

lemma run_actionsCode (ask : Ask) (s : Surroundings) (actions : List Action) :
    (actionsCode s actions).run ask s = performAll ask s actions := by
  induction actions with
  | nil => rfl
  | cons action actions ih => simp [actionsCode, performAll, Action.run_code, ih]

/-- The code of a method that every cell has, called with these arguments. -/
def callbackCode (c : Callback) (s : Surroundings) (values : List (Text × Datum)) : Script Datum :=
  let argument (name : String) : Datum := (values.lookup name.toList).getD .none
  match c with
  | .fixed => refer (.fixed (argument "name")) (argument "coord")
  | .relative => refer .relative (argument "coord")
  | .relativeCube => refer (.relativeCube (argument "name")) (argument "coord")
  | c => lift (c.perform (fun _ _ _ => fault .tooDeep) s values)

lemma run_callbackCode (ask : Ask) (s : Surroundings) (c : Callback)
    (values : List (Text × Datum)) :
    (callbackCode c s values).run ask s = c.perform ask s values := by
  cases c <;> rfl

/-- The code of an attribute that is no method of a playbook, called without arguments. -/
def attributeCode (s : Surroundings) (className name : Text) : Script Datum :=
  match Callback.ofLabel? name with
  | some c => do
    let received ← lift (ofExcept (c.signature.receive [.none] []))
    callbackCode c s received.values
  | none => lift (callAttribute (fun _ _ _ => fault .tooDeep) s className name)

lemma run_attributeCode (ask : Ask) (s : Surroundings) (className name : Text) :
    (attributeCode s className name).run ask s = callAttribute ask s className name := by
  rw [attributeCode]
  cases h : Callback.ofLabel? name with
  | some c =>
      dsimp only
      rw [callAttribute, h]
      simp [Callback.call, run_callbackCode]
  | none =>
      dsimp only
      rw [run_lift, callAttribute, callAttribute, h]

/-- The code of an attribute of a cell with a playbook, called without arguments. -/
def methodCode (s : Surroundings) (className : Text) (methods : List (Text × List Action)) :
    (method : Datum) → Script Datum
  | .str name _ =>
    match s.attributes.lookup name, methods.lookup name with
    | some d, _ => lift (do fault (.notCallable (← typeName d)))
    | none, some actions => do lift (add (.list (← actionsCode s actions)))
    | none, none => attributeCode s className name
  | other => lift (do fault (.attributeName (← typeName other)))

lemma run_methodCode (ask : Ask) (s : Surroundings) (className : Text)
    (methods : List (Text × List Action)) (method : Datum) :
    (methodCode s className methods method).run ask s =
      invokePlaybook ask s className methods method := by
  cases method with
  | str name mark =>
      rw [methodCode, invokePlaybook]
      cases s.attributes.lookup name with
      | some d => rfl
      | none =>
          cases methods.lookup name with
          | some actions => simp [playMethod, run_actionsCode]
          | none => exact run_attributeCode ask s className name
  | _ => rfl

/-- The code of artifacts with playbooks. -/
def playbookCodes : Codes := fun artifact s method =>
  match artifact.program with
  | .playbook methods => methodCode s artifact.className methods method
  | .code _ => .done (.ok .none)

/-- **The code of playbooks** is what the back ends run. -/
theorem Moment.runs_playbookCodes {moment : Moment}
    (h : ∀ artifact method, moment.act = .start artifact method →
      ∃ methods, artifact.program = .playbook methods) :
    moment.Runs Run.machine playbookCodes := by
  rw [Runs]
  cases hact : moment.act with
  | start artifact method =>
      obtain ⟨className, text, program⟩ := artifact
      obtain ⟨methods, rfl⟩ := h _ _ hact
      exact fun ask => (run_methodCode ask _ className methods method).symm
  | _ => trivial

/-! ## Looking things up -/

/-- Nothing is different but what looking things up makes so. -/
def Undisturbed (w w' : World) : Prop := ∀ {I : World → Prop}, Tolerant I → I w → I w'

namespace Script

variable {α β : Type} {w : World}

/-- Code changes nothing but by looking things up. -/
def OnlyLooks : Script α → World → Prop
  | .done _, _ => True
  | .look next, w => (next w).OnlyLooks w
  | .change f next, w => Undisturbed w (f w) ∧ next.OnlyLooks (f w)
  | .call _ _ next, _ => ∀ result w, (next result).OnlyLooks w

lemma OnlyLooks.lift {x : Eval α} (hx : ∀ {I : World → Prop}, Tolerant I → Preserves I x) :
    (lift x).OnlyLooks w :=
  ⟨fun hI h => hx hI w h, trivial⟩

lemma OnlyLooks.refer (r : Reference) (coordinate : Datum) : (refer r coordinate).OnlyLooks w :=
  fun _ _ => trivial

lemma OnlyLooks.bind {script : Script α} {f : α → Script β} (h : script.OnlyLooks w)
    (hf : ∀ a w, (f a).OnlyLooks w) : (script >>= f).OnlyLooks w := by
  change (script.bind f).OnlyLooks w
  induction script generalizing w with
  | done result =>
      cases result with
      | ok a => exact hf a w
      | error e => trivial
  | look next ih => exact ih w h
  | change g next ih => exact ⟨h.1, ih h.2⟩
  | call r coordinate next ih => exact fun result w => ih result (h result w)

end Script

namespace Moment

/-- Code that starts changes nothing but by looking things up. -/
def StartsLooking (codes : Codes) (moment : Moment) : Prop :=
  match moment.act with
  | .start artifact method => (codes artifact moment.surroundings method).OnlyLooks moment.world
  | _ => True

/-- Code changes nothing but by looking things up. -/
def IsUndisturbed (moment : Moment) : Prop :=
  match moment.act with
  | .change after => Undisturbed moment.world after
  | _ => True

end Moment

/-- If all code that starts only looks, nothing is disturbed. -/
def Undisturbing (codes : Codes) (below : Below) : Prop :=
  ∀ isDirect cube coordinate output w,
    (∀ moment ∈ below isDirect cube coordinate output w, moment.StartsLooking codes) →
    ∀ moment ∈ below isDirect cube coordinate output w, moment.IsUndisturbed

section

variable {codes : Codes} {below : Below} {s : Surroundings} {w : World}

/-- Code that only looks disturbs nothing, nor do the cells that it refers to. -/
lemma Script.moments_undisturbed {α : Type} (ask : Ask) (hbelow : Undisturbing codes below)
    (levels : List Level) (isDirect : Bool) {script : Script α} (h : script.OnlyLooks w)
    (hstarts : ∀ moment ∈ script.moments ask below levels isDirect s w,
      moment.StartsLooking codes) :
    ∀ moment ∈ script.moments ask below levels isDirect s w, moment.IsUndisturbed := by
  induction script generalizing w with
  | done result => exact List.forall_mem_singleton.mpr trivial
  | look next ih => exact ih w h hstarts
  | change f next ih =>
      exact List.forall_mem_cons.mpr ⟨h.1, ih h.2 (List.forall_mem_cons.mp hstarts).2⟩
  | call r coordinate next ih =>
      obtain ⟨hcalled, hafter⟩ :=
        List.forall_mem_append.mp (List.forall_mem_cons.mp hstarts).2
      refine List.forall_mem_cons.mpr ⟨trivial, List.forall_mem_append.mpr
        ⟨?_, ih _ (h _ _) hafter⟩⟩
      rw [Reference.moments] at hcalled ⊢
      split at hcalled
      next number target w' _ => exact hbelow _ number target s.output w' hcalled
      next => exact fun _ hmem => nomatch hmem

/-- **An evaluation in which all code only looks** disturbs nothing. -/
theorem moments_undisturbed (machine : Machine) (codes : Codes) (depth : Nat) (levels : List Level) :
    Undisturbing codes (moments machine codes depth levels) := by
  induction depth generalizing levels with
  | zero => exact fun _ _ _ _ _ _ _ hmem => nomatch hmem
  | succ depth ih =>
      intro isDirect cube coordinate output w hstarts
      rw [moments] at hstarts ⊢
      split at hstarts
      next entered w₁ _ =>
        obtain ⟨-, hrunning⟩ := List.forall_mem_append.mp hstarts
        refine List.forall_mem_append.mpr ⟨?_, ?_⟩
        · rw [Entered.compiling]
          cases compilation? machine entered.compiler entered.cell w₁ with
          | none => exact fun _ hmem => nomatch hmem
          | some worlds => exact List.forall_mem_singleton.mpr trivial
        · rw [Entered.running] at hrunning ⊢
          split at hrunning
          next artifact method w₂ _ =>
            obtain ⟨hstart, hrest⟩ := List.forall_mem_cons.mp hrunning
            exact List.forall_mem_cons.mpr ⟨trivial,
              Script.moments_undisturbed _ (ih _) _ isDirect hstart hrest⟩
          next => exact fun _ hmem => nomatch hmem
      next => exact fun _ hmem => nomatch hmem

end

/-! ## Playbooks that set nothing -/

section

variable {I : World → Prop} {w : World} {cells : List (Text × Nat)}

mutual

lemma loadInto_preserves (hI : Tolerant I) (v : Value) {m : Memory} (h : I { w with memory := m }) :
    I { w with memory := (World.loadInto cells v m).2 } := by
  cases v with
  | int i | float x | str t => exact hI.fresh { w with memory := m } h
  | list items => exact hI.add _ (loadAll_preserves hI items h)
  | tuple items => exact hI.fresh _ (loadAll_preserves hI items h)
  | dict entries => exact hI.add _ (loadEntries_preserves hI entries h)
  | set items => exact hI.add _ (loadAll_preserves hI items h)
  | cell name =>
      rw [World.loadInto]
      cases cells.lookup name <;> exact h
  | frame cube coordinate =>
      exact hI.add _ (loadInto_preserves hI coordinate (loadInto_preserves hI cube h))
  | _ => exact h

lemma loadAll_preserves (hI : Tolerant I) (items : List Value) {m : Memory}
    (h : I { w with memory := m }) : I { w with memory := (World.loadAll cells items m).2 } := by
  cases items with
  | nil => exact h
  | cons item items => exact loadAll_preserves hI items (loadInto_preserves hI item h)

lemma loadEntries_preserves (hI : Tolerant I) (entries : List (Value × Value)) {m : Memory}
    (h : I { w with memory := m }) :
    I { w with memory := (World.loadEntries cells entries m).2 } := by
  cases entries with
  | nil => exact h
  | cons entry entries =>
      exact loadEntries_preserves hI entries
        (loadInto_preserves hI entry.2 (loadInto_preserves hI entry.1 h))

end

/-- Making a value anew adds objects. -/
lemma Tolerant.load (hI : Tolerant I) (v : Value) : Preserves I (load v) :=
  fun _ h => loadInto_preserves hI v h

end

/-- Whether an action sets no entry. -/
def Action.isQuiet : Action → Bool
  | .setInput .. | .setOutput .. => false
  | _ => true

/-- Whether nothing is compiled, and no code starts but that of playbooks that set no entry. -/
def Moment.isQuiet (moment : Moment) : Bool :=
  match moment.act with
  | .compile _ => false
  | .start ⟨_, _, .playbook methods⟩ _ => methods.all fun method => method.2.all Action.isQuiet
  | .start ⟨_, _, .code _⟩ _ => false
  | _ => true

section

variable {s : Surroundings} {w : World}

lemma Action.onlyLooks_code {action : Action} (h : action.isQuiet = true) :
    (action.code s).OnlyLooks w := by
  have hload (v : Value) {w : World} : (lift (load v)).OnlyLooks w := .lift fun hI => hI.load v
  have hpure (ds : List Datum) {w : World} : (pure ds : Script (List Datum)).OnlyLooks w := trivial
  cases action with
  | fixed cube coordinate | relativeCube cube coordinate =>
      exact (hload cube).bind fun _ _ => (hload coordinate).bind fun _ _ =>
        (OnlyLooks.refer _ _).bind fun _ _ => hpure _
  | relative coordinate =>
      exact (hload coordinate).bind fun _ _ => (OnlyLooks.refer _ _).bind fun _ _ => hpure _
  | fixedInput cube =>
      exact (hload cube).bind fun _ _ => (OnlyLooks.refer _ _).bind fun _ _ => hpure _
  | value v => exact .lift fun hI => .bind (hI.load v) fun _ => .pure _
  | input key =>
      exact .lift fun hI => .bind (hI.load key) fun d => .bind (hI.itemAt s.input d) fun _ => .pure _
  | stack =>
      have hadd {I : World → Prop} (hI : Tolerant I) (items : List Datum) :
          Preserves I (Eval.add (.list items)) := fun _ h => hI.add (.list items) h
      exact .lift fun hI => .bind (hI.members s.stack) fun items =>
        .bind (hadd hI items) fun _ => .pure _
  | cubeName => exact .lift fun _ => .bind (Tolerant.nameOf s.cube) fun _ => .pure _
  | raise kind argument => exact .lift fun _ => .fault _
  | setInput key value | setOutput key value => cases h

lemma onlyLooks_actionsCode {actions : List Action} (h : actions.all Action.isQuiet = true) :
    (actionsCode s actions).OnlyLooks w := by
  induction actions generalizing w with
  | nil => trivial
  | cons action actions ih =>
      rw [List.all_cons, Bool.and_eq_true] at h
      exact (Action.onlyLooks_code h.1).bind fun _ _ => (ih h.2).bind fun _ _ => trivial

lemma onlyLooks_callbackCode (c : Callback) (values : List (Text × Datum)) :
    (callbackCode c s values).OnlyLooks w := by
  cases c with
  | fixed | relative | relativeCube => exact .refer _ _
  | run => exact .lift fun _ => .fault _
  | find => exact .lift fun _ => .bind (Tolerant.view _) fun _ => Tolerant.findCube _ _ _ _
  | setUp => exact .lift fun _ => .pure _
  | create => exact .lift fun _ => .bind (Tolerant.typeName _) fun _ => .fault _

lemma onlyLooks_attributeCode (className name : Text) :
    (attributeCode s className name).OnlyLooks w := by
  rw [attributeCode]
  cases h : Callback.ofLabel? name with
  | some c =>
      exact (OnlyLooks.lift fun _ => .ofExcept _).bind fun _ _ => onlyLooks_callbackCode c _
  | none =>
      refine .lift fun _ => ?_
      rw [callAttribute, h]
      dsimp only
      split <;> exact .fault _

lemma onlyLooks_methodCode (className : Text) {methods : List (Text × List Action)}
    (h : methods.all (fun method => method.2.all Action.isQuiet) = true) (method : Datum) :
    (methodCode s className methods method).OnlyLooks w := by
  cases method with
  | str name mark =>
      rw [methodCode]
      cases s.attributes.lookup name with
      | some d => exact .lift fun _ => .bind (Tolerant.typeName d) fun _ => .fault _
      | none =>
          cases hactions : methods.lookup name with
          | some actions =>
              obtain ⟨before, after, rfl, -⟩ := List.lookup_eq_some_iff.mp hactions
              have hquiet := List.all_eq_true.mp h _ (List.mem_append_right _ List.mem_cons_self)
              exact (onlyLooks_actionsCode hquiet).bind fun ds _ =>
                .lift fun hI _ hworld => hI.add (.list ds) hworld
          | none => exact onlyLooks_attributeCode className name
  | _ => exact .lift fun _ => .bind (Tolerant.typeName _) fun _ => .fault _

end

/-- The code of a playbook that sets nothing only looks. -/
lemma Moment.startsLooking_of_isQuiet {moment : Moment} (h : moment.isQuiet = true) :
    moment.StartsLooking playbookCodes := by
  rw [isQuiet] at h
  rw [StartsLooking]
  cases hact : moment.act with
  | start artifact method =>
      obtain ⟨className, text, program⟩ := artifact
      rw [hact] at h
      cases program with
      | playbook methods => exact onlyLooks_methodCode className h method
      | code type => cases h
  | _ => trivial

lemma Moment.runs_of_isQuiet {moment : Moment} (h : moment.isQuiet = true) :
    moment.Runs Run.machine playbookCodes := by
  refine runs_playbookCodes fun artifact method hact => ?_
  rw [isQuiet, hact] at h
  obtain ⟨className, text, program⟩ := artifact
  cases program with
  | playbook methods => exact ⟨methods, rfl⟩
  | code type => cases h

/-- **Playbooks that set nothing** disturb nothing: at the moments of an evaluation of cells with such
playbooks the back ends run their code, and it changes only what looking things up changes. -/
theorem moments_isQuiet {depth cube : Nat} {levels : List Level} {isDirect : Bool}
    {coordinate output : Datum} {w : World}
    (h : ∀ moment ∈ moments Run.machine playbookCodes depth levels isDirect cube coordinate output w,
      moment.isQuiet = true) :
    ∀ moment ∈ moments Run.machine playbookCodes depth levels isDirect cube coordinate output w,
      moment.Runs Run.machine playbookCodes ∧ moment.IsUndisturbed :=
  fun moment hmem => ⟨Moment.runs_of_isQuiet (h moment hmem),
    moments_undisturbed Run.machine playbookCodes depth levels isDirect cube coordinate output w
      (fun moment hmem => Moment.startsLooking_of_isQuiet (h moment hmem)) moment hmem⟩

end FormulaCube
