import FormulaCube.Proofs.Registry.Directory
import FormulaCube.Run.Registered

/-!
# Writers and readers of the registry, interleaved

Any number of changes of one registry, and any number of questions for the cube of a name, whose
steps come in any order.

* `RegistrySystem` — what they share, and where each of them stands.
* `RegistrySystem.Step` — one step: a change begins or takes its next step (`Writing.step`), a change
  that is made is reported, or a question is asked, fetches the map, or looks the name up in it.
* `RegistrySystem.Reachable` — what any number of steps lead to, from an empty registry.

**The past.** Who took the lock, what was published, and what was reported is kept in the order in
which it happened. No step reads it.

**One at a time.** `Run.change` makes a change in one go. That is what the small steps come to for a
writer that nobody disturbs (`Writing.alone`), and its reports are those of `Change.event?`.

The changes and questions of one thread follow one another, and that is one of the orders covered
here.
-/

namespace FormulaCube

variable {α : Type}

/-- What is reported of a change that found this before it. -/
def Change.event? : Change α → Option α → Option Event
  | .register name _, found =>
    some ⟨"cube_registered".toList, .info,
      [("cube".toList, .str name), ("replaced".toList, .bool found.isSome)]⟩
  | .remove name, some _ =>
    some ⟨"cube_removed".toList, .info, [("cube".toList, .str name)]⟩
  | .remove _, none => none
  | .clear, _ => none

lemma Run.register_eq (name : Text) (cube : Nat) :
    Run.register name cube = (do
      let found ← Run.change (.register name cube)
      ((Change.register name cube).event? found).forM Eval.report) := rfl

lemma Run.unregister_eq (name : Text) :
    Run.unregister name = (do
      let found ← Run.change (.remove name)
      ((Change.remove name : Change Nat).event? found).forM Eval.report
      return (found.map Datum.cube).getD .none) := by
  refine bind_congr fun found => ?_
  cases found <;> rfl

/-- A writer that nobody disturbs makes its change in five steps. -/
lemma Writing.alone (me : Nat) (change : Change α) (d : Directory α) :
    (do
      let (phase, shared) ← Writing.step me ⟨d, none⟩ (.waiting change)
      let (phase, shared) ← Writing.step me shared phase
      let (phase, shared) ← Writing.step me shared phase
      let (phase, shared) ← Writing.step me shared phase
      Writing.step me shared phase) =
    some (.done (change.found? d), ⟨change.apply d, none⟩) := rfl

namespace Writing

/-- The turn that the next step takes: which writer takes the lock, and for which change. -/
def turn (me : Nat) : Writing α → List (Nat × Change α)
  | .waiting change => [(me, change)]
  | _ => []

/-- The map that the next step publishes, with the writer. -/
def map (me : Nat) : Writing α → List (Nat × Directory α)
  | .publishing _ copy => [(me, copy)]
  | _ => []

end Writing

/-- A change that was asked for. -/
structure Writer (α : Type) where
  /-- The change. -/
  change : Change α
  /-- Where it stands. -/
  phase : Writing α
  /-- Whether it was reported. -/
  reported : Bool

/-- Where a question for the cube of a name stands. -/
inductive Asking (α : Type) where
  /-- The current map is about to be fetched. -/
  | fetching
  /-- The name is about to be looked up in the map. -/
  | looking (directory : Directory α)
  /-- The question is answered. -/
  | answered (found : Option α)

/-- A question for the cube of a name. -/
structure Question (α : Type) where
  /-- The name. -/
  name : Text
  /-- How many maps had been published when it was asked. -/
  since : Nat
  /-- Where it stands. -/
  phase : Asking α

/-- All writers and readers of one registry, with what they share. -/
structure RegistrySystem (α : Type) where
  /-- What they share. -/
  shared : Published α
  /-- The changes. -/
  writers : Array (Writer α)
  /-- The questions. -/
  questions : Array (Question α)
  /-- The writers that took the lock, with their changes, the first first. -/
  turns : List (Nat × Change α)
  /-- The maps that were published, with their writers, the first first. -/
  maps : List (Nat × Directory α)
  /-- What was reported, with the writers, the first first. -/
  reports : List (Nat × Event)

namespace RegistrySystem

/-- An empty registry. -/
def empty : RegistrySystem α := ⟨⟨[], none⟩, #[], #[], [], [], []⟩

/-- The changes of the first writers that took the lock, one after the other, on an empty map. -/
def mapAfter (s : RegistrySystem α) (k : Nat) : Directory α :=
  Directory.after ((s.turns.take k).map (·.2))

/-- A change is asked for. -/
def begin (s : RegistrySystem α) (change : Change α) : RegistrySystem α :=
  { s with writers := s.writers.push ⟨change, .waiting change, false⟩ }

/-- A writer goes on in another phase. -/
def goOn (s : RegistrySystem α) (i : Nat) (writer : Writer α) (phase : Writing α)
    (shared : Published α) : RegistrySystem α :=
  { s with
    shared := shared
    writers := s.writers.setIfInBounds i { writer with phase := phase }
    turns := s.turns ++ writer.phase.turn i
    maps := s.maps ++ writer.phase.map i }

/-- A change that is made is reported. -/
def report (s : RegistrySystem α) (i : Nat) (writer : Writer α) (found : Option α) :
    RegistrySystem α :=
  { s with
    writers := s.writers.setIfInBounds i { writer with reported := true }
    reports := s.reports ++ ((writer.change.event? found).map fun event => (i, event)).toList }

/-- The cube of a name is asked for. -/
def ask (s : RegistrySystem α) (name : Text) : RegistrySystem α :=
  { s with questions := s.questions.push ⟨name, s.maps.length, .fetching⟩ }

/-- A question goes on in another phase. -/
def follow (s : RegistrySystem α) (q : Nat) (question : Question α) (phase : Asking α) :
    RegistrySystem α :=
  { s with questions := s.questions.setIfInBounds q { question with phase := phase } }

/-- One step. -/
inductive Step : RegistrySystem α → RegistrySystem α → Prop
  /-- A change is asked for. -/
  | begin (s : RegistrySystem α) (change : Change α) : Step s (s.begin change)
  /-- A writer takes its next step. -/
  | advance (s : RegistrySystem α) (i : Nat) (writer : Writer α) (phase : Writing α)
      (shared : Published α) (hwriter : s.writers[i]? = some writer)
      (hstep : writer.phase.step i s.shared = some (phase, shared)) :
      Step s (s.goOn i writer phase shared)
  /-- A change that is made is reported. -/
  | report (s : RegistrySystem α) (i : Nat) (writer : Writer α) (found : Option α)
      (hwriter : s.writers[i]? = some writer) (hdone : writer.phase = .done found)
      (hreported : writer.reported = false) : Step s (s.report i writer found)
  /-- The cube of a name is asked for. -/
  | ask (s : RegistrySystem α) (name : Text) : Step s (s.ask name)
  /-- A question fetches the map that is current. -/
  | fetch (s : RegistrySystem α) (q : Nat) (question : Question α)
      (hquestion : s.questions[q]? = some question) (hphase : question.phase = .fetching) :
      Step s (s.follow q question (.looking s.shared.directory))
  /-- A question looks its name up in the map that it fetched. -/
  | look (s : RegistrySystem α) (q : Nat) (question : Question α) (directory : Directory α)
      (hquestion : s.questions[q]? = some question) (hphase : question.phase = .looking directory) :
      Step s (s.follow q question (.answered (directory.find? question.name)))

/-- What any number of steps lead to. -/
inductive Reachable : RegistrySystem α → Prop
  | empty : Reachable empty
  | more {s t : RegistrySystem α} : Reachable s → Step s t → Reachable t

end RegistrySystem

end FormulaCube
