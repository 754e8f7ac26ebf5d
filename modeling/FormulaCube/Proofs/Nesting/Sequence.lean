import FormulaCube.Proofs.Nesting.InputFlow
import FormulaCube.Run.Recording

/-!
# References one after the other

Code may refer to other cells again and again, and go on when a reference fails. Relative references
merge their coordinates before anything is looked up, so that also those that fail leave their traces in
the input, and each later one is answered at all of them together. A reference that no cube answers is
refused with its coordinate in words; where there are none, the fault of that comes in the place of the
refusal.

* `Turn`, `turns` — references one after the other.
* `Reference.target?`, `Reference.refusal` — the cube that a reference asks, and what is said if there is
  none; `Reference.refused` — what it comes to then.
* `Reference.perform_split` — one reference: it merges, and then it is an answer or a refusal.
* `Turn.IsProper` — a dictionary as the coordinate, and a cube that leaves the input as it is.
* `Turn.IsAnswered` — the answer of a cube, or a refusal for which no cube is asked.
* `turns_answered` — the input after each reference of a sequence, and what it comes to.
* `turns_answered_unwritten` — a refusal without words.
-/

namespace FormulaCube

open Run Eval

/-! ## What a reference asks -/

/-- The name of the cube of a cell; without a cube, and for a cube without a name, an empty one. -/
def ownerName (s : Surroundings) (w : World) : Text :=
  match s.cube with
  | .cube number => (w.cubes[number]?.bind CubeRecord.name).getD []
  | _ => []

/-- The cube of a name, as far as the cell can see the registry. -/
def namedCube? (s : Surroundings) (w : World) (name : Datum) : Option Nat :=
  match s.registry, name with
  | .registry, .str t _ => w.directory.find? t
  | _, _ => none

namespace Reference

/-- If the reference names a cube, it does so by a text. -/
def NamesByText : Reference → Prop
  | .fixed name => ∃ t mark, name = .str t mark
  | .relative => True
  | .relativeCube name => ∃ t mark, name = .str t mark

/-- The cube that is asked, if there is one: the one of the name, or that of the cell. -/
def target? (s : Surroundings) (w : World) : Reference → Option Nat
  | .fixed name => namedCube? s w name
  | .relative =>
    match s.cube with
    | .cube number => some number
    | _ => none
  | .relativeCube name => namedCube? s w name

/-- The coordinate at which it is asked: the input if that goes on, and else the one that was given. -/
def lookup (s : Surroundings) (coordinate : Datum) (r : Reference) : Datum :=
  if r.isRelative then s.input else coordinate

/-- What is said if there is no cube to ask. -/
def refusal (s : Surroundings) (coordinate : Datum) (w : World) : Reference → Failure
  | .fixed name =>
    .unresolved (ownerName s w) (w.view name) (w.view coordinate) "fixed ($)".toList
  | .relative => .unresolved [] (.str "<current>".toList) (w.view coordinate) "relative".toList
  | .relativeCube name =>
    .unresolved (ownerName s w) (w.view name) (w.view coordinate) "relative (@)".toList

/-- What the reference comes to then: what is said, if the coordinate can be written. -/
def refused (s : Surroundings) (coordinate : Datum) (w : World) (r : Reference) : Failure :=
  match (w.view coordinate).formatted with
  | .ok _ => r.refusal s coordinate w
  | .error reason => .fault reason

end Reference

/-- The name of a cube is a text, which can always be written. -/
lemma Failure.unresolvedAt_str (owner t kind : Text) (coordinate : Value) :
    unresolvedAt owner (.str t) coordinate kind =
      match coordinate.formatted with
      | .ok _ => .unresolved owner (.str t) coordinate kind
      | .error reason => .fault reason := by
  have htarget : (Value.str t).displayed = .ok t := rfl
  rw [unresolvedAt]
  cases hplace : coordinate.formatted with
  | ok place => exact raisedWith_of_ok htarget rfl _
  | error reason => exact raisedWith_of_ok_of_error htarget rfl _

/-- What a cell sees in a world: a dictionary as its input, a cube that there is or none, and the registry
or none. -/
structure Run.Surroundings.IsProper (s : Surroundings) (input : Nat) (w : World) : Prop where
  /-- The input is a dictionary. -/
  input : s.input = .ref input
  /-- There is the cube, if it has one. -/
  cube : s.cube = .none ∨ ∃ number, s.cube = .cube number ∧ number < w.cubes.size
  /-- There is only one registry. -/
  registry : s.registry = .none ∨ s.registry = .registry

section

variable {s : Surroundings} {input : Nat} {w : World} {name coordinate : Datum}

lemma Run.Surroundings.IsProper.nameOf_eq (h : s.IsProper input w) :
    nameOf s.cube w = (.ok (ownerName s w), w) := by
  rcases h.cube with hcube | ⟨number, hcube, hnumber⟩
  · rw [ownerName, hcube]
    rfl
  · have hrecord : w.cubes[number]? = some w.cubes[number] := Array.getElem?_eq_getElem hnumber
    rw [ownerName, hcube]
    dsimp only
    rw [nameOf, bind_of_ok (cubeRecord_of_some hrecord), hrecord]
    rfl

/-- The cube of a name is found, or it is said that there is none. -/
lemma findCube_eq (h : s.IsProper input w) (hname : ∃ t mark, name = .str t mark) (kind : Text) :
    findCube s name coordinate kind w =
      match namedCube? s w name with
      | some number => (.ok (.cube number), w)
      | none =>
        (.error (.unresolvedAt (ownerName s w) (w.view name) (w.view coordinate) kind), w) := by
  obtain ⟨t, mark, rfl⟩ := hname
  have hview (d : Datum) : Eval.view d w = (.ok (w.view d), w) := rfl
  have hfound : registered? s.registry (.str t mark) w =
      (.ok ((namedCube? s w (.str t mark)).map .cube), w) := by
    rcases h.registry with hregistry | hregistry
    · simp only [namedCube?, hregistry]
      rfl
    · have hkey : keyOf (.str t mark) w = (.ok (.str t), w) := keyOf_of_ok rfl
      have hget : (get : Eval World) w = (.ok w, w) := rfl
      simp only [namedCube?, hregistry, registered?]
      rw [bind_of_ok hkey]
      exact bind_of_ok hget
  rw [findCube, bind_of_ok hfound]
  cases namedCube? s w (.str t mark) with
  | some number => rfl
  | none =>
      dsimp only [Option.map_none]
      rw [bind_of_ok h.nameOf_eq, bind_of_ok (hview _), bind_of_ok (hview _)]
      rfl

/-- What comes after is about the cube that was found. -/
lemma findCube_bind {α : Type} (h : s.IsProper input w) (hname : ∃ t mark, name = .str t mark)
    (kind : Text) (f : Datum → Eval α) :
    (findCube s name coordinate kind >>= f) w =
      match namedCube? s w name with
      | some number => f (.cube number) w
      | none =>
        (.error (.unresolvedAt (ownerName s w) (w.view name) (w.view coordinate) kind), w) := by
  have hfound : findCube s name coordinate kind w = _ := findCube_eq h hname kind
  cases hcube : namedCube? s w name with
  | some number =>
      rw [hcube] at hfound
      exact bind_of_ok hfound
  | none =>
      rw [hcube] at hfound
      exact bind_of_error hfound

/-! ## One reference -/

namespace Reference

variable {address : Nat} {entries others : Entries Datum Datum}

/-- The world in which a reference is looked up: a relative one has merged its coordinate. -/
def merged (input : Nat) (coordinate : Datum) (w : World) (r : Reference) : World :=
  match r.isRelative, w.memory.entries? (.ref input), w.memory.entries? coordinate with
  | true, some entries, some others => w.withDict input (entries.overlay others)
  | _, _, _ => w

/-- What a reference merges: the coordinate, if it is relative. -/
def merges? (coordinate : Datum) (w : World) (r : Reference) : Option (Entries Datum Datum) :=
  if r.isRelative then w.memory.entries? coordinate else none

lemma mergeInput_merged {r : Reference} (hs : s.IsProper input w) (hr : r.isRelative = true)
    (hread : w.memory.read input = some (.dict entries))
    (hcoordinate : w.memory.read address = some (.dict others)) (hfiled : Filed w.memory others) :
    mergeInput s (.ref address) w = (.ok (), r.merged input (.ref address) w) := by
  rw [merged, hr, Memory.entries?_eq_some.mpr ⟨input, rfl, hread⟩,
    Memory.entries?_eq_some.mpr ⟨address, rfl, hcoordinate⟩, mergeInput_of_dict hs.input hread]
  exact updateWith_eq hread hcoordinate hfiled

/-- Merging changes nothing but the input. -/
lemma merged_elsewhere (input : Nat) (coordinate : Datum) (w : World) (r : Reference) :
    ∃ m, r.merged input coordinate w = { w with memory := m } := by
  rw [merged]
  split
  · exact ⟨_, rfl⟩
  · exact ⟨w.memory, rfl⟩

lemma merged_cubes (input : Nat) (coordinate : Datum) (w : World) (r : Reference) :
    (r.merged input coordinate w).cubes = w.cubes := by
  obtain ⟨m, hm⟩ := r.merged_elsewhere input coordinate w
  exact hm ▸ rfl

lemma read_merged (r : Reference) (hread : w.memory.read input = some (.dict entries))
    (hcoordinate : w.memory.read address = some (.dict others)) :
    (r.merged input (.ref address) w).memory.read input = some (.dict
      ((r.merges? (.ref address) w).elim entries entries.overlay)) := by
  rw [merged, merges?, Memory.entries?_eq_some.mpr ⟨input, rfl, hread⟩,
    Memory.entries?_eq_some.mpr ⟨address, rfl, hcoordinate⟩]
  cases r.isRelative with
  | true => exact read_withDict hread _
  | false => exact hread

/-- **One reference** merges, and is then an answer of the cube that it asks or a refusal. -/
theorem perform_split (ask : Ask) {r : Reference} (hs : s.IsProper input w)
    (hnames : r.NamesByText) (hread : w.memory.read input = some (.dict entries))
    (hcoordinate : w.memory.read address = some (.dict others)) (hfiled : Filed w.memory others) :
    r.perform ask s (.ref address) w =
      match r.target? s w with
      | some number =>
        ask number (r.lookup s (.ref address)) s.output (r.merged input (.ref address) w)
      | none =>
        (.error (r.refused s (.ref address) (r.merged input (.ref address) w)),
          r.merged input (.ref address) w) := by
  have hmerge (hr : r.isRelative = true) := mergeInput_merged hs hr hread hcoordinate hfiled
  obtain ⟨m, hm⟩ := r.merged_elsewhere input (.ref address) w
  -- The cubes and the registry are those from before.
  have hsees : s.IsProper input (r.merged input (.ref address) w) := by
    rw [hm]
    exact ⟨hs.input, hs.cube, hs.registry⟩
  have htarget (name : Datum) :
      namedCube? s (r.merged input (.ref address) w) name = namedCube? s w name := by
    rw [hm]
    rfl
  have hview (t : Text) (mark : Mark) (w : World) : w.view (.str t mark) = .str t := rfl
  cases r with
  | fixed name =>
      obtain ⟨t, mark, rfl⟩ := hnames
      rw [perform, fixedCell, findCube_bind hs ⟨t, mark, rfl⟩, hview, Failure.unresolvedAt_str]
      rfl
  | relative =>
      rw [perform, relativeCell, bind_of_ok (hmerge rfl), target?]
      rcases hs.cube with hcube | ⟨number, hcube, -⟩
      · have hcurrent (coordinate : Value) :
            Failure.unresolvedAt [] (.str "<current>".toList) coordinate "relative".toList = _ :=
          Failure.unresolvedAt_str ..
        rw [hcube]
        exact congrArg (fun f => (Except.error f, _)) (hcurrent _)
      · rw [hcube]
        rfl
  | relativeCube name =>
      obtain ⟨t, mark, rfl⟩ := hnames
      rw [perform, relativeCubeCell, bind_of_ok (hmerge rfl), findCube_bind hsees ⟨t, mark, rfl⟩,
        htarget, hview, Failure.unresolvedAt_str]
      rfl

end Reference

end

/-! ## A sequence -/

/-- A reference that was made. -/
structure Turn where
  /-- The reference. -/
  reference : Reference
  /-- Its coordinate. -/
  coordinate : Datum
  /-- The world before it. -/
  before : World
  /-- What it came to. -/
  result : Except Failure Datum
  /-- The world after it. -/
  after : World

/-- References, made one after the other whatever they come to. -/
def turns (ask : Ask) (s : Surroundings) : List (Reference × Datum) → World → List Turn
  | [], _ => []
  | (r, coordinate) :: calls, w =>
    ⟨r, coordinate, w, (r.perform ask s coordinate w).1, (r.perform ask s coordinate w).2⟩ ::
      turns ask s calls (r.perform ask s coordinate w).2

/-- Entries overlaid with what references merge, in order. -/
def mergedBy (entries : Entries Datum Datum) (all : List Turn) : Entries Datum Datum :=
  (all.filterMap fun turn => turn.reference.merges? turn.coordinate turn.before).foldl
    Entries.overlay entries

lemma mergedBy_cons (entries : Entries Datum Datum) (turn : Turn) (all : List Turn) :
    mergedBy entries (turn :: all) =
      mergedBy ((turn.reference.merges? turn.coordinate turn.before).elim entries entries.overlay)
        all := by
  rw [mergedBy, List.filterMap_cons]
  cases turn.reference.merges? turn.coordinate turn.before <;> rfl

namespace Turn

/-- The world in which the reference is looked up. -/
def merged (input : Nat) (turn : Turn) : World :=
  turn.reference.merged input turn.coordinate turn.before

/-- A reference that names a cube by a text, with a dictionary as the coordinate; the cube that it asks
leaves the input as it is and takes no cube away. -/
structure IsProper (ask : Ask) (s : Surroundings) (input : Nat) (turn : Turn) : Prop where
  /-- A name is a text. -/
  names : turn.reference.NamesByText
  /-- The coordinate is a dictionary. -/
  coordinate : ∃ others, turn.before.memory.entries? turn.coordinate = some others ∧
    Filed turn.before.memory others
  /-- The cube leaves the input as it is. -/
  spares : ∀ number, turn.reference.target? s turn.before = some number →
    (ask number (turn.reference.lookup s turn.coordinate) s.output
      (turn.merged input)).2.memory.read input = (turn.merged input).memory.read input
  /-- The cube takes no cube away. -/
  keeps : ∀ number, turn.reference.target? s turn.before = some number →
    turn.before.cubes.size ≤ (ask number (turn.reference.lookup s turn.coordinate) s.output
      (turn.merged input)).2.cubes.size

/-- What a reference comes to, if it is `entries` that it finds in the input. -/
def IsAnswered (ask : Ask) (s : Surroundings) (input : Nat) (entries : Entries Datum Datum)
    (turn : Turn) : Prop :=
  match turn.reference.target? s turn.before with
  | some number =>
    (turn.merged input).memory.read input = some (.dict entries) ∧
      ask number (turn.reference.lookup s turn.coordinate) s.output (turn.merged input) =
        (turn.result, turn.after)
  | none =>
    turn.result = .error (turn.reference.refused s turn.coordinate turn.after) ∧
      turn.after = turn.merged input ∧
        ∀ other, turn.reference.perform other s turn.coordinate turn.before =
          (turn.result, turn.after)

end Turn

section

variable {ask : Ask} {s : Surroundings} {input : Nat} {w : World}
  {entries : Entries Datum Datum}

lemma turns_calls (ask : Ask) (s : Surroundings) (calls : List (Reference × Datum)) (w : World) :
    (turns ask s calls w).map (fun turn => (turn.reference, turn.coordinate)) = calls := by
  induction calls generalizing w with
  | nil => rfl
  | cons call calls ih => rw [turns, List.map_cons, ih]

/-- **One turn**: the input is overlaid with what the reference merges, the reference is answered by
its cube or refused, and the next one can be made. -/
lemma Turn.IsProper.step {r : Reference} {coordinate : Datum} (hs : s.IsProper input w)
    (hread : w.memory.read input = some (.dict entries)) {turn : Turn}
    (hturn : turn = ⟨r, coordinate, w, (r.perform ask s coordinate w).1,
      (r.perform ask s coordinate w).2⟩) (hproper : turn.IsProper ask s input) :
    s.IsProper input turn.after ∧
      turn.after.memory.read input = some (.dict (mergedBy entries [turn])) ∧
      turn.IsAnswered ask s input (mergedBy entries [turn]) := by
  obtain ⟨others, hentries, hfiled⟩ := hproper.coordinate
  have hspares := hproper.spares
  have hkeeps := hproper.keeps
  subst hturn
  obtain ⟨address, rfl, hcoordinate⟩ := Memory.entries?_eq_some.mp hentries
  have hmerged := r.read_merged hread hcoordinate
  have hperform (other : Ask) :=
    Reference.perform_split other hs hproper.names hread hcoordinate hfiled
  obtain ⟨m, hm⟩ := r.merged_elsewhere input (.ref address) w
  rw [mergedBy_cons]
  change s.IsProper input (r.perform ask s (.ref address) w).2 ∧ _ ∧ _
  rw [Turn.IsAnswered]
  dsimp only [Turn.merged] at hspares hkeeps ⊢
  cases htarget : r.target? s w with
  | some number =>
      rw [htarget] at hperform
      have hafter := hperform ask
      dsimp only at hafter
      rw [hafter]
      refine ⟨⟨hs.input, ?_, hs.registry⟩, (hspares number htarget).trans hmerged, hmerged, rfl⟩
      exact hs.cube.imp_right fun ⟨own, hown, hlt⟩ =>
        ⟨own, hown, Nat.lt_of_lt_of_le hlt (hkeeps number htarget)⟩
  | none =>
      rw [htarget] at hperform
      have hafter := hperform ask
      dsimp only at hafter
      rw [hafter]
      refine ⟨?_, hmerged, rfl, rfl, hperform⟩
      rw [hm]
      exact ⟨hs.input, hs.cube, hs.registry⟩

/-! ### Cubes that record -/

/-- A check that a reference is made with a text and a dictionary. -/
def Turn.namesDict (turn : Turn) : Bool :=
  (match turn.reference with
    | .fixed (.str _ _) | .relative | .relativeCube (.str _ _) => true
    | _ => false) &&
  (turn.before.memory.entries? turn.coordinate).any fun entries => entries.all fun entry =>
    (entry.2.1.key turn.before.memory).toOption == some entry.1

lemma recordAnswer_preserves (cube : Nat) (coordinate output : Datum) (w : World) :
    (recordAnswer cube coordinate output w).2.memory = w.memory ∧
      (recordAnswer cube coordinate output w).2.cubes = w.cubes :=
  Preserves.bind (I := fun w' => w'.memory = w.memory ∧ w'.cubes = w.cubes)
    (Tolerant.view coordinate) (fun _ => .bind (fun _ h => h) fun _ =>
      .bind (Tolerant.cubeRecord cube) fun _ => .pure _) w ⟨rfl, rfl⟩

/-- A cube that records what it is asked changes nothing else. -/
lemma Turn.isProper_recordAnswer {turn : Turn} (h : turn.namesDict = true) :
    turn.IsProper recordAnswer s input := by
  obtain ⟨hnames, hdict⟩ := Bool.and_eq_true_iff.mp h
  obtain ⟨others, hothers, hfiled⟩ := (Option.any_eq_true _ _).mp hdict
  refine ⟨?_, ⟨others, hothers, ?_⟩, fun number _ => ?_, fun number _ => ?_⟩
  · cases hr : turn.reference with
    | relative => trivial
    | _ name =>
        rw [hr] at hnames
        cases name with
        | str t mark => exact ⟨t, mark, rfl⟩
        | _ => cases hnames
  · intro entry hentry
    have hkey := eq_of_beq (List.all_eq_true.mp hfiled entry hentry)
    cases hresult : entry.2.1.key turn.before.memory with
    | ok k =>
        rw [hresult] at hkey
        rw [Option.some_inj.mp hkey]
    | error f =>
        rw [hresult] at hkey
        cases hkey
  · rw [(recordAnswer_preserves number _ s.output (turn.merged input)).1]
  · rw [(recordAnswer_preserves number _ s.output (turn.merged input)).2]
    exact Nat.le_of_eq (congrArg Array.size (Reference.merged_cubes ..).symm)

/-- The cube `L` is registered and answers 7; `K` answers nothing. There are a dictionary with the axis
`i`, an empty one, and three coordinates. -/
def recordingWorld : World :=
  ([axis ['i'] 0, .dict [], axis ['x'] 1, .dict [(.str ['x'], .int 2), (.str ['y'], .int 3)],
    axis ['i'] 4].mapM load { World.empty with
      cubes := #[⟨some ['L'], 0, false, some (.int 7 0), []⟩, ⟨some ['K'], 0, false, none, []⟩]
      directory := [(['L'], 0)] }).2

/-- What a cell of `K` sees. -/
def recordingCell : Surroundings := ⟨.ref 1, .ref 2, .ref 0, .cube 1, .registry⟩

/-- References to `L`, to `K`, and to a cube that is not registered. -/
def recordingCalls : List (Reference × Datum) :=
  [(.fixed (.str ['L'] 0), .ref 3), (.relativeCube (.str ['M'] 0), .ref 4), (.relative, .ref 5),
    (.relativeCube (.str ['L'] 0), .ref 3), (.fixed (.str ['M'] 0), .ref 3)]

/-- **References one after the other.** The input is a dictionary, and so are the coordinates; cubes that
are asked leave the input as it is. All references are made, and after each of them the input is
overlaid, in order, with the coordinates of the relative ones so far, also of those that failed. A
reference to a cube that the cell can see is the answer of that cube, asked at the coordinate, or, if it
is relative, at the input, which its own coordinate has been merged into. Any other is refused, if its
coordinate can be written, and no cube is asked. -/
theorem turns_answered {calls : List (Reference × Datum)} (hs : s.IsProper input w)
    (hread : w.memory.read input = some (.dict entries))
    (hproper : ∀ turn ∈ turns ask s calls w, turn.IsProper ask s input) :
    (turns ask s calls w).map (fun turn => (turn.reference, turn.coordinate)) = calls ∧
      ∀ done turn rest, turns ask s calls w = done ++ turn :: rest →
        turn.after.memory.read input = some (.dict (mergedBy entries (done ++ [turn]))) ∧
        turn.IsAnswered ask s input (mergedBy entries (done ++ [turn])) := by
  refine ⟨turns_calls ask s calls w, ?_⟩
  induction calls generalizing w entries with
  | nil => exact fun done turn rest h => absurd (congrArg List.length h) (by simp [turns])
  | cons call calls ih =>
      obtain ⟨r, coordinate⟩ := call
      rw [turns] at hproper ⊢
      obtain ⟨hfirst, hrest⟩ := List.forall_mem_cons.mp hproper
      obtain ⟨hs', hread', hanswered⟩ := hfirst.step hs hread rfl
      intro done turn rest hsplit
      cases done with
      | nil =>
          obtain ⟨rfl, -⟩ := List.cons.inj hsplit
          exact ⟨hread', hanswered⟩
      | cons first done =>
          obtain ⟨rfl, hlater⟩ := List.cons.inj hsplit
          have hlater := ih hs' hread' hrest done turn rest hlater
          rw [mergedBy_cons] at hlater
          rw [List.cons_append, mergedBy_cons]
          exact hlater

/-- Some references are answered and some are refused; what a relative one merged stays in the input. -/
theorem turns_answered_recording :
    (∃ entries, ∀ done turn rest,
      turns recordAnswer recordingCell recordingCalls recordingWorld = done ++ turn :: rest →
        turn.after.memory.read 1 = some (.dict (mergedBy entries (done ++ [turn]))) ∧
        turn.IsAnswered recordAnswer recordingCell 1 (mergedBy entries (done ++ [turn]))) ∧
      (turns recordAnswer recordingCell recordingCalls recordingWorld).map (fun turn =>
        ((match turn.result with
          | .ok d => (turn.after.view d).shown
          | .error f => f.kind), (turn.after.view (.ref 1)).coordinateText)) =
        [("7".toList, "i: 0".toList),
          ("UnresolvedReferenceError".toList, "i: 0, x: 2, y: 3".toList),
          ("None".toList, "i: 4, x: 2, y: 3".toList), ("7".toList, "i: 4, x: 1, y: 3".toList),
          ("UnresolvedReferenceError".toList, "i: 4, x: 1, y: 3".toList)] := by
  have hchecked : (turns recordAnswer recordingCell recordingCalls recordingWorld).all
      Turn.namesDict = true := by decide +kernel
  have hsees : recordingCell.IsProper 1 recordingWorld :=
    ⟨rfl, Or.inr ⟨1, rfl, by decide +kernel⟩, Or.inr rfl⟩
  have hsome : (recordingWorld.memory.entries? (.ref 1)).isSome = true := by decide +kernel
  obtain ⟨entries, hentries⟩ := Option.isSome_iff_exists.mp hsome
  obtain ⟨address, haddress, hread⟩ := Memory.entries?_eq_some.mp hentries
  obtain rfl := Datum.ref.inj haddress
  exact ⟨⟨entries, (turns_answered hsees hread fun turn hturn =>
    Turn.isProper_recordAnswer (List.all_eq_true.mp hchecked turn hturn)).2⟩, by decide +kernel⟩

/-- A coordinate with an integer that is too long to be written. -/
def longEntries : Entries Datum Datum :=
  [(.str ['n'], .str ['n'] 0, .int ((10 ^ decimalLimit : Nat) : Int) 0)]

/-- An empty dictionary, and that coordinate. -/
def longWorld : World :=
  { World.empty with memory := .ofObjects [.list [], .dict [], .dict longEntries] }

/-- What a cell sees that has neither a cube nor the registry. -/
def lonelyCell : Surroundings := ⟨.ref 1, .none, .ref 0, .none, .none⟩

/-- **A refusal whose coordinate cannot be written** comes to the fault of the attempt. -/
theorem turns_answered_unwritten : lonelyCell.IsProper 1 longWorld ∧
    (turns recordAnswer lonelyCell [(.fixed (.str ['M'] 0), .ref 2)] longWorld).map (·.result) =
      [.error (.fault .longInteger)] := by
  have hsees : lonelyCell.IsProper 1 longWorld := ⟨rfl, Or.inl rfl, Or.inl rfl⟩
  have hfiled : Filed longWorld.memory longEntries := by
    intro entry hentry
    rw [List.mem_singleton.mp hentry]
    rfl
  have hread : longWorld.memory.read 2 = some (.dict longEntries) := rfl
  have hperform := Reference.perform_split recordAnswer (r := .fixed (.str ['M'] 0)) hsees
    ⟨['M'], 0, rfl⟩ rfl hread hfiled
  have hrefused : (Reference.fixed (.str ['M'] 0)).refused lonelyCell (.ref 2) longWorld =
      .fault .longInteger := by
    have hview : longWorld.view (.ref 2) = .dict [(.str ['n'], .long)] := rfl
    rw [Reference.refused, hview, Value.formatted_long]
  refine ⟨hsees, ?_⟩
  rw [turns, turns, List.map_singleton, hperform]
  exact congrArg (fun f => [Except.error f]) hrefused

end

end FormulaCube
