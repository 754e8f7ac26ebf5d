import FormulaCube.Proofs.Computation
import FormulaCube.Proofs.Registry.Directory
import FormulaCube.Run.Loading

/-!
# The texts of the modules compiled last

A back end keeps the texts of modules by the names of their files, and the names in a queue. A name that is
entered again keeps its one text but stands in the queue twice, so that it is taken out when the older of
the two leaves the queue.

* `SourceCache.Holds` — what is kept after modules were compiled; `SourceCache.Holds.remember`.
* `Run.sources_runModule` — the code of a module does not reach them.
* `Loaded` — worlds in which a back end has compiled modules; `holds_of_loaded`.
* `find?_of_loaded` — which texts are kept.
-/

namespace FormulaCube

/-! ## Names and texts -/

/-- The name of the file that the module seems to come from. -/
def GeneratedModule.file (m : GeneratedModule) : Text := SourceCache.fileName m.className

/-- What is kept of a module: the number of its characters, and its lines. -/
def GeneratedModule.kept (m : GeneratedModule) : Nat × List Text := (m.text.length, m.text.linesWithEndings)

namespace SourceCache

variable {n : Nat} {past : List GeneratedModule} {cache : SourceCache} {name : Text}

/-- How many modules were compiled since the last one with the name. The last one compiled comes first. -/
def since (past : List GeneratedModule) (name : Text) : Nat :=
  past.findIdx fun (m : GeneratedModule) => m.file == name

/-- The name was entered again before an older place of it had left the queue, so that its text went with
that place: of the modules before the last `n`, one of the last `since past name + 1` has the name. -/
def Returns (n : Nat) (past : List GeneratedModule) (name : Text) : Prop :=
  ∃ m ∈ (past.drop n).take (since past name + 1), m.file = name

instance : Decidable (Returns n past name) :=
  inferInstanceAs (Decidable (∃ m ∈ (past.drop n).take _, m.file = name))

/-- What is kept under a name: the text of the last module with it, if that is one of the last `n` and the
name does not return. -/
def keptUnder (n : Nat) (past : List GeneratedModule) (name : Text) : Option (Nat × List Text) :=
  if since past name < n ∧ ¬ Returns n past name then (past[since past name]?).map GeneratedModule.kept
  else none

/-- What is kept when these modules were compiled, the last one first. -/
structure Holds (n : Nat) (past : List GeneratedModule) (cache : SourceCache) : Prop where
  limit : cache.limit = n
  /-- The names of the last modules, the oldest first. -/
  queue : cache.queue = ((past.take n).map GeneratedModule.file).reverse
  nodup : cache.files.names.Nodup
  find? : ∀ name, cache.files.find? name = keptUnder n past name

lemma holds_nil (n : Nat) : Holds n [] ⟨[], [], n⟩ where
  limit := rfl
  queue := by simp
  nodup := List.nodup_nil
  find? name := by simp [keptUnder, Directory.find?]

/-! ## One more module -/

lemma since_cons_of_eq {m : GeneratedModule} (h : m.file = name) : since (m :: past) name = 0 := by
  simp [since, List.findIdx_cons, h]

lemma since_cons_of_ne {m : GeneratedModule} (h : m.file ≠ name) :
    since (m :: past) name = since past name + 1 := by
  rw [since, List.findIdx_cons, beq_eq_false_iff_ne.mpr h]
  rfl

/-- The name that leaves the queue when one more module is compiled: that of the `n`-th last one. -/
def leaving? (n : Nat) (past : List GeneratedModule) : Option Text :=
  (past[n - 1]?).map GeneratedModule.file

/-- The name returns if it leaves now, or if it returned before. -/
lemma returns_cons (hn : 0 < n) (m : GeneratedModule) : Returns n (m :: past) name ↔
    leaving? n past = some name ∨ m.file ≠ name ∧ Returns n past name := by
  obtain ⟨k, rfl⟩ := Nat.exists_eq_add_of_lt hn
  have hdrop : (m :: past).drop (0 + k + 1) = past[k]?.toList ++ past.drop (k + 1) := by
    rw [Nat.zero_add, List.drop_succ_cons, List.drop_eq_getElem?_toList_append]
  rw [Returns, hdrop, leaving?, Nat.add_sub_cancel, Nat.zero_add]
  cases hk : past[k]? with
  | none =>
      have hnil : past.drop (k + 1) = [] := by
        have := List.getElem?_eq_none_iff.mp hk
        exact List.drop_eq_nil_iff.mpr (by omega)
      simp [hnil, Returns]
  | some e =>
      by_cases hm : m.file = name
      · simp [since_cons_of_eq hm, hm]
      · simp [since_cons_of_ne hm, hm, Returns]

lemma file_of_getElem?_since {e : GeneratedModule} (h : past[since past name]? = some e) :
    e.file = name := by
  obtain ⟨hlt, rfl⟩ := List.getElem?_eq_some_iff.mp h
  exact beq_iff_eq.mp (List.findIdx_getElem (w := hlt))

/-- One more module: its name comes first, and that of the `n`-th last one goes. -/
lemma keptUnder_cons (hn : 0 < n) (m : GeneratedModule) (past : List GeneratedModule) (name : Text) :
    keptUnder n (m :: past) name =
      if leaving? n past = some name then none
      else if name = m.file then some m.kept else keptUnder n past name := by
  simp only [keptUnder, returns_cons hn]
  by_cases hleaving : leaving? n past = some name
  · simp [hleaving]
  by_cases hm : m.file = name
  · simp [since_cons_of_eq hm, hm, hleaving, hn]
  rw [since_cons_of_ne hm, List.getElem?_cons_succ]
  cases hget : past[since past name]? with
  | none => simp [hleaving, Ne.symm hm]
  | some e =>
      -- the module with the name is not the one that leaves
      have hne : since past name ≠ n - 1 := by
        intro heq
        rw [leaving?, ← heq, hget] at hleaving
        exact hleaving (congrArg some (file_of_getElem?_since hget))
      have hlast : since past name + 1 < n ↔ since past name < n := by omega
      simp [hm, Ne.symm hm, hleaving, hlast]

/-! ## The queue -/

lemma trimmed_of_le {files : Directory (Nat × List Text)} {queue : List Text} (h : queue.length ≤ n) :
    trimmed n files queue = (⟨files, queue, n⟩, none) := by
  cases queue with
  | nil => rw [trimmed, if_neg (by omega)]
  | cons name queue => rw [trimmed, if_neg (by omega)]

/-- What is kept after one more module. -/
lemma Holds.remember (hn : 0 < n) (h : Holds n past cache) (m : GeneratedModule) :
    ∃ cache', cache.remember m.file m.text = (cache', none) ∧ Holds n (m :: past) cache' := by
  have hnodup : (cache.files.insert m.file m.kept).names.Nodup := Directory.nodup_insert h.nodup
  have hremember : cache.remember m.file m.text =
      trimmed n (cache.files.insert m.file m.kept) (cache.queue ++ [m.file]) := by
    rw [SourceCache.remember, h.limit]
    rfl
  obtain ⟨k, rfl⟩ := Nat.exists_eq_add_of_lt hn
  cases hget : past[k]? with
  | none =>
      have hlength := List.getElem?_eq_none_iff.mp hget
      have hleaving : leaving? (0 + k + 1) past = none := by simp [leaving?, hget]
      refine ⟨_, hremember.trans (trimmed_of_le ?_), rfl, ?_, hnodup, fun name => ?_⟩
      · rw [h.queue, List.length_append, List.length_reverse, List.length_map, List.length_take,
          List.length_singleton]
        omega
      · rw [h.queue, List.take_of_length_le (by omega), List.take_of_length_le (by simp; omega)]
        simp
      · rw [keptUnder_cons hn, hleaving, Directory.find?_insert, h.find?]
        simp
  | some e =>
      have hleaving : leaving? (0 + k + 1) past = some e.file := by simp [leaving?, hget]
      have hqueue : cache.queue = e.file :: ((past.take k).map GeneratedModule.file).reverse := by
        rw [h.queue, Nat.zero_add, List.take_add_one, hget]
        simp
      have hlength : k ≤ past.length := Nat.le_of_lt (List.getElem?_eq_some_iff.mp hget).1
      have hrest : (((past.take k).map GeneratedModule.file).reverse ++ [m.file]).length = k + 1 := by
        rw [List.length_append, List.length_reverse, List.length_map, List.length_take,
          Nat.min_eq_left hlength, List.length_singleton]
      refine ⟨⟨(cache.files.insert m.file m.kept).erase e.file,
        ((past.take k).map GeneratedModule.file).reverse ++ [m.file], (0 + k + 1 : Nat)⟩,
        hremember.trans ?_, rfl, ?_, Directory.nodup_erase hnodup, fun name => ?_⟩
      · rw [hqueue, List.cons_append, trimmed,
          if_pos (by rw [List.length_cons, hrest]; omega)]
        exact trimmed_of_le (by omega)
      · simp
      · rw [keptUnder_cons hn, hleaving, Directory.find?_erase hnodup, Directory.find?_insert, h.find?]
        simp [eq_comm]

end SourceCache

/-! ## Compiling modules -/

namespace Run

open Eval Code

/-- Code that is being loaded reaches no cubes. -/
abbrev nobody : Ask := fun _ _ _ => fault .tooDeep

lemma loadModule_of_compilable {m : GeneratedModule} {program : List Stmt}
    (hnull : m.text.contains '\x00' = false) (h : compilable? m.text = some program) :
    loadModule nobody m = (do rememberSource m.file m.text; runModule nobody m program) := by
  rw [loadModule, hnull, h]
  rfl

/-- The code of a module leaves the remembered texts as they are. -/
lemma sources_runModule (ask : Ask) (m : GeneratedModule) (program : List Stmt) (w : World) :
    (runModule ask m program w).2.sources = w.sources := rfl

/-- The back end leaves the world that loading the module leaves. -/
lemma compile_interpreter (m : GeneratedModule) :
    machine.compile .interpreter m = (loadModule nobody m).attempt := by
  simp only [machine]

/-- The world with one more text remembered. -/
def remembering (m : GeneratedModule) (w : World) : World :=
  { w with sources := (w.sources.remember m.file m.text).1 }

lemma rememberSource_of_ok {m : GeneratedModule} {w : World} {cache : SourceCache}
    (h : w.sources.remember m.file m.text = (cache, none)) :
    rememberSource m.file m.text w = (.ok (), remembering m w) := by
  have hget : (get : Eval World) w = (.ok w, w) := rfl
  rw [rememberSource, bind_of_ok hget, remembering, h]
  rfl

end Run

open Run Code

/-- Worlds in which a back end that keeps `n` texts has compiled these modules, the last one first. Each of
them is a program, whose code may fail. Whatever else happens leaves the remembered texts as they are. -/
inductive Loaded (n : Nat) : List GeneratedModule → World → Prop where
  | start {w : World} (h : w.sources = ⟨[], [], n⟩) : Loaded n [] w
  | compile {past : List GeneratedModule} {w : World} (m : GeneratedModule) {program : List Stmt}
      (h : Loaded n past w) (hnull : m.text.contains '\x00' = false)
      (hprogram : compilable? m.text = some program) :
      Loaded n (m :: past) (machine.compile .interpreter m w).2
  | other {past : List GeneratedModule} {w w' : World} (h : Loaded n past w)
      (hsources : w'.sources = w.sources) : Loaded n past w'

variable {n : Nat} {past : List GeneratedModule} {w : World}

/-- **What is kept follows from the modules that were compiled.** -/
lemma holds_of_loaded (hn : 0 < n) (h : Loaded n past w) : w.sources.Holds n past := by
  induction h with
  | start h => exact h ▸ SourceCache.holds_nil n
  | @compile past w m program h hnull hprogram ih =>
      obtain ⟨cache, hcache, hholds⟩ := ih.remember hn m
      have hrun : loadModule nobody m w = runModule nobody m program (remembering m w) := by
        rw [loadModule_of_compilable hnull hprogram, Eval.bind_of_ok (rememberSource_of_ok hcache)]
      rw [compile_interpreter, Eval.attempt, hrun]
      show SourceCache.Holds n _ (runModule nobody m program (remembering m w)).2.sources
      rw [sources_runModule, remembering, hcache]
      exact hholds
  | other h hsources ih => rwa [hsources]

namespace SourceCache

/-- The last `n` modules, by their names: each name has the text of the last one with it. -/
def recentUnder (n : Nat) (past : List GeneratedModule) (name : Text) : Option (Nat × List Text) :=
  ((past.take n).find? fun m => m.file == name).map GeneratedModule.kept

lemma recentUnder_eq (n : Nat) (past : List GeneratedModule) (name : Text) : recentUnder n past name =
    if since past name < n then (past[since past name]?).map GeneratedModule.kept else none := by
  rw [recentUnder, List.find?_eq_getElem?_findIdx, List.findIdx_take, List.getElem?_take, ← since]
  by_cases h : since past name < n
  · simp [h, Nat.min_eq_right (Nat.le_of_lt h)]
  · have hmin : ¬ min n (since past name) < n := by omega
    simp [h, hmin]

lemma isSome_recentUnder_iff {name : Text} :
    (recentUnder n past name).isSome = true ↔ ∃ m ∈ past.take n, m.file = name := by
  simp [recentUnder]

/-- A name that does not return is kept like the last modules, and one that returns is not kept. -/
lemma keptUnder_eq (n : Nat) (past : List GeneratedModule) (name : Text) :
    keptUnder n past name = if Returns n past name then none else recentUnder n past name := by
  rw [recentUnder_eq, keptUnder]
  by_cases h : Returns n past name <;> simp [h]

end SourceCache

open SourceCache

/-- **Which texts are kept.** Under a name the text of the last module with it is kept, if that is one of the
last `n` modules and the name does not return. So exactly the names of the last `n` modules are kept if none
of them returns, and otherwise one of them is missing, which may be that of the module compiled last. -/
theorem find?_of_loaded (hn : 0 < n) (h : Loaded n past w) :
    (∀ name, w.sources.files.find? name = keptUnder n past name) ∧
      ((∀ name, w.sources.files.find? name = recentUnder n past name) ↔
        ∀ m ∈ past.take n, ¬ Returns n past m.file) ∧
      ∀ m earlier, past = m :: earlier → ((w.sources.files.find? m.file).isSome = true ↔
        (earlier[n - 1]?).map GeneratedModule.file ≠ some m.file) := by
  have hfind := (holds_of_loaded hn h).find?
  refine ⟨hfind, ⟨fun hrecent m hm hreturns => ?_, fun hnone name => ?_⟩, ?_⟩
  · have hsome := isSome_recentUnder_iff.mpr ⟨m, hm, rfl⟩
    rw [← hrecent, hfind, keptUnder_eq, if_pos hreturns] at hsome
    cases hsome
  · rw [hfind, keptUnder_eq]
    split
    · rename_i hreturns
      cases hsome : (recentUnder n past name).isSome with
      | true =>
          obtain ⟨m, hm, rfl⟩ := isSome_recentUnder_iff.mp hsome
          exact absurd hreturns (hnone m hm)
      | false => exact (Option.not_isSome_iff_eq_none.mp (by simp [hsome])).symm
    · rfl
  · rintro m earlier rfl
    rw [hfind, keptUnder_cons hn, ← leaving?]
    split
    · simp_all
    · simp_all

/-- The worlds in which a back end that keeps `n` texts compiles the modules, the last one first. -/
def worldAfter (n : Nat) : List GeneratedModule → World
  | [] => { World.empty with sources := ⟨[], [], n⟩ }
  | m :: past => (machine.compile .interpreter m (worldAfter n past)).2

instance : DecidableEq SourceCache := fun a b =>
  decidable_of_iff (a.files = b.files ∧ a.queue = b.queue ∧ a.limit = b.limit)
    ⟨by rintro ⟨h, h', h''⟩; cases a; cases b; simp_all, by rintro rfl; simp⟩

lemma loaded_cons {m : GeneratedModule} (h : Loaded n past (worldAfter n past))
    (hnull : m.text.contains '\x00' = false) (hsome : (compilable? m.text).isSome = true) :
    Loaded n (m :: past) (worldAfter n (m :: past)) :=
  h.compile m hnull (Option.some_get hsome).symm

/-- Two modules of one name, and between them one whose code fails. -/
theorem find?_of_loaded_alternating :
    let past : List GeneratedModule := [⟨"A".toList, "A = ExecutionShim\n".toList⟩,
      ⟨"B".toList, "pass\n1".toList⟩, ⟨"A".toList, "".toList⟩]
    let w := worldAfter 2 past
    Loaded 2 past w ∧ w.sources.files.find? "<cell A>".toList = none ∧
      w.sources.files.find? "<cell B>".toList = some (6, ["pass\n".toList, "1".toList]) := by
  intro past w
  have hloaded : Loaded 2 past w := by
    refine loaded_cons (loaded_cons (loaded_cons (.start rfl) ?_ ?_) ?_ ?_) ?_ ?_
    all_goals decide +kernel
  have h := (find?_of_loaded (by decide) hloaded).1
  exact ⟨hloaded, (h _).trans (by decide +kernel), (h _).trans (by decide +kernel)⟩

/-- **The module compiled last may be missing.** One text is kept, and a module is compiled twice. -/
theorem find?_of_loaded_ne_recent :
    let past : List GeneratedModule := [⟨"A".toList, "pass".toList⟩, ⟨"A".toList, "pass".toList⟩]
    Loaded 1 past (worldAfter 1 past) ∧
      (worldAfter 1 past).sources.files.find? "<cell A>".toList ≠
        recentUnder 1 past "<cell A>".toList := by
  refine ⟨loaded_cons (loaded_cons (.start rfl) ?_ ?_) ?_ ?_, ?_⟩
  all_goals decide +kernel

end FormulaCube
