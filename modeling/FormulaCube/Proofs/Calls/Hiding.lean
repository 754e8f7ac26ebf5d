import FormulaCube.Proofs.Calls.Provenance
import FormulaCube.Proofs.Quoting
import FormulaCube.Proofs.Shortcut.Independence

/-!
# What the words for a failure tell of a hidden source

A compiler may be set not to quote sources in messages. The words for a failure still contain those
of its cause, and a shortcut that cannot be read is reported with a piece of the text that it stands
in.

* `compilationWords_shortcut` — the words for a shortcut that cannot be read.
* `Workshop.words_eq_iff_of_hidden` — with the source hidden, two shortcuts with the same problem at the
  same offset are reported alike exactly if the pieces of text are the same.
* `Workshop.Rejected`, `Workshop.hidden_words_eq_iff` — the same of the words that versions hold in
  any two states, and of the errors that calls for them end with.
* `Workshop.hidden_words_ne` — two sources that differ in the name of a cube are told apart.
-/

namespace FormulaCube

/-- The words of two errors with one problem at one offset are the same exactly if the errors are
about the same text. -/
lemma ShortcutError.message_eq_iff {e e' : ShortcutError} (hproblem : e.problem = e'.problem)
    (hposition : e.position = e'.position) : e.message = e'.message ↔ e.text = e'.text := by
  rw [message, message, hproblem, hposition, List.append_right_inj]
  exact ⟨Text.quoted_injective, congrArg Text.quoted⟩

/-- **The words for a shortcut that cannot be read** end with those of the error. They can be formed if
the place of the cell can be written. -/
lemma compilationWords_shortcut (cube : Text) (coordinate : Value) (quoted : Text) (e : ShortcutError) :
    compilationWords cube coordinate quoted (.shortcut e) = coordinate.formatted.map fun place =>
      "Failed to compile cell [".toList ++ place ++ "], cube '".toList ++ cube ++ "', source ".toList ++
        Text.quoted quoted ++ ": ".toList ++ ("ShortcutSyntaxError".toList ++ ": ".toList ++ e.message) := by
  rw [compilationWords]
  cases coordinate.formatted <;> rfl

namespace Workshop

variable {α : Type} {shop : Workshop α}

/-! ## Words -/

/-- **The text that an error is about is not hidden**, but the rest of the source is. -/
lemma words_eq_iff_of_hidden (hhidden : shop.settings.quotesSource = false) {cell : Nat}
    {source source' words words' : Text} {e e' : ShortcutError}
    (hwords : shop.words cell source (.shortcut e) = .ok words)
    (hwords' : shop.words cell source' (.shortcut e') = .ok words') (hproblem : e.problem = e'.problem)
    (hposition : e.position = e'.position) : words = words' ↔ e.text = e'.text := by
  have hquote (source : Text) : shop.settings.quote source = "<hidden>".toList := by
    rw [Settings.quote, hhidden]
    rfl
  rw [Workshop.words, hquote, compilationWords_shortcut] at hwords hwords'
  obtain ⟨place, hplace, rfl⟩ := exists_of_map_eq_ok (ok_of_mapError_eq_ok _ hwords)
  obtain ⟨place', hplace', rfl⟩ := exists_of_map_eq_ok (ok_of_mapError_eq_ok _ hwords')
  obtain rfl : place = place' := Except.ok.inj (hplace.symm.trans hplace')
  rw [List.append_right_inj, List.append_right_inj]
  exact e.message_eq_iff hproblem hposition

/-! ## Versions that were rejected -/

/-- The version of a source of the cell holds these words, as a shortcut in it cannot be read. -/
structure Rejected (s : CallSystem α Failure) (cell v : Nat) (words : Text) (e : ShortcutError) :
    Prop where
  /-- It belongs to the cell. -/
  made : .made cell v ∈ s.deeds
  /-- The error is the cause of its failure, for which it holds the words. -/
  holds : ∃ version, s.version? v = some version ∧ version.words = some words ∧
    version.cause = some (.shortcut e)

/-- The words that a rejected version holds are those for the error. -/
lemma Rejected.words_eq {s : CallSystem α Failure} (h : shop.Reachable s) {cell v : Nat}
    {words : Text} {e : ShortcutError} (hv : Rejected s cell v words e) :
    shop.words cell (s.sourceOf v) (.shortcut e) = .ok words := by
  have hs := CallSystem.sound_of_reachable h
  obtain ⟨version, hversion, hwords, hcause⟩ := hv.holds
  obtain ⟨cell', e', hmade, hcause', heq, -⟩ := CallSystem.comes_of_words hs hversion hwords
  obtain rfl := hs.owner _ _ v hv.made hmade
  obtain rfl := Option.some.inj (hcause.symm.trans hcause')
  rwa [CallSystem.sourceOf_of_version? hversion]

/-- A module cannot be generated from a shortcut that cannot be read. -/
lemma expand_of_generate {settings : Settings} {rules : List Rule} {kind : CellKind}
    {cube number source : Text} {e : ShortcutError}
    (h : generate settings rules kind cube number source = .error (.shortcut e)) :
    expand rules (fillPlaceholders number source) = .error e := by
  rw [generate] at h
  rcases bind_eq_error h with hexpand | ⟨expanded, -, h⟩
  · exact (expandIn_limited _ _ _).error hexpand
  · dsimp only at h
    generalize classBody kind _ = body at h
    cases body <;> cases h

/-- The error of a rejected version is that of expanding its source, unless the back end reports
shortcuts itself. -/
lemma Rejected.expand_eq {s : CallSystem α Failure} (h : shop.Reachable s) {cell v : Nat}
    {words : Text} {e : ShortcutError} (hv : Rejected s cell v words e)
    (hback : ∀ m, ¬ shop.answers m (.error (.shortcut e))) :
    ∃ number, expand shop.rules (fillPlaceholders number (s.sourceOf v)) = .error e := by
  obtain ⟨version, hversion, hwords, hcause⟩ := hv.holds
  obtain ⟨cell', e', -, hcause', hdescribe, hcomes⟩ :=
    CallSystem.comes_of_words (CallSystem.sound_of_reachable h) hversion hwords
  obtain rfl := Option.some.inj (hcause.symm.trans hcause')
  rw [CallSystem.sourceOf_of_version? hversion]
  obtain ⟨number, hgenerate | ⟨m, f, -, hanswer, rfl | ⟨reason, -, hfault⟩⟩⟩ :=
    hcomes.failedFrom_of_words hdescribe
  · exact ⟨number, expand_of_generate hgenerate⟩
  · exact absurd hanswer (hback m)
  · cases hfault

/-- Where the words for one shortcut can be formed, the only failures without words are faults. -/
lemma Rejected.exists_fault {s : CallSystem α Failure} (h : shop.Reachable s) {cell v : Nat}
    {words : Text} {e : ShortcutError} (hv : Rejected s cell v words e) {f reason : Failure}
    (hf : s.Wordless shop.words v f reason) : ∃ fault, f = .fault fault := by
  obtain ⟨-, cell', hmade, hreason⟩ := hf
  obtain rfl := (CallSystem.sound_of_reachable h).owner _ _ v hv.made hmade
  have hwords := ok_of_mapError_eq_ok _ (hv.words_eq h)
  rw [compilationWords_shortcut] at hwords
  obtain ⟨place, hplace, -⟩ := exists_of_map_eq_ok hwords
  cases f with
  | fault fault => exact ⟨fault, rfl⟩
  | _ =>
      simp only [Workshop.words, compilationWords, hplace] at hreason
      cases hreason

/-- A call for a rejected version ends with its words, or another failure of it had no words. -/
lemma Rejected.message_eq {s : CallSystem α Failure} (h : shop.Reachable s) {cell v : Nat}
    {words : Text} {e : ShortcutError} (hv : Rejected s cell v words e) {i : Nat}
    {call : Call α Failure} {o : Outcome α Failure} (hcall : s.calls[i]? = some call)
    (hcaptured : call.version = some v) (hdone : call.phase = .done o) :
    (∃ f, Run.resultOf (shop.cube cell) (shop.coordinate cell) s.sourceOf o = .error f ∧
      f.message = words) ∨
    ∃ fault reason, s.Wordless shop.words v (.fault fault) reason ∧ o = .raised reason := by
  obtain ⟨version, hversion, hwords, -⟩ := hv.holds
  obtain ⟨w, hw, version', hversion', htold⟩ :=
    CallSystem.told_of_done (CallSystem.sound_of_reachable h) hcall hdone
  obtain rfl : v = w := Option.some.inj (hcaptured.symm.trans hw)
  obtain rfl : version = version' := Option.some.inj (hversion.symm.trans hversion')
  rcases htold with ⟨a, -, -, hnone, -⟩ | ⟨words', e', rfl, hwords', -⟩ | ⟨f, reason, rfl, hwordless⟩
  · rw [hwords] at hnone
    cases hnone
  · obtain rfl : words = words' := Option.some.inj (hwords.symm.trans hwords')
    exact .inl ⟨_, rfl, rfl⟩
  · obtain ⟨fault, rfl⟩ := hv.exists_fault h hwordless
    exact .inr ⟨fault, reason, hwordless, rfl⟩

/-- **The words for a hidden source tell the piece of it that an error is about, and no more.** Take
two versions of sources of one cell, in any two states that calls may lead to, in which a shortcut
cannot be read for the same reason at the same offset. Then they hold the same words exactly if the
errors are about the same text, every call for one of them ends with an error in its words (unless
compiling it also came to a fault that cannot be put in words), and the error is the one that expanding
the source came to. -/
theorem hidden_words_eq_iff (hhidden : shop.settings.quotesSource = false)
    {s s' : CallSystem α Failure} (h : shop.Reachable s) (h' : shop.Reachable s')
    {cell v v' : Nat} {words words' : Text} {e e' : ShortcutError}
    (hv : Rejected s cell v words e) (hv' : Rejected s' cell v' words' e')
    (hproblem : e.problem = e'.problem) (hposition : e.position = e'.position) :
    (words = words' ↔ e.text = e'.text) ∧
    (∀ (i : Nat) (call : Call α Failure) (o : Outcome α Failure), s.calls[i]? = some call →
      call.version = some v → call.phase = .done o →
      (∃ f, Run.resultOf (shop.cube cell) (shop.coordinate cell) s.sourceOf o = .error f ∧
        f.message = words) ∨
      ∃ fault reason, s.Wordless shop.words v (.fault fault) reason ∧ o = .raised reason) ∧
    ((∀ m, ¬ shop.answers m (.error (.shortcut e))) →
      ∃ number, expand shop.rules (fillPlaceholders number (s.sourceOf v)) = .error e) := by
  refine ⟨?_, fun i call o hcall hcaptured hdone => hv.message_eq h hcall hcaptured hdone,
    hv.expand_eq h⟩
  exact words_eq_iff_of_hidden hhidden (hv.words_eq h) (hv'.words_eq h') hproblem hposition

/-! ## Two sources that are told apart -/

/-- Without a tilde there is no placeholder. -/
lemma fillPlaceholders_of_not_mem {t : Text} (h : '~' ∉ t) (number : Text) :
    fillPlaceholders number t = t := by
  induction t with
  | nil =>
      rw [fillPlaceholders]
      rfl
  | cons c t ih =>
      have hc : '~' ≠ c := fun heq => h (heq ▸ List.mem_cons_self)
      have ht : '~' ∉ t := fun hmem => h (List.mem_cons_of_mem c hmem)
      have hplaceholder : placeholder? (c :: t) = none := by
        rw [placeholder?.eq_def]
        split
        · rename_i heq
          exact absurd (List.cons.inj heq).1.symm hc
        · rfl
      rw [fillPlaceholders.eq_def]
      split
      · rename_i hsome
        rw [hplaceholder] at hsome
        cases hsome
      · exact congrArg (c :: ·) (ih ht)

/-- A shortcut for a cube whose parenthesis is not closed. -/
def unclosed (c : Char) : Text := ['$', c, '(']

/-- What is wrong with it. -/
def unclosedError (c : Char) : ShortcutError := ⟨.unbalanced .fixedCube, 0, unclosed c⟩

/-- The first pass fails. -/
lemma foldlM_unclosed {ε : Type} [HasShortcutErrors ε] (nested : Int → Text → Except ε Text) {c : Char}
    (hc : c = 'A' ∨ c = 'B') :
    Rule.all.foldlM (fun t rule => expandForm nested rule 0 none t) (unclosed c) =
      .error (ofShortcut (unclosedError c)) := by
  have hname : Rule.fixedCube.Admits (some [c]) := by
    rcases hc with rfl | rfl <;> exact ⟨rfl, rfl⟩
  have hopen : closingParen? [] = none := by
    rw [closingParen?, Piece.ofText]
    rfl
  have hbefore : EveryHead (fun rule _ _ => rule ≠ .fixedCube) none [] := trivial
  have hpass : expandForm nested .fixedCube 0 none (unclosed c) = .error (ofShortcut (unclosedError c)) :=
    expandForm_opened hbefore rfl hname hopen
  exact congrArg (· >>= _) hpass

lemma expand_unclosed {c : Char} (hc : c = 'A' ∨ c = 'B') :
    expand Rule.all (unclosed c) = .error (unclosedError c) := by
  have hcount : sigilCount (unclosed c) = 1 := by
    rcases hc with rfl | rfl <;> decide
  rw [expand, hcount]
  exact foldlM_unclosed _ hc

/-- A compiler that hides sources, and whose back end accepts every module. -/
def cloak : Workshop Unit where
  settings := { quotesSource := false }
  rules := Rule.all
  kind _ := .expression
  cube _ := "Orders".toList
  coordinate _ := .dict []
  answers _ result := result = .ok ()

/-- What a source is compiled to. -/
def cloakCompile (cell : Nat) (source : Text) : Except Failure Unit :=
  if source = unclosed 'A' then .error (.shortcut (unclosedError 'A'))
  else if source = unclosed 'B' then .error (.shortcut (unclosedError 'B'))
  else Job.run (m := Id) (fun _ => ()) (fun _ => .ok ()) (cloak.job cell [] "1000".toList 1 source)

lemma comes_unclosed {c : Char} (hc : c = 'A' ∨ c = 'B') (cell : Nat) :
    cloak.Comes cell (unclosed c) (.error (.shortcut (unclosedError c))) := by
  have hfilled : fillPlaceholders "1000".toList (unclosed c) = unclosed c := by
    refine fillPlaceholders_of_not_mem ?_ _
    rcases hc with rfl | rfl <;> decide
  have hm : (cloak.job cell [] "1000".toList 1 (unclosed c)).module =
      .error (.shortcut (unclosedError c)) := by
    have hgenerate : generate cloak.settings Rule.all .expression "Orders".toList "1000".toList
        (unclosed c) = .error (.shortcut (unclosedError c)) := by
      rw [generate, hfilled]
      exact congrArg (· >>= _) (foldlM_unclosed (expandLevels Rule.all _) hc)
    exact hgenerate
  refine .inr ⟨[], "1000".toList, 1, .ok (), rfl, fun _ _ => rfl, ?_⟩
  simp only [Job.run, hm]
  rfl

lemma comes_cloakCompile (cell : Nat) (source : Text) :
    cloak.Comes cell source (cloakCompile cell source) := by
  rw [cloakCompile]
  split_ifs with hA hB
  · subst hA
    exact comes_unclosed (Or.inl rfl) cell
  · subst hB
    exact comes_unclosed (Or.inr rfl) cell
  · exact .inr ⟨[], "1000".toList, 1, .ok (), rfl, fun _ _ => rfl, rfl⟩

/-- The steps of a call whose version is rejected. -/
def rejection (i : Nat) : List Move :=
  List.replicate 8 (.advance i) ++ .comeBack i :: List.replicate 5 (.advance i)

/-- A cell is called, edited, and called again, and cannot be compiled either time. -/
def twice : List Move :=
  .make (unclosed 'A') 1 :: .call 0 :: rejection 0 ++
    .edit 0 (unclosed 'B') 2 :: .call 0 :: rejection 1

/-- Where that leads to. -/
def twiceState : CallSystem Unit Failure :=
  (CallSystem.play cloak.words cloakCompile twice .empty).getD .empty

lemma reachable_twiceState : cloak.Reachable twiceState :=
  CallSystem.steps_of_play comes_cloakCompile twice rfl

/-- The words for a source of the cell that cannot be read. -/
def twiceWords (c : Char) : Text :=
  ((cloak.words 0 (unclosed c) (.shortcut (unclosedError c))).toOption).getD []

lemma words_unclosed (c : Char) :
    cloak.words 0 (unclosed c) (.shortcut (unclosedError c)) = .ok (twiceWords c) := rfl

lemma rejected_first : Rejected twiceState 0 0 (twiceWords 'A') (unclosedError 'A') where
  made := by
    have hdeed : twiceState.deeds[9]? = some (.made 0 0) := rfl
    exact List.mem_of_getElem? hdeed
  holds := ⟨_, rfl, rfl, rfl⟩

lemma rejected_second : Rejected twiceState 0 1 (twiceWords 'B') (unclosedError 'B') where
  made := by
    have hdeed : twiceState.deeds[4]? = some (.made 0 1) := rfl
    exact List.mem_of_getElem? hdeed
  holds := ⟨_, rfl, rfl, rfl⟩

/-- The call for the first version ended with its words, and the error is that of expanding its
source. -/
theorem twice_hidden_words_eq_iff :
    (twiceWords 'A' = twiceWords 'B' ↔ unclosed 'A' = unclosed 'B') ∧
    (∃ f, Run.resultOf "Orders".toList (.dict []) twiceState.sourceOf
        (.failed 0 (twiceWords 'A') (some (.shortcut (unclosedError 'A'))) : Outcome Unit Failure) =
          .error f ∧ f.message = twiceWords 'A') ∧
    ∃ number, expand Rule.all (fillPlaceholders number (unclosed 'A')) =
      .error (unclosedError 'A') := by
  obtain ⟨hwords, hcalls, hexpand⟩ := hidden_words_eq_iff rfl reachable_twiceState
    reachable_twiceState rejected_first rejected_second rfl rfl
  have hback (m : GeneratedModule) :
      ¬ cloak.answers m (.error (.shortcut (unclosedError 'A'))) := by
    intro h
    cases h
  have hcall := hcalls 0 ⟨0, some 0, .done (.failed 0 (twiceWords 'A')
    (some (.shortcut (unclosedError 'A'))))⟩ _ rfl rfl rfl
  refine ⟨hwords, hcall.resolve_right ?_, hexpand hback⟩
  rintro ⟨fault, reason, -, hraised⟩
  cases hraised

/-- **Sources that are hidden may be told apart.** Both versions of the cell have an open parenthesis
at the same offset, in the same form of shortcut, and hold different words. -/
theorem hidden_words_ne :
    cloak.settings.quotesSource = false ∧ cloak.Reachable twiceState ∧
    Rejected twiceState 0 0 (twiceWords 'A') (unclosedError 'A') ∧
    Rejected twiceState 0 1 (twiceWords 'B') (unclosedError 'B') ∧
    expand Rule.all (unclosed 'A') = .error (unclosedError 'A') ∧
    expand Rule.all (unclosed 'B') = .error (unclosedError 'B') ∧
    (unclosedError 'A').problem = (unclosedError 'B').problem ∧
    (unclosedError 'A').position = (unclosedError 'B').position ∧
    twiceWords 'A' ≠ twiceWords 'B' := by
  refine ⟨rfl, reachable_twiceState, rejected_first, rejected_second, expand_unclosed (Or.inl rfl),
    expand_unclosed (Or.inr rfl), rfl, rfl, fun hwords => ?_⟩
  have hhidden : cloak.settings.quotesSource = false := rfl
  have hproblem : (unclosedError 'A').problem = (unclosedError 'B').problem := rfl
  have htext := (words_eq_iff_of_hidden hhidden (words_unclosed 'A') (words_unclosed 'B') hproblem
    rfl).mp hwords
  revert htext
  decide

end Workshop

end FormulaCube
