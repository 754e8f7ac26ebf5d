import FormulaCube.Proofs.Hoisting.Layout
import FormulaCube.Proofs.Hoisting.Passes
import FormulaCube.Proofs.Shortcut.Termination

/-!
# The imports at the top of a module

Imports are read off a source as it was written, and again off the text that has become of it when a module
is made: with its number filled in, with its shortcuts expanded, and without a margin.

* `Expands`, `Plain` — what may stand in a source; `Laid.exists_expanded` — its text is laid out alike.
* `generate_imports` — the imports of a source are those at the top of its module.
* `generate_imports_indented`, `IsMisread`, `isMisread_of_mem_misread` — sources with another layout.
-/

namespace FormulaCube

section

variable {rules : List Rule} {a t : Text} {c : Char} {ss : List Text}

/-! ## Sources -/

/-- No import begins in the text as it is written, and it can be expanded without the code around it. Once
the number is filled in, no import begins in it and no shortcut in a literal or a comment; or else no import
begins in what it is expanded to. -/
structure Expands (rules : List Rule) (number : Text) (fresh : Bool) (t : Text) : Prop where
  written : Rests [] fresh t
  expands : ∃ r, expand rules (fillPlaceholders number t) = .ok r ∧
    (Rests rules fresh (fillPlaceholders number t) ∨ Rests [] fresh r)

/-- A whole statement, in which nothing is filled in, expanded or cleared. -/
structure Plain (rules : List Rule) (number t : Text) : Prop where
  whole : Whole t
  filled : fillPlaceholders number t = t
  expanded : expand rules t = .ok t
  cleared : clearedText true t = t

lemma Laid.imp {rests rests' : Bool → Text → Prop} {whole whole' : Text → Prop}
    (hrests : ∀ fresh t, rests fresh t → rests' fresh t) (hwhole : ∀ t, whole t → whole' t)
    (h : Laid rests whole t ss) : Laid rests' whole' t ss := by
  induction h with
  | other h => exact .other (hrests _ _ h)
  | statement h hread => exact .statement (hwhole _ h) hread
  | followed h hends hread hrest => exact .followed (hwhole _ h) hends hread (hrests _ _ hrest)
  | lines _ _ iha ihb => exact .lines iha ihb

lemma Rests.expand {fresh : Bool} {r : Text} (h : Rests rules fresh t) (hr : expand rules t = .ok r) :
    Rests rules fresh r :=
  ⟨h.1.expand hr, fun hfresh himport => h.2 hfresh (beginsImport_of_expand (v := []) hr himport)⟩

lemma Rests.of_rules {fresh : Bool} (h : Rests rules fresh t) : Rests [] fresh t := by
  obtain ⟨⟨ps, rfl, htidy, hcalm⟩, hfirst⟩ := h
  exact ⟨⟨ps, rfl, htidy.imp fun x hx => ⟨by cases x <;> first | trivial | nofun, hx.2⟩, hcalm⟩, hfirst⟩

/-- **No import begins in what the text is expanded to.** -/
lemma Expands.exists_rests {number : Text} {fresh : Bool} (h : Expands rules number fresh t) :
    ∃ r, FormulaCube.expand rules (fillPlaceholders number t) = .ok r ∧ Rests [] fresh r := by
  obtain ⟨r, hr, hfilled | hrests⟩ := h.expands
  · exact ⟨r, hr, (hfilled.expand hr).of_rules⟩
  · exact ⟨r, hr, hrests⟩

lemma Rests.cleared {fresh : Bool} (h : Rests rules fresh t) : Rests rules fresh (clearedText fresh t) := by
  refine ⟨h.1.cleared fresh, fun hfresh himport => h.2 hfresh ?_⟩
  have himport := beginsImport_of_cleared (v := []) fresh himport
  rwa [textOf_ofText] at himport

lemma clearedText_append_newline (h : Closed a) (fresh : Bool) (b : Text) :
    clearedText fresh (a ++ '\n' :: b) = clearedText fresh a ++ '\n' :: clearedText true b := by
  rw [clearedText, h.ofText_append_newline, cleared_append_newline, textOf_append, textOf_cons]
  rfl

lemma clearedText_append_code (hc : Text.isBlank c = false) (h : Closed t)
    (hends : Piece.ofText (t ++ [c]) = Piece.ofText t ++ [.code c]) (hclear : clearedText true t = t)
    (u : Text) : clearedText true (t ++ c :: u) = t ++ c :: clearedText false u := by
  have hsame : FormulaCube.cleared true (Piece.ofText t) = Piece.ofText t := by
    have htext := (h.cleared true).ofText_textOf
    rw [← htext]
    exact congrArg Piece.ofText hclear
  rw [clearedText, ofText_append_code hends, cleared_append_code hc hsame, textOf_append, textOf_cons,
    textOf_ofText]
  rfl

/-- What begins with an import begins with no blank. -/
lemma hasBareLine_of_importHere? {s after : Text} (h : importHere? t = some (s, after)) :
    HasBareLine t := by
  have himport : BeginsImport t := isSome_importHere?_iff.mp (by rw [h]; rfl)
  obtain ⟨head, blanks, c, rest, hhead, -, -, rfl⟩ := himport
  obtain ⟨c, lead, rfl, hc⟩ := hhead.exists_eq_cons
  exact hasBareLine_of_not_isBlank hc _

/-- **What becomes of a source is laid out like it**, and there is no margin if it holds a statement. -/
theorem Laid.exists_expanded {number : Text} (h : Laid (Expands rules number) (Plain rules number) t ss) :
    ∃ r, FormulaCube.expand rules (fillPlaceholders number t) = .ok r ∧ Closed r ∧
      Laid (Rests []) Whole (clearedText true r) ss ∧ (ss ≠ [] → HasBareLine r) := by
  induction h with
  | other h =>
      obtain ⟨r, hr, hrests⟩ := h.exists_rests
      exact ⟨r, hr, hrests.1.closed, .other hrests.cleared, absurd rfl⟩
  | @statement t s h hread =>
      refine ⟨t, by rw [h.filled, h.expanded], h.whole.1, ?_, fun _ => ?_⟩
      · rw [h.cleared]
        exact .statement h.whole hread
      · have hbare := hasBareLine_of_importHere? (hread [] nofun)
        rwa [List.append_nil] at hbare
  | @followed t s u h hends hread hrest =>
      obtain ⟨r, hr, hrests⟩ := hrest.exists_rests
      refine ⟨t ++ ';' :: r, ?_, (closed_iff_of_append (ofText_append_code hends _)).mpr
        ⟨h.whole.1, hrests.1.closed⟩, ?_, fun _ => hasBareLine_of_importHere? (hread r)⟩
      · rw [fillPlaceholders_append rfl, h.filled]
        exact expand_append_cons rfl h.expanded hr
      · rw [clearedText_append_code rfl h.whole.1 hends h.cleared]
        exact .followed h.whole hends hread hrests.cleared
  | @lines a b ss ss' _ _ iha ihb =>
      obtain ⟨a', ha, hclosed, hlaid, hbare⟩ := iha
      obtain ⟨b', hb, hclosed', hlaid', hbare'⟩ := ihb
      have hcut := hclosed.ofText_append_newline b'
      have hboth := (closed_iff_of_append hcut).mpr ⟨hclosed, hclosed'⟩
      refine ⟨a' ++ '\n' :: b', ?_, hboth, ?_, fun hne => ?_⟩
      · rw [fillPlaceholders_append rfl]
        exact expand_append_cons rfl ha hb
      · rw [clearedText_append_newline hclosed]
        exact .lines hlaid hlaid'
      · rw [Closed, hcut] at hboth
        have hlines := markedLines_append_newline hboth
        rw [← hcut, textOf_ofText, textOf_ofText, textOf_ofText] at hlines
        rw [HasBareLine, hlines]
        by_cases hss : ss = []
        · obtain ⟨line, hmem, hline⟩ := hbare' fun hss' => hne (by rw [hss, hss', List.append_nil])
          exact ⟨line, List.mem_append_right _ hmem, hline⟩
        · obtain ⟨line, hmem, hline⟩ := hbare hss
          exact ⟨line, List.mem_append_left _ hmem, hline⟩

end

/-! ## Modules -/

/-- **The imports of a source are those at the top of its module.** A source without any must not be
indented as a whole. -/
theorem generate_imports {settings : Settings} {rules : List Rule} {kind : CellKind}
    {cube number source : Text} {statements : List Text} {generated : GeneratedModule}
    (hhoist : settings.hoistImports = true)
    (hlaid : Laid (Expands rules number) (Plain rules number) source statements)
    (hmargin : statements = [] → ∀ expanded, expand rules (fillPlaceholders number source) = .ok expanded →
      codeMargin (markedLines expanded) = [])
    (h : generate settings rules kind cube number source = .ok generated) :
    (extractImports source).imports = statements.eraseDups ∧
      ∃ expanded body, expand rules (fillPlaceholders number source) = .ok expanded ∧
        (extractImports (Text.trimNewlines (dedent expanded))).imports = (extractImports source).imports ∧
        classBody kind (extractImports (Text.trimNewlines (dedent expanded))).source = .ok body ∧
        generated.text = moduleText (extractImports source).imports generated.className body := by
  have hwritten := (hlaid.imp (fun _ _ h => h.written) fun _ h => h.whole).imports_eq
  obtain ⟨expanded, hexpand, hclosed, hlaid, hbare⟩ := hlaid.exists_expanded
  have hmargin : codeMargin (markedLines expanded) = [] := by
    by_cases hnone : statements = []
    · exact hmargin hnone expanded hexpand
    · exact (hbare hnone).codeMargin_eq
  have hdedent : dedent expanded = clearedText true expanded := by
    have htext := dedent_textOf hclosed (by rwa [textOf_ofText])
    rwa [textOf_ofText] at htext
  have hcompiled := hlaid.trimNewlines.imports_eq
  rw [← hdedent, ← hwritten] at hcompiled
  rw [generate] at h
  obtain ⟨_, hlevels, h⟩ := exists_of_bind_eq_ok h
  obtain rfl := Except.ok.inj (hexpand.symm.trans (expand_of_expandIn hlevels))
  obtain ⟨body, hbody, h⟩ := exists_of_bind_eq_ok h
  simp only [hhoist, if_true] at hbody h
  refine ⟨hwritten, expanded, body, hexpand, hcompiled, ok_of_mapError_eq_ok Failure.fault hbody, ?_⟩
  rw [← Except.ok.inj h]
  simp only [hcompiled]

/-- A source with statements in one and in several lines, one with another behind it, one that is there
twice, and one within a literal. There are shortcuts in the code and in a comment. -/
def importing : Text :=
  "import math\n   \nfrom os import (path,\n  sep)\nimport json; import sys\n".toList ++ layered ++
    "\nx = '''\nimport c\n'''  # $A()\nimport math".toList

lemma laid_importing : Laid (Expands Rule.all "7".toList) (Plain Rule.all "7".toList) importing
    ["import math".toList, "from os import (path,\n  sep)".toList, "import json".toList,
      "import math".toList] := by
  have hmath : Laid (Expands Rule.all "7".toList) (Plain Rule.all "7".toList) "import math".toList
      ["import math".toList] := by
    refine .statement ⟨by decide +kernel, by decide +kernel, expand_eq_self_iff.mpr (by decide +kernel),
      by decide +kernel⟩ ?_
    intro k hk
    rcases hk.eq with rfl | ⟨rest, rfl⟩ <;> rfl
  have hos : Laid (Expands Rule.all "7".toList) (Plain Rule.all "7".toList)
      "from os import (path,\n  sep)".toList ["from os import (path,\n  sep)".toList] := by
    refine .statement ⟨by decide +kernel, by decide +kernel, expand_eq_self_iff.mpr (by decide +kernel),
      by decide +kernel⟩ ?_
    intro k hk
    rcases hk.eq with rfl | ⟨rest, rfl⟩ <;> rfl
  have hblank : Laid (Expands Rule.all "7".toList) (Plain Rule.all "7".toList) "   ".toList [] :=
    .other ⟨by decide +kernel, _, expand_eq_self_iff.mpr (by decide +kernel), .inl (by decide +kernel)⟩
  have hjson : Laid (Expands Rule.all "7".toList) (Plain Rule.all "7".toList)
      ("import json".toList ++ ';' :: " import sys".toList) ["import json".toList] :=
    .followed ⟨by decide +kernel, by decide +kernel, expand_eq_self_iff.mpr (by decide +kernel),
      by decide +kernel⟩ (by decide +kernel) (fun _ => rfl)
      ⟨by decide +kernel, _, expand_eq_self_iff.mpr (by decide +kernel), .inl (by decide +kernel)⟩
  have hlayered : Laid (Expands Rule.all "7".toList) (Plain Rule.all "7".toList) layered [] :=
    .other ⟨by decide +kernel, _, expand_of_expandIn expandIn_layered, .inl (by decide +kernel)⟩
  have hcomment : expand Rule.all (fillPlaceholders "7".toList "x = '''\nimport c\n'''  # $A()".toList) =
      .ok "x = '''\nimport c\n'''  # self.get_fixed_cell('A', \x7b\x7d)".toList := by
    rw [fillPlaceholders_eq_self (by decide +kernel)]
    exact expand_of_expandIn <| expandIn_of_one
      ⟨"x = '''\nimport c\n'''  # ".toList, some ['A'], [')']⟩ 0 "\x7b\x7d".toList 0 (by decide +kernel)
      (by decide +kernel) (by decide +kernel) (by decide +kernel) (by decide +kernel) rfl
      (by decide +kernel)
  have hliteral : Laid (Expands Rule.all "7".toList) (Plain Rule.all "7".toList)
      "x = '''\nimport c\n'''  # $A()".toList [] :=
    .other ⟨by decide +kernel, _, hcomment, .inr (by decide +kernel)⟩
  have hlines : importing = "import math".toList ++ '\n' :: ("   ".toList ++
      '\n' :: ("from os import (path,\n  sep)".toList ++ '\n' :: (("import json".toList ++
      ';' :: " import sys".toList) ++ '\n' :: (layered ++
      '\n' :: ("x = '''\nimport c\n'''  # $A()".toList ++ '\n' :: "import math".toList))))) := by
    decide +kernel
  rw [hlines]
  exact hmath.lines (hblank.lines (hos.lines (hjson.lines (hlayered.lines (hliteral.lines hmath)))))

/-- The source becomes a module with each of its imports once. -/
theorem generate_imports_importing :
    ∃ generated, generate {} Rule.all .methods [] "7".toList importing = .ok generated ∧
      (extractImports importing).imports =
        ["import math".toList, "from os import (path,\n  sep)".toList, "import json".toList] ∧
      ∃ body, generated.text = moduleText
        ["import math".toList, "from os import (path,\n  sep)".toList, "import json".toList]
          generated.className body := by
  obtain ⟨generated, h⟩ : ∃ generated,
      generate {} Rule.all .methods [] "7".toList importing = .ok generated := by
    obtain ⟨expanded, hexpand, -⟩ := laid_importing.exists_expanded
    have hlevels : sigilCount (fillPlaceholders "7".toList importing) < expansionLevels := by
      decide +kernel
    rw [generate, expandIn_of_sigilCount_lt hlevels, hexpand]
    exact ⟨_, rfl⟩
  obtain ⟨himports, expanded, body, -, -, -, htext⟩ := generate_imports rfl laid_importing
    (absurd · (List.cons_ne_nil _ _)) h
  rw [himports] at htext
  exact ⟨generated, h, himports, body, htext⟩

/-! ## Other sources -/

/-- What a module begins with. -/
def moduleLead (imports : List Text) (name : Text) : Text :=
  (Text.join ['\n'] imports ++ "\n\n\nclass ".toList ++ name ++ "(ExecutionShim):\n".toList).dropWhile
    (· == '\n')

lemma moduleLead_isPrefix (imports : List Text) (name body : Text) :
    moduleLead imports name <+: moduleText imports name body := by
  have hne : moduleLead imports name ≠ [] := by
    rw [moduleLead, Ne, List.dropWhile_eq_nil_iff]
    intro h
    have hclass := h 'c' (by simp)
    cases hclass
  rw [moduleText, List.append_assoc, List.dropWhile_append, if_neg]
  · exact List.prefix_append _ _
  · rwa [List.isEmpty_iff]

/-- The module for a source of methods that is expanded to the text. -/
def methodsModule (expanded : Text) : Text :=
  let left := extractImports (Text.trimNewlines (dedent expanded))
  moduleText left.imports (className {} [] "7".toList)
    (if left.source.isBlankText then blanks 4 ++ "pass".toList else indent (blanks 4) left.source)

/-- The module of the source has other imports at its top. -/
def IsMisread (source : Text) : Prop :=
  ∃ generated, generate {} Rule.all .methods [] "7".toList source = .ok generated ∧
    ∀ body, generated.text ≠ moduleText (extractImports source).imports generated.className body

lemma isMisread_of_expand {source expanded : Text}
    (hexpand : expandIn expansionLevels Rule.all (fillPlaceholders "7".toList source) = .ok expanded)
    (hlead : ¬ moduleLead (extractImports source).imports (className {} [] "7".toList) <+:
      methodsModule expanded) : IsMisread source := by
  refine ⟨⟨className {} [] "7".toList, methodsModule expanded⟩, by rw [generate, hexpand]; rfl, ?_⟩
  intro body htext
  dsimp only at htext
  rw [htext] at hlead
  exact hlead (moduleLead_isPrefix _ _ _)

/-- The imports of a source that is indented as a whole are only seen without the margin. -/
theorem generate_imports_indented :
    ∃ generated, generate {} Rule.all .methods [] "7".toList "  import math\n  math.pi".toList =
        .ok generated ∧ ∀ body, generated.text ≠
      moduleText (extractImports "  import math\n  math.pi".toList).imports generated.className body :=
  isMisread_of_expand (expandLevels_of_findHead_eq_none (by decide +kernel) _ 0) (by decide +kernel)

lemma isMisread_of_shortcut (head : Rule.Head) (close : Nat) (literal : Text) {t r : Text}
    (hr : head.before ++ Rule.fixedCube.rewrite head.name literal ++ head.after.drop (close + 1) = r)
    (h : fillPlaceholders [] t = t ∧
      (∀ rule ∈ Rule.all, rule.findHead none (head.after.take close) = none) ∧
      Rule.fixedCube.findHead none t = some head ∧ closingParen? head.after = some close ∧
      coordinateLiteral (head.after.take close) 0 = .ok literal ∧
      Rule.fixedCube.findHead (some ')') (head.after.drop (close + 1)) = none ∧
      (∀ rule ∈ [Rule.relative, .relativeCube, .relativeAt], rule.findHead none r = none) ∧
      ¬ moduleLead (extractImports t).imports (className {} [] "7".toList) <+: methodsModule r) :
    IsMisread t := by
  obtain ⟨hfill, hinner, hfind, hclose, hliteral, hrest, hothers, hlead⟩ := h
  refine isMisread_of_expand ?_ hlead
  rw [fillPlaceholders_eq_self hfill]
  exact expandIn_of_one head close literal _ hinner hfind hclose hliteral hrest hr hothers

/-- Sources that are not laid out so. In the first four a number is filled in, a shortcut is expanded or a
line of blanks is cleared in what is an import before or afterwards. Then an import begins in a line of a
shortcut, and a list in parentheses is not closed. In the last four a shortcut goes on behind the comment or
the literal in which it begins, a literal is not closed, and a line of a literal opens a list. -/
def misread : List Text :=
  ["import ~a~".toList, "from ~a~ import b".toList, "import a, $B()".toList,
    "from a import (b,\n \nc)".toList, "$A(\nimport b\n)".toList, "from a import (b\n$C(x: (1)\n)".toList,
    "# $A(\nimport b\n)".toList, "'''$A(a #'''\n)\nimport b".toList,
    "$A('a\n)\"\"\"\nimport b\n\"\"\"".toList, "'''\nfrom a import (\n'''\nimport b\n$A((1)\n)".toList]

/-- **Where something else is done to what begins a line**, the imports are not those of the module. -/
lemma isMisread_of_mem_misread : ∀ source ∈ misread, IsMisread source := by
  have hplain {source : Text}
      (h : ∀ rule ∈ Rule.all, rule.findHead none (fillPlaceholders "7".toList source) = none) :=
    isMisread_of_expand (expandLevels_of_findHead_eq_none h _ 0)
  simp only [misread, List.forall_mem_cons, List.not_mem_nil, false_implies, implies_true, and_true]
  refine ⟨hplain (by decide +kernel) (by decide +kernel), hplain (by decide +kernel) (by decide +kernel),
    ?_, hplain (by decide +kernel) (by decide +kernel), ?_, ?_, ?_, ?_, ?_, ?_⟩
  · exact isMisread_of_shortcut ⟨"import a, ".toList, some ['B'], [')']⟩ 0 "\x7b\x7d".toList rfl
      (by decide +kernel)
  · exact isMisread_of_shortcut ⟨[], some ['A'], "\nimport b\n)".toList⟩ 10 "import b".toList rfl
      (by decide +kernel)
  · exact isMisread_of_shortcut ⟨"from a import (b\n".toList, some ['C'], "x: (1)\n)".toList⟩ 7
      "\x7b'x': (1)\x7d".toList rfl (by decide +kernel)
  · exact isMisread_of_shortcut ⟨"# ".toList, some ['A'], "\nimport b\n)".toList⟩ 10 "import b".toList rfl
      (by decide +kernel)
  · exact isMisread_of_shortcut ⟨"'''".toList, some ['A'], "a #'''\n)\nimport b".toList⟩ 7 "a".toList rfl
      (by decide +kernel)
  · exact isMisread_of_shortcut ⟨[], some ['A'], "'a\n)\"\"\"\nimport b\n\"\"\"".toList⟩ 3 "'a".toList rfl
      (by decide +kernel)
  · exact isMisread_of_shortcut ⟨"'''\nfrom a import (\n'''\nimport b\n".toList, some ['A'],
      "(1)\n)".toList⟩ 4 "(1)".toList rfl (by decide +kernel)

end FormulaCube
