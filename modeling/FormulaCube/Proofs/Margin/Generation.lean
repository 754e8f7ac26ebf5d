import FormulaCube.Cell.Module
import FormulaCube.Proofs.Margin.Expansion
import FormulaCube.Proofs.Margin.Filling
import FormulaCube.Proofs.Shortcut.Independence
import Mathlib

/-!
# Modules of sources with a margin

The shortcuts of a source are expanded before its margin is taken away, so that a margin goes through
the coordinates of shortcuts, too. It leaves no trace in the module.

* `Piece.isSettled` — closed literals, and no heads of shortcuts in literals and comments.
* `generate_indent` — a source with a margin becomes the module that it becomes without.
* `generate_indent_ne` — numbers that begin or end something in the source.
-/

namespace FormulaCube

/-- The piece is no literal that is not closed, and no head of the forms begins in a literal or a
comment. -/
def Piece.isSettled (rules : List Rule) : Piece → Bool
  | .code _ => true
  | .literal body cut =>
    !cut && isClosedLiteral body && rules.all fun rule => (rule.findHead none body).isNone
  | .comment body => rules.all fun rule => (rule.findHead none body).isNone

/-- All pieces of the text are settled. -/
def isSettled (rules : List Rule) (t : Text) : Bool := (Piece.ofText t).all (Piece.isSettled rules)

variable {rules : List Rule}

lemma Piece.isInert_of_isSettled {x : Piece} (h : x.isSettled rules = true) : x.IsInert rules := by
  cases x with
  | code c => trivial
  | literal body cut =>
      rw [Piece.isSettled, Bool.and_eq_true, List.all_eq_true] at h
      exact fun rule hrule => Option.isNone_iff_eq_none.mp (h.2 rule hrule)
  | comment body =>
      rw [Piece.isSettled, List.all_eq_true] at h
      exact fun rule hrule => Option.isNone_iff_eq_none.mp (h rule hrule)

lemma tidy_of_isSettled {t : Text} (h : isSettled rules t = true) :
    Tidy (Piece.IsInert rules) (Piece.ofText t) := by
  have hall := List.all_eq_true.mp h
  refine tidy_ofText (fun body cut hmem => ?_) fun x hmem => Piece.isInert_of_isSettled (hall x hmem)
  have hliteral := hall _ hmem
  rw [Piece.isSettled, Bool.and_eq_true, Bool.and_eq_true, Bool.not_eq_true'] at hliteral
  exact hliteral.1

/-- **A margin in front of a text leaves no trace when its shortcuts are expanded and the common margin
is taken away.** -/
lemma alike_dedent_expandIn {t : Text} (h : isSettled rules t = true) (levels width : Nat) :
    Alike (fun a b => dedent b = dedent a) (expandIn levels rules t)
      (expandIn levels rules (indent (blanks width) t)) :=
  ((moved_indent (tidy_of_isSettled h) width).expandIn levels).imp fun _ _ _ hmoved =>
    hmoved.dedent_eq fun _ => trivial

/-- **A source with a margin becomes the same module as without**, or none on both sides. Filled in, the
number must leave all literals closed and no head inside of literals and comments; and where the source
has a place for it, it must be quiet. -/
theorem generate_indent (settings : Settings) (rules : List Rule) (kind : CellKind) (cube : Text)
    {number source : Text}
    (hnumber : number.all isQuiet = true ∨ ∀ name, .token name ∉ placeholderParts source)
    (hsource : isSettled rules (fillPlaceholders number source) = true) (width : Nat)
    (generated : GeneratedModule) :
    generate settings rules kind cube number (indent (blanks width) source) = .ok generated ↔
      generate settings rules kind cube number source = .ok generated := by
  have hexpand := alike_dedent_expandIn hsource expansionLevels width
  rw [generate, generate, fillPlaceholders_indent hnumber]
  revert hexpand
  cases expandIn expansionLevels rules (fillPlaceholders number source) with
  | error e =>
      cases expandIn expansionLevels rules (indent (blanks width) (fillPlaceholders number source)) with
      | error e' =>
          intro _
          constructor <;>
            · intro h
              cases h
      | ok b => exact fun h => h.elim
  | ok a =>
      cases expandIn expansionLevels rules (indent (blanks width) (fillPlaceholders number source)) with
      | error e' => exact fun h => h.elim
      | ok b =>
          intro hdedent
          have hdedent : dedent b = dedent a := hdedent
          simp only [bind, Except.bind, hdedent]

/-- **The one shortcut of a text is expanded**, with two levels, if it names a cube and a coordinate in
itself. -/
lemma expandIn_of_one (head : Rule.Head) (close : Nat) (literal : Text) {t r : Text} (levels : Nat)
    (hinner : ∀ rule ∈ Rule.all, rule.findHead none (head.after.take close) = none)
    (hfind : Rule.fixedCube.findHead none t = some head)
    (hclose : closingParen? head.after = some close)
    (hliteral : coordinateLiteral (head.after.take close) 0 = .ok literal)
    (hrest : Rule.fixedCube.findHead (some ')') (head.after.drop (close + 1)) = none)
    (hr : head.before ++ Rule.fixedCube.rewrite head.name literal ++ head.after.drop (close + 1) = r)
    (hothers : ∀ rule ∈ [Rule.relative, .relativeCube, .relativeAt], rule.findHead none r = none) :
    expandIn (levels + 2) Rule.all t = .ok r := by
  have hnested (inner : Int) : expandLevels Rule.all (levels + 1) inner (head.after.take close) =
      .ok (head.after.take close) := expandLevels_of_findHead_eq_none hinner _ inner
  rw [expandIn, expandLevels]
  generalize expandLevels Rule.all (levels + 1) = nested at hnested ⊢
  have hpass : expandForm nested .fixedCube 0 none t = .ok r := by
    rw [expandForm_of_some hfind, expandHead, hclose]
    simp only [hnested, bind, Except.bind, coordinateLiteral_at hliteral, mapError_ok,
      expandForm_of_none hrest, Except.map]
    rw [← List.append_assoc, hr]
  rw [Rule.all, foldlM_cons_of_ok hpass]
  exact foldlM_of_findHead_eq_none hothers

/-- A source with a shortcut over several lines, a comment in its coordinate, and a text over two
lines. -/
def layered : Text := "def f~x~():\n  $A(y: 1, # one\n  z: '''b\nc''')".toList

/-- The source with the shortcut expanded, and with `7` filled in. -/
def layeredExpanded : Text :=
  "def fx7():\n  self.get_fixed_cell('A', \x7b'y': 1, 'z': '''b\nc'''\x7d)".toList

lemma expandIn_layered :
    expandIn expansionLevels Rule.all (fillPlaceholders "7".toList layered) = .ok layeredExpanded := by
  have hfill : fillPlaceholders "7".toList layered =
      "def fx7():\n  $A(y: 1, # one\n  z: '''b\nc''')".toList := by decide +kernel
  rw [hfill]
  exact expandIn_of_one ⟨"def fx7():\n  ".toList, some ['A'], "y: 1, # one\n  z: '''b\nc''')".toList⟩ 26
    "\x7b'y': 1, 'z': '''b\nc'''\x7d".toList _ (by decide +kernel) (by decide +kernel)
    (by decide +kernel) (by decide +kernel) (by decide +kernel) (by decide +kernel)
    (by decide +kernel)

theorem generate_indent_layered :
    ∃ generated, generate {} Rule.all .methods [] "7".toList layered = .ok generated ∧
      generate {} Rule.all .methods [] "7".toList (indent (blanks 4) layered) = .ok generated := by
  obtain ⟨generated, h⟩ : ∃ generated,
      generate {} Rule.all .methods [] "7".toList layered = .ok generated := by
    rw [generate, expandIn_layered]
    exact ⟨_, rfl⟩
  exact ⟨generated, h,
    (generate_indent {} Rule.all .methods [] (.inl (by decide)) (by decide +kernel) 4 generated).mpr h⟩

/-- Each character that is not quiet, as a number, with a source in which it begins, ends or escapes
something. -/
def loudNumbers : List (Text × Text) :=
  [("\n".toList, "x~a~y".toList), ("'".toList, "~a~\\\n ~b~".toList),
    ("\"".toList, "~a~\\\n ~b~".toList), ("#".toList, "~a~'\\\nx''".toList),
    ("\\".toList, "'~a~'+'\\\nx''".toList)]

/-- **A number that is not quiet may let the margin through**, also where the source is settled with
this number filled in. -/
theorem generate_indent_ne :
    loudNumbers.all (fun (number, source) =>
      isSettled Rule.all (fillPlaceholders number source) &&
        (generate {} Rule.all .methods [] number (indent (blanks 2) source)).toOption !=
          (generate {} Rule.all .methods [] number source).toOption) = true := by
  decide +kernel

end FormulaCube
