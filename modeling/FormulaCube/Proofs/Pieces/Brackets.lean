import FormulaCube.Proofs.Shortcut.Positions
import Mathlib.Tactic.SplitIfs

/-!
# Brackets that are closed

The search for a closing parenthesis keeps a stack of the brackets that it expects, and gives up at the
first bracket that does not fit. What it finds is said here by the grammar of nested brackets, without a
stack.

**Words of brackets.** `Nested` are the words in which every bracket is closed by one of its kind, and
`LeavesOpen` those in which some are still open. `stackAfter` reads a word with a stack;
`stackAfter_eq_some_iff` says that it reads exactly the words of the grammar.

**Positions.** `codePositions` are the positions that the scan of a text does not skip as part of a
literal or a comment, and `bracketsBefore` the brackets at those before a position.

**The search.** `closingFrom_eq_some_iff` and `closingFrom_eq_none_iff` say among pieces when it
succeeds and when it fails; `closingParenFrom_nested` says it of the positions of a text.
-/

namespace FormulaCube

variable {bs bs' : List Bracket} {w v : Text}

/-! ## Words of brackets -/

/-- Words of brackets in which every bracket is closed by one of its kind. -/
inductive Nested : Text → Prop
  /-- No brackets. -/
  | nil : Nested []
  /-- A pair of brackets, what stands between them, and what follows. -/
  | group (b : Bracket) {inner rest : Text} (hinner : Nested inner) (hrest : Nested rest) :
      Nested (b.opener :: (inner ++ b.closer :: rest))

/-- Words of brackets in which all brackets are closed but these, the last one first. -/
inductive LeavesOpen : List Bracket → Text → Prop
  /-- Every bracket is closed. -/
  | nested {w : Text} (h : Nested w) : LeavesOpen [] w
  /-- One more bracket is opened, and those behind it are closed. -/
  | opened (b : Bracket) {bs : List Bracket} {w v : Text} (hw : LeavesOpen bs w) (hv : Nested v) :
      LeavesOpen (b :: bs) (w ++ b.opener :: v)

lemma Nested.append (hw : Nested w) (hv : Nested v) : Nested (w ++ v) := by
  induction hw with
  | nil => exact hv
  | group b hinner _ _ ih =>
      rw [List.cons_append, List.append_assoc, List.cons_append]
      exact .group b hinner ih

namespace LeavesOpen

lemma append_nested (hw : LeavesOpen bs w) (hv : Nested v) : LeavesOpen bs (w ++ v) := by
  cases hw with
  | nested hw => exact .nested (hw.append hv)
  | opened b hw hu =>
      rw [List.append_assoc, List.cons_append]
      exact .opened b hw (hu.append hv)

lemma concat_opener (h : LeavesOpen bs w) (b : Bracket) : LeavesOpen (b :: bs) (w ++ [b.opener]) :=
  .opened b h .nil

/-- The bracket that was opened last is closed. -/
lemma concat_closer {b : Bracket} (h : LeavesOpen (b :: bs) w) : LeavesOpen bs (w ++ [b.closer]) := by
  cases h with
  | opened _ hw hv =>
      rw [List.append_assoc, List.cons_append]
      exact hw.append_nested (.group b hv .nil)

end LeavesOpen

lemma leavesOpen_nil_iff : LeavesOpen [] w ↔ Nested w := by
  refine ⟨fun h => ?_, .nested⟩
  cases h with
  | nested h => exact h

/-! ## Reading with a stack -/

/-- The bracket that the character opens. -/
def bracketOf? (c : Char) : Option Bracket :=
  if c = '(' then some .round
  else if c = '[' then some .square
  else if c = '\x7b' then some .curly
  else none

lemma bracketOf?_eq_some_iff {c : Char} {b : Bracket} : bracketOf? c = some b ↔ c = b.opener := by
  constructor
  · intro h
    unfold bracketOf? at h
    split_ifs at h <;> cases h <;> assumption
  · rintro rfl
    cases b <;> rfl

lemma closer_inj {b b' : Bracket} (h : b.closer = b'.closer) : b = b' := by
  cases b <;> cases b' <;> first | rfl | cases h

/-- Reads one bracket: it is opened, or it closes the one opened last. -/
def readBracket (bs : List Bracket) (c : Char) : Option (List Bracket) :=
  match bracketOf? c with
  | some b => some (b :: bs)
  | none =>
    match bs with
    | [] => none
    | b :: below => if c = b.closer then some below else none

lemma readBracket_opener (bs : List Bracket) (b : Bracket) :
    readBracket bs b.opener = some (b :: bs) := by
  cases b <;> rfl

lemma readBracket_closer (bs : List Bracket) (b : Bracket) :
    readBracket (b :: bs) b.closer = some bs := by
  cases b <;> rfl

/-- What is read is opened, or closes the bracket opened last. -/
lemma readBracket_eq_some {c : Char} (h : readBracket bs c = some bs') :
    (∃ b : Bracket, c = b.opener ∧ bs' = b :: bs) ∨ ∃ b : Bracket, c = b.closer ∧ bs = b :: bs' := by
  unfold readBracket at h
  split at h
  · rename_i b hb
    exact .inl ⟨b, bracketOf?_eq_some_iff.mp hb, (Option.some_inj.mp h).symm⟩
  · split at h
    · cases h
    · rename_i b below
      split_ifs at h with hc
      obtain rfl := Option.some_inj.mp h
      exact .inr ⟨b, hc, rfl⟩

/-- The brackets that are open after a word, if each bracket on the way closes the one opened last. -/
def stackAfter (bs : List Bracket) (w : Text) : Option (List Bracket) := w.foldlM readBracket bs

lemma stackAfter_cons (bs : List Bracket) (c : Char) (w : Text) :
    stackAfter bs (c :: w) = (readBracket bs c).bind (stackAfter · w) := List.foldlM_cons

lemma stackAfter_append (bs : List Bracket) (w v : Text) :
    stackAfter bs (w ++ v) = (stackAfter bs w).bind (stackAfter · v) := List.foldlM_append

lemma stackAfter_opener (bs : List Bracket) (b : Bracket) (w : Text) :
    stackAfter bs (b.opener :: w) = stackAfter (b :: bs) w := by
  rw [stackAfter_cons, readBracket_opener, Option.bind_some]

lemma stackAfter_closer (bs : List Bracket) (b : Bracket) (w : Text) :
    stackAfter (b :: bs) (b.closer :: w) = stackAfter bs w := by
  rw [stackAfter_cons, readBracket_closer, Option.bind_some]

/-- Brackets that are closed leave the stack as it is. -/
lemma stackAfter_of_nested (h : Nested w) (bs : List Bracket) : stackAfter bs w = some bs := by
  induction h generalizing bs with
  | nil => rfl
  | group b _ _ ihinner ihrest =>
      rw [stackAfter_opener, stackAfter_append, ihinner, Option.bind_some, stackAfter_closer, ihrest]

/-- What is read stands behind a word that left the stack. -/
lemma leaves_append (hw : LeavesOpen bs w) (hv : stackAfter bs v = some bs') :
    LeavesOpen bs' (w ++ v) := by
  induction v generalizing bs w with
  | nil =>
      obtain rfl := Option.some_inj.mp hv
      rwa [List.append_nil]
  | cons c v ih =>
      rw [stackAfter_cons, Option.bind_eq_some_iff] at hv
      obtain ⟨next, hread, hv⟩ := hv
      rw [← List.singleton_append, ← List.append_assoc]
      rcases readBracket_eq_some hread with ⟨b, rfl, rfl⟩ | ⟨b, rfl, rfl⟩
      · exact ih (hw.concat_opener b) hv
      · exact ih hw.concat_closer hv

/-- **The stack reads exactly the words of the grammar**, and holds the brackets that are open. -/
theorem stackAfter_eq_some_iff : stackAfter [] w = some bs ↔ LeavesOpen bs w := by
  refine ⟨fun h => leaves_append (.nested .nil) h, fun h => ?_⟩
  induction h with
  | nested h => exact stackAfter_of_nested h []
  | opened b _ hv ih =>
      rw [stackAfter_append, ih, Option.bind_some, stackAfter_opener, stackAfter_of_nested hv]

/-! ## Brackets among pieces -/

/-- Whether the character is a bracket. -/
def isBracket (c : Char) : Bool := (closer? c).isSome || isCloser c

/-- The brackets among pieces. -/
def bracketsOf : List Piece → Text
  | [] => []
  | .code c :: ps => if isBracket c then c :: bracketsOf ps else bracketsOf ps
  | _ :: ps => bracketsOf ps

/-- A character of code has the property, together with the pieces before it. -/
def AtCode (p : List Piece → Char → Prop) (ps : List Piece) : Prop :=
  ∃ before c after, ps = before ++ .code c :: after ∧ p before c

variable {x : Piece} {ps : List Piece} {p : List Piece → Char → Prop}

lemma not_atCode_nil : ¬ AtCode p [] := by
  rintro ⟨before, c, after, h, -⟩
  exact absurd h.symm (List.append_ne_nil_of_right_ne_nil _ (List.cons_ne_nil _ _))

lemma atCode_cons_iff :
    AtCode p (x :: ps) ↔ (∃ c, x = .code c ∧ p [] c) ∨ AtCode (fun before => p (x :: before)) ps := by
  constructor
  · rintro ⟨before, c, after, h, hp⟩
    cases before with
    | nil =>
        obtain ⟨rfl, -⟩ := List.cons.inj h
        exact .inl ⟨c, rfl, hp⟩
    | cons y before =>
        obtain ⟨rfl, rfl⟩ := List.cons.inj h
        exact .inr ⟨before, c, after, rfl, hp⟩
  · rintro (⟨c, rfl, hp⟩ | ⟨before, c, after, rfl, hp⟩)
    · exact ⟨[], c, ps, rfl, hp⟩
    · exact ⟨x :: before, c, after, rfl, hp⟩

/-! ## The search among pieces -/

/-- The closing brackets that the search expects, that of the parenthesis before the text last. -/
def expectedFor (bs : List Bracket) : Text := bs.map Bracket.closer ++ [')']

/-- The bracket that is to be closed next. -/
def topOf (bs : List Bracket) : Bracket := bs.headD .round

/-- The brackets that are open behind a piece. -/
def readPiece (bs : List Bracket) : Piece → Option (List Bracket)
  | .code c => if isBracket c then readBracket bs c else some bs
  | _ => some bs

lemma stackAfter_bracketsOf_cons (bs : List Bracket) (x : Piece) (ps : List Piece) :
    stackAfter bs (bracketsOf (x :: ps)) = (readPiece bs x).bind (stackAfter · (bracketsOf ps)) := by
  cases x with
  | code c =>
      rw [bracketsOf, readPiece]
      split
      · exact stackAfter_cons bs c _
      · rfl
  | literal body cut => rfl
  | comment body => rfl

/-- The search goes on behind a piece that can be read. -/
lemma closingFrom_of_readPiece (h : readPiece bs x = some bs') (start : Nat) (ps : List Piece) :
    closingFrom (expectedFor bs) start (x :: ps) =
      closingFrom (expectedFor bs') (start + x.length) ps := by
  cases x with
  | literal body cut =>
      obtain rfl := Option.some_inj.mp h
      rfl
  | comment body =>
      obtain rfl := Option.some_inj.mp h
      rfl
  | code c =>
      rw [readPiece] at h
      split at h
      · rcases readBracket_eq_some h with ⟨b, rfl, rfl⟩ | ⟨b, rfl, rfl⟩
        · exact closingFrom_opener b _ start ps
        · exact closingFrom_closer b (List.append_ne_nil_of_right_ne_nil _ (List.cons_ne_nil _ _))
            start ps
      · rename_i hc
        rw [isBracket, Bool.or_eq_true, not_or, Bool.not_eq_true, Bool.not_eq_true,
          Option.isSome_eq_false_iff, Option.isNone_iff_eq_none] at hc
        obtain rfl := Option.some_inj.mp h
        exact closingFrom_plain hc.1 hc.2 _ start ps

lemma exists_bracket {c : Char} (h : isBracket c = true) :
    (∃ b : Bracket, c = b.opener) ∨ ∃ b : Bracket, c = b.closer := by
  rw [isBracket, Bool.or_eq_true] at h
  refine h.imp (fun hopen => ?_) fun hclose => ?_
  · unfold closer? at hopen
    split_ifs at hopen with hround hsquare hcurly
    · exact ⟨.round, hround⟩
    · exact ⟨.square, hsquare⟩
    · exact ⟨.curly, hcurly⟩
    · cases hopen
  · simp only [isCloser, Bool.or_eq_true, decide_eq_true_eq] at hclose
    rcases hclose with (hround | hsquare) | hcurly
    · exact ⟨.round, hround⟩
    · exact ⟨.square, hsquare⟩
    · exact ⟨.curly, hcurly⟩

lemma closingFrom_closer_of_ne {b top : Bracket} (h : b ≠ top) (expected : Text) (start : Nat)
    (ps : List Piece) :
    closingFrom (top.closer :: expected) start (.code b.closer :: ps) = none := by
  cases expected <;> cases b <;> cases top <;> first | rfl | exact absurd rfl h

/-- The search ends at a closing bracket that cannot be read: with success if it is the parenthesis
and no other bracket is open. -/
lemma closingFrom_of_readPiece_eq_none (h : readPiece bs x = none) :
    ∃ b : Bracket, x = .code b.closer ∧ (bs = [] ∨ b ≠ topOf bs) ∧ ∀ start ps,
      closingFrom (expectedFor bs) start (x :: ps) =
        if bs = [] ∧ b = .round then some start else none := by
  cases x with
  | literal body cut => cases h
  | comment body => cases h
  | code c =>
      rw [readPiece] at h
      split at h
      · rename_i hc
        rcases exists_bracket hc with ⟨b, rfl⟩ | ⟨b, rfl⟩
        · rw [readBracket_opener] at h
          cases h
        · refine ⟨b, rfl, ?_⟩
          cases bs with
          | nil =>
              refine ⟨.inl rfl, fun start ps => ?_⟩
              cases b <;> rfl
          | cons top below =>
              have htop : b ≠ top := by
                rintro rfl
                rw [readBracket_closer] at h
                cases h
              refine ⟨.inr htop, fun start ps => ?_⟩
              rw [if_neg fun hnil => List.cons_ne_nil _ _ hnil.1]
              exact closingFrom_closer_of_ne htop _ start ps
      · cases h

/-- **When the search succeeds**: the parenthesis stands behind a word in which all brackets are
closed. -/
lemma closingFrom_eq_some_iff {start r : Nat} :
    closingFrom (expectedFor bs) start ps = some r ↔
      AtCode (fun before c => c = ')' ∧ r = start + (textOf before).length ∧
        stackAfter bs (bracketsOf before) = some []) ps := by
  induction ps generalizing bs start with
  | nil => exact ⟨nofun, fun h => absurd h not_atCode_nil⟩
  | cons x ps ih =>
      rw [atCode_cons_iff]
      simp only [stackAfter_bracketsOf_cons]
      cases hread : readPiece bs x with
      | some next =>
          have hhere : ¬ ∃ c, x = .code c ∧ c = ')' ∧ r = start + (textOf []).length ∧
              stackAfter bs (bracketsOf []) = some [] := by
            rintro ⟨c, rfl, rfl, -, hempty⟩
            obtain rfl := Option.some_inj.mp hempty
            cases hread
          rw [closingFrom_of_readPiece hread, ih, or_iff_right hhere]
          simp only [add_length_textOf_cons, Option.bind_some]
      | none =>
          obtain ⟨b, rfl, -, hclosing⟩ := closingFrom_of_readPiece_eq_none hread
          have hthere : ¬ AtCode (fun before c => c = ')' ∧
              r = start + (textOf (.code b.closer :: before)).length ∧
              (none : Option (List Bracket)).bind (stackAfter · (bracketsOf before)) = some []) ps := by
            rintro ⟨before, c, after, -, -, -, hnone⟩
            cases hnone
          rw [hclosing, or_iff_left hthere]
          constructor
          · intro h
            split_ifs at h with hround
            obtain ⟨rfl, rfl⟩ := hround
            obtain rfl := Option.some_inj.mp h
            exact ⟨')', rfl, rfl, rfl, rfl⟩
          · rintro ⟨c, hc, rfl, hr, hempty⟩
            obtain rfl := Option.some_inj.mp hempty
            have hb : b = .round := closer_inj (Piece.code.inj hc)
            rw [if_pos ⟨rfl, hb⟩, hr]
            rfl

/-- **When the search fails**: the pieces end while brackets are open, or a closing bracket does not
fit the one opened last. -/
lemma closingFrom_eq_none_iff {start : Nat} :
    closingFrom (expectedFor bs) start ps = none ↔
      (∃ left, stackAfter bs (bracketsOf ps) = some left) ∨
      AtCode (fun before c => ∃ left, stackAfter bs (bracketsOf before) = some left ∧
        isCloser c = true ∧ c ≠ (topOf left).closer) ps := by
  induction ps generalizing bs start with
  | nil => exact ⟨fun _ => .inl ⟨bs, rfl⟩, fun _ => rfl⟩
  | cons x ps ih =>
      rw [atCode_cons_iff]
      simp only [stackAfter_bracketsOf_cons]
      cases hread : readPiece bs x with
      | some next =>
          have hhere : ¬ ∃ c, x = .code c ∧ ∃ left, stackAfter bs (bracketsOf []) = some left ∧
              isCloser c = true ∧ c ≠ (topOf left).closer := by
            rintro ⟨c, rfl, left, hleft, hclose, hne⟩
            obtain rfl := Option.some_inj.mp hleft
            rw [readPiece, isBracket, hclose, Bool.or_true, if_pos rfl] at hread
            rcases readBracket_eq_some hread with ⟨b, rfl, -⟩ | ⟨b, rfl, rfl⟩
            · cases b <;> cases hclose
            · exact hne rfl
          rw [closingFrom_of_readPiece hread, ih, or_iff_right hhere]
          simp only [Option.bind_some]
      | none =>
          obtain ⟨b, rfl, hstop, hclosing⟩ := closingFrom_of_readPiece_eq_none hread
          have hwhole : ¬ ∃ left, (none : Option (List Bracket)).bind (stackAfter · (bracketsOf ps)) =
              some left := by
            rintro ⟨left, hnone⟩
            cases hnone
          have hthere : ¬ AtCode (fun before c => ∃ left, (none : Option (List Bracket)).bind
              (stackAfter · (bracketsOf before)) = some left ∧ isCloser c = true ∧
                c ≠ (topOf left).closer) ps := by
            rintro ⟨before, c, after, -, left, hnone, -⟩
            cases hnone
          rw [hclosing, or_iff_right hwhole, or_iff_left hthere]
          constructor
          · intro h
            split_ifs at h with hround
            refine ⟨b.closer, rfl, bs, rfl, by cases b <;> rfl, fun heq => ?_⟩
            rcases hstop with rfl | hne
            · exact hround ⟨rfl, closer_inj heq⟩
            · exact hne (closer_inj heq)
          · rintro ⟨c, hc, left, hleft, -, hne⟩
            obtain rfl := Option.some_inj.mp hleft
            obtain rfl := Piece.code.inj hc
            refine if_neg fun hround => hne ?_
            rw [hround.1, hround.2]
            rfl

/-! ## Positions in a text -/

/-- The positions of the characters of code among pieces that begin at `start`. -/
def codePositionsFrom : (start : Nat) → List Piece → List Nat
  | _, [] => []
  | start, .code _ :: ps => start :: codePositionsFrom (start + 1) ps
  | start, x :: ps => codePositionsFrom (start + x.length) ps

/-- The positions that a scan from `start` on does not skip as part of a literal or a comment. -/
def codePositions (t : Text) (start : Nat) : List Nat :=
  codePositionsFrom start (Piece.ofText (t.drop start))

/-- The brackets at the positions of code from `start` on that lie before `r`. -/
def bracketsBefore (t : Text) (start r : Nat) : Text :=
  ((codePositions t start).filter (· < r)).filterMap fun i => t[i]?.filter isBracket

variable {t k : Text} {start r : Nat} {before after : List Piece} {c : Char}

namespace Scan

/-- Notes the positions at which code stands. -/
def codes : Scanner (List Nat) (List Nat) where
  literal found _ _ := found
  comment found _ _ := found
  code found i _ := .ok (.inl (found ++ [i]))
  finish found := found

lemma codes_overPieces (start : Nat) (found : List Nat) (ps : List Piece) :
    codes.overPieces start found ps = .ok (found ++ codePositionsFrom start ps) := by
  induction ps generalizing start found with
  | nil => exact congrArg Except.ok (List.append_nil found).symm
  | cons x ps ih =>
      cases x with
      | literal body cut => exact ih (start + body.length) found
      | comment body => exact ih (start + body.length) found
      | code c =>
          refine (ih (start + 1) (found ++ [start])).trans (congrArg Except.ok ?_)
          exact List.append_assoc found [start] _

/-- **The scan from a position on stands at these positions**, between the literals and comments that
it skips. -/
theorem codes_run (t : Text) (start : Nat) :
    codes.run t start [] = .ok (codePositions t start) := by
  rw [Scanner.run_eq, codes_overPieces]
  rfl

end Scan

lemma codePositionsFrom_cons (start : Nat) (x : Piece) (ps : List Piece) :
    ∃ here, codePositionsFrom start (x :: ps) = here ++ codePositionsFrom (start + x.length) ps ∧
      ∀ i ∈ here, start ≤ i ∧ i < start + x.length := by
  cases x with
  | code c => exact ⟨[start], rfl, fun i hi => by
      rw [List.mem_singleton.mp hi]
      exact ⟨Nat.le_refl _, Nat.lt_succ_self _⟩⟩
  | literal body cut => exact ⟨[], rfl, nofun⟩
  | comment body => exact ⟨[], rfl, nofun⟩

lemma le_of_mem_codePositionsFrom {i : Nat} (h : i ∈ codePositionsFrom start ps) : start ≤ i := by
  induction ps generalizing start with
  | nil => cases h
  | cons x ps ih =>
      obtain ⟨here, hcons, hhere⟩ := codePositionsFrom_cons start x ps
      rw [hcons, List.mem_append] at h
      rcases h with h | h
      · exact (hhere i h).1
      · exact Nat.le_trans (Nat.le_add_right _ _) (ih h)

lemma lt_of_mem_codePositionsFrom {i : Nat} (h : i ∈ codePositionsFrom start ps) :
    i < start + (textOf ps).length := by
  induction ps generalizing start with
  | nil => cases h
  | cons x ps ih =>
      obtain ⟨here, hcons, hhere⟩ := codePositionsFrom_cons start x ps
      rw [hcons, List.mem_append] at h
      rw [add_length_textOf_cons]
      rcases h with h | h
      · exact Nat.lt_of_lt_of_le (hhere i h).2 (Nat.le_add_right _ _)
      · exact ih h

lemma codePositionsFrom_append (start : Nat) (ps qs : List Piece) :
    codePositionsFrom start (ps ++ qs) =
      codePositionsFrom start ps ++ codePositionsFrom (start + (textOf ps).length) qs := by
  induction ps generalizing start with
  | nil => rfl
  | cons x ps ih =>
      rw [add_length_textOf_cons]
      cases x with
      | code c => exact congrArg (start :: ·) (ih (start + 1))
      | literal body cut => exact ih (start + body.length)
      | comment body => exact ih (start + body.length)

/-- The characters at the positions of code are those of the pieces. -/
lemma filterMap_codePositionsFrom (h : t.drop start = textOf ps ++ k) :
    (codePositionsFrom start ps).filterMap (fun i => t[i]?.filter isBracket) = bracketsOf ps := by
  induction ps generalizing start with
  | nil => rfl
  | cons x ps ih =>
      rw [textOf_cons, List.append_assoc] at h
      have ih := ih (Scan.drop_add h)
      cases x with
      | literal body cut => exact ih
      | comment body => exact ih
      | code c =>
          have hat : t[start]? = some c := by
            rw [← Nat.add_zero start, ← List.getElem?_drop, h]
            rfl
          rw [codePositionsFrom, bracketsOf, List.filterMap_cons, hat]
          cases hc : isBracket c with
          | true =>
              rw [Option.filter_some_pos hc, if_pos rfl]
              exact congrArg (c :: ·) ih
          | false =>
              rw [Option.filter_some_neg hc, if_neg Bool.false_ne_true]
              exact ih

lemma mem_codePositionsFrom_iff : r ∈ codePositionsFrom start ps ↔
    AtCode (fun before _ => r = start + (textOf before).length) ps := by
  induction ps generalizing start with
  | nil => exact ⟨nofun, fun h => absurd h not_atCode_nil⟩
  | cons x ps ih =>
      rw [atCode_cons_iff]
      simp only [add_length_textOf_cons]
      rw [← ih]
      cases x with
      | code c =>
          rw [codePositionsFrom, List.mem_cons]
          refine or_congr ⟨fun hr => ⟨c, rfl, hr⟩, ?_⟩ Iff.rfl
          rintro ⟨-, -, hr⟩
          exact hr
      | literal body cut =>
          refine (or_iff_right ?_).symm
          rintro ⟨c, hc, -⟩
          cases hc
      | comment body =>
          refine (or_iff_right ?_).symm
          rintro ⟨c, hc, -⟩
          cases hc

/-- A character of code by the pieces before it, and by its position. -/
lemma of_ofText_drop (h : Piece.ofText (t.drop start) = before ++ .code c :: after) :
    t[start + (textOf before).length]? = some c ∧
      bracketsBefore t start (start + (textOf before).length) = bracketsOf before := by
  have htext := Piece.flatMap_text_ofText (t.drop start)
  rw [h, List.flatMap_append] at htext
  refine ⟨?_, ?_⟩
  · rw [← List.getElem?_drop, ← htext, List.getElem?_append_right (Nat.le_refl _), Nat.sub_self]
    rfl
  · rw [bracketsBefore, codePositions, h, codePositionsFrom_append, List.filter_append,
      List.filter_eq_self.mpr fun i hi => decide_eq_true (lt_of_mem_codePositionsFrom hi),
      List.filter_eq_nil_iff.mpr fun i hi => ?_, List.append_nil,
      filterMap_codePositionsFrom htext.symm]
    rw [decide_eq_true_eq, Nat.not_lt]
    exact le_of_mem_codePositionsFrom hi

/-- **What holds of a character of code by the pieces before it holds by its position.** -/
lemma atCode_ofText_iff {q : Nat → Char → Text → Prop} :
    AtCode (fun before c => q (start + (textOf before).length) c (bracketsOf before))
        (Piece.ofText (t.drop start)) ↔
      ∃ r ∈ codePositions t start, ∃ c, t[r]? = some c ∧ q r c (bracketsBefore t start r) := by
  constructor
  · rintro ⟨before, c, after, hpieces, hq⟩
    obtain ⟨hat, hbefore⟩ := of_ofText_drop hpieces
    refine ⟨_, mem_codePositionsFrom_iff.mpr ⟨before, c, after, hpieces, rfl⟩, c, hat, ?_⟩
    rwa [hbefore]
  · rintro ⟨r, hr, c, hat, hq⟩
    obtain ⟨before, d, after, hpieces, rfl⟩ := mem_codePositionsFrom_iff.mp hr
    obtain ⟨hat', hbefore⟩ := of_ofText_drop hpieces
    obtain rfl := Option.some_inj.mp (hat.symm.trans hat')
    rw [hbefore] at hq
    exact ⟨before, c, after, hpieces, hq⟩

/-- All brackets from a position on stand before the end of the text. -/
lemma bracketsBefore_length (t : Text) (start : Nat) :
    bracketsBefore t start t.length = bracketsOf (Piece.ofText (t.drop start)) := by
  have hall : (codePositions t start).filter (· < t.length) = codePositions t start := by
    refine List.filter_eq_self.mpr fun i hi => decide_eq_true ?_
    have hlt := lt_of_mem_codePositionsFrom hi
    rw [textOf_ofText, List.length_drop] at hlt
    have hle := le_of_mem_codePositionsFrom hi
    omega
  have htext : t.drop start = textOf (Piece.ofText (t.drop start)) ++ [] := by
    rw [List.append_nil, textOf_ofText]
  rw [bracketsBefore, hall, codePositions, filterMap_codePositionsFrom htext]

/-! ## The closing parenthesis -/

/-- At position `r` stands the parenthesis that closes the one opened before `start`. -/
structure ClosesAt (t : Text) (start r : Nat) : Prop where
  /-- The position does not lie before `start`. -/
  start_le : start ≤ r
  /-- It is a position of code. -/
  code : r ∈ codePositions t start
  /-- A closing parenthesis stands there. -/
  parenthesis : t[r]? = some ')'
  /-- All brackets before it are closed. -/
  nested : Nested (bracketsBefore t start r)

/-- The text ends while the parenthesis opened before `start` is open. -/
def EndsOpen (t : Text) (start : Nat) : Prop :=
  ∃ left, LeavesOpen left (bracketsBefore t start t.length)

/-- A closing bracket does not fit the bracket opened last, or the parenthesis opened before `start`
if there is none. -/
def HasMisfit (t : Text) (start : Nat) : Prop :=
  ∃ i ∈ codePositions t start, ∃ c left, t[i]? = some c ∧ isCloser c = true ∧
    LeavesOpen left (bracketsBefore t start i) ∧ c ≠ (topOf left).closer

lemma closingFrom_eq_some_iff_closesAt :
    closingFrom [')'] start (Piece.ofText (t.drop start)) = some r ↔ ClosesAt t start r := by
  have hpieces := @closingFrom_eq_some_iff [] (Piece.ofText (t.drop start)) start r
  simp only [stackAfter_eq_some_iff, leavesOpen_nil_iff] at hpieces
  have hat := @atCode_ofText_iff t start fun i c w => c = ')' ∧ r = i ∧ Nested w
  refine (hpieces.trans hat).trans ⟨?_, fun h => ?_⟩
  · rintro ⟨i, hi, c, hc, rfl, rfl, hnested⟩
    exact ⟨le_of_mem_codePositionsFrom hi, hi, hc, hnested⟩
  · exact ⟨r, h.code, ')', h.parenthesis, rfl, rfl, h.nested⟩

lemma closingFrom_eq_none_iff_misfit :
    closingFrom [')'] start (Piece.ofText (t.drop start)) = none ↔
      EndsOpen t start ∨ HasMisfit t start := by
  have hpieces := @closingFrom_eq_none_iff [] (Piece.ofText (t.drop start)) start
  simp only [stackAfter_eq_some_iff] at hpieces
  have hat := @atCode_ofText_iff t start fun _ c w =>
    ∃ left, LeavesOpen left w ∧ isCloser c = true ∧ c ≠ (topOf left).closer
  refine hpieces.trans (or_congr ?_ (hat.trans ⟨?_, ?_⟩))
  · rw [EndsOpen, bracketsBefore_length]
  · rintro ⟨i, hi, c, hc, left, hleft, hclose, hne⟩
    exact ⟨i, hi, c, left, hc, hclose, hleft, hne⟩
  · rintro ⟨i, hi, c, left, hc, hclose, hleft, hne⟩
    exact ⟨i, hi, c, hc, left, hleft, hclose, hne⟩

/-- **The search for a closing parenthesis accepts exactly the nested words.** It gives a position if
and only if a closing parenthesis stands there in code and all brackets before it are closed; there is
at most one such position. It gives none exactly if there is none, which is so exactly if the text ends
too early or a bracket does not fit the one that it would close. -/
theorem closingParenFrom_nested (t : Text) (start : Nat) :
    (∀ r : Nat, closingParenFrom t start = .ok (some r) ↔ ClosesAt t start r) ∧
    (∀ r r' : Nat, ClosesAt t start r → ClosesAt t start r' → r = r') ∧
    (closingParenFrom t start = .ok none ↔ ¬ ∃ r, ClosesAt t start r) ∧
    (closingParenFrom t start = .ok none ↔ EndsOpen t start ∨ HasMisfit t start) := by
  have hfrom : closingParenFrom t start =
      .ok ((closingFrom [')'] start (Piece.ofText (t.drop start))).map Int.ofNat) := rfl
  have hsome (r : Nat) : closingParenFrom t start = .ok (some r) ↔ ClosesAt t start r := by
    rw [← closingFrom_eq_some_iff_closesAt, hfrom, Except.ok.injEq, Option.map_eq_some_iff]
    exact ⟨fun ⟨n, hn, heq⟩ => Int.ofNat.inj heq ▸ hn, fun h => ⟨r, h, rfl⟩⟩
  have hnone : closingParenFrom t start = .ok none ↔
      closingFrom [')'] start (Piece.ofText (t.drop start)) = none := by
    rw [hfrom, Except.ok.injEq, Option.map_eq_none_iff]
  refine ⟨hsome, fun r r' h h' => ?_, ?_, hnone.trans closingFrom_eq_none_iff_misfit⟩
  · have heq := ((hsome r).mpr h).symm.trans ((hsome r').mpr h')
    exact Int.ofNat.inj (Option.some_inj.mp (Except.ok.inj heq))
  · rw [hnone, Option.eq_none_iff_forall_ne_some]
    simp only [ne_eq, closingFrom_eq_some_iff_closesAt, not_exists]

/-- Three kinds of brackets, with brackets in a literal and in a comment that do not count. -/
example : closingParenFrom "f(a)[1] + ')' + \x7b#)\n\x7d)".toList 0 = .ok (some 21) := by
  cbv

end FormulaCube
