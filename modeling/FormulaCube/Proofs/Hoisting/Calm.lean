import FormulaCube.Proofs.Margin.Expansion
import FormulaCube.Proofs.Source.Leads
import Mathlib.Data.List.Infix

/-!
# Texts in which no line begins an import

Whether a line begins an import is known within it, and known before anything can be changed in it: a
shortcut is no part of what an import begins with, and neither are the separators of a coordinate.

* `ImportLead` — what stands before the first character of the names; `BeginsImport.of_append`.
* `BeginsImport.of_line`, `BeginsImport.of_stop`, `BeginsImport.of_call` — where no import begins.
* `Calm` — behind no end of a line an import begins.
* `Still` — a text that consists of such pieces; `Still.append`, `Still.trim`, `Still.withoutComments`.
* `Still.coordinateLiteral` — what is done with coordinates brings no import about.
-/

namespace FormulaCube

/-! ## Where an import begins -/

/-- What an import begins with, up to its names. -/
def ImportLead (t : Text) : Prop :=
  ∃ head blanks, ImportHead head ∧ IsRun isSpaceOrTab blanks ∧ t = head ++ blanks

section

variable {a b k t v : Text} {c d : Char}

lemma beginsImport_iff :
    BeginsImport t ↔ ∃ lead c k, ImportLead lead ∧ isImportPart c = true ∧ t = lead ++ c :: k := by
  constructor
  · rintro ⟨head, blanks, c, k, hhead, hblanks, hc, rfl⟩
    exact ⟨_, c, k, ⟨head, blanks, hhead, hblanks, rfl⟩, hc, (List.append_assoc _ _ _).symm⟩
  · rintro ⟨-, c, k, ⟨head, blanks, hhead, hblanks, rfl⟩, hc, rfl⟩
    exact ⟨head, blanks, c, k, hhead, hblanks, hc, List.append_assoc _ _ _⟩

namespace ImportLead

lemma of_mem (h : ImportLead t) (hc : c ∈ t) : isSpaceOrTab c = true ∨ isModulePart c = true := by
  obtain ⟨head, blanks, hhead, hblanks, rfl⟩ := h
  rcases List.mem_append.mp hc with hc | hc
  · exact hhead.forall_mem c hc
  · exact .inl (hblanks.2 c hc)

/-- It ends with a blank. -/
lemma exists_concat (h : ImportLead t) : ∃ a c, t = a ++ [c] ∧ isSpaceOrTab c = true := by
  obtain ⟨head, blanks, -, hblanks, rfl⟩ := h
  obtain ⟨blanks, c, rfl⟩ := (List.eq_nil_or_concat' blanks).resolve_left hblanks.1
  exact ⟨head ++ blanks, c, (List.append_assoc _ _ _).symm, hblanks.2 c (by simp)⟩

end ImportLead

/-- A lead does not end with the name of a module. -/
lemma eq_nil_of_lead (ha : ∀ c ∈ a, isModulePart c = true) (h : ImportLead (v ++ a)) : a = [] := by
  rcases List.eq_nil_or_concat' a with rfl | ⟨a, c, rfl⟩
  · rfl
  obtain ⟨b, d, heq, hd⟩ := h.exists_concat
  rw [← List.append_assoc] at heq
  obtain ⟨-, hcd⟩ := List.append_inj' heq rfl
  rw [← (List.cons.inj hcd).1] at hd
  have hc := isModulePart_of_isSpaceOrTab hd
  rw [ha c (by simp)] at hc
  cases hc

namespace BeginsImport

lemma append (h : BeginsImport t) (k : Text) : BeginsImport (t ++ k) := by
  obtain ⟨lead, c, rest, hlead, hc, rfl⟩ := beginsImport_iff.mp h
  exact beginsImport_iff.mpr ⟨lead, c, rest ++ k, hlead, hc, List.append_assoc _ _ _⟩

/-- An import begins within the first text, or its names begin in the second one. -/
lemma of_append (h : BeginsImport (a ++ b)) :
    BeginsImport a ∨ ∃ w c k, ImportLead (a ++ w) ∧ isImportPart c = true ∧ b = w ++ c :: k := by
  obtain ⟨lead, c, k, hlead, hc, heq⟩ := beginsImport_iff.mp h
  rcases List.append_eq_append_iff.mp heq with ⟨w, rfl, rfl⟩ | ⟨w, rfl, hw⟩
  · exact .inr ⟨w, c, k, hlead, hc, rfl⟩
  · cases w with
    | nil => exact .inr ⟨[], c, k, by simpa using hlead, hc, hw.symm⟩
    | cons d w =>
        obtain ⟨rfl, rfl⟩ := List.cons.inj hw
        exact .inl (beginsImport_iff.mpr ⟨lead, c, w, hlead, hc, rfl⟩)

/-- **A character that is no part of a lead stops it**, unless it is the first of the names. -/
lemma of_stop (hspace : isSpaceOrTab d = false) (hpart : isModulePart d = false)
    (ha : isImportPart d = false ∨ ∀ c ∈ a.getLast?, isSpaceOrTab c = false)
    (h : BeginsImport (a ++ d :: k)) : BeginsImport a := by
  rcases h.of_append with h | ⟨w, c, rest, hlead, hc, heq⟩
  · exact h
  exfalso
  cases w with
  | nil =>
      obtain ⟨rfl, rfl⟩ := List.cons.inj heq
      obtain ⟨a', e, rfl, he⟩ := (List.append_nil a ▸ hlead).exists_concat
      rcases ha with hd | ha
      · rw [hc] at hd
        cases hd
      · rw [ha e (by simp)] at he
        cases he
  | cons e w =>
      obtain ⟨rfl, rfl⟩ := List.cons.inj heq
      rcases hlead.of_mem (c := d) (by simp) with hd | hd
      · rw [hspace] at hd
        cases hd
      · rw [hpart] at hd
        cases hd

/-- No import begins behind the end of its line. -/
lemma of_line (h : BeginsImport (a ++ '\n' :: k)) : BeginsImport a := h.of_stop rfl (by decide) (.inl rfl)

/-- **A call stops a lead like any other character.** -/
lemma of_call (ha : ∀ c ∈ a, isModulePart c = true) (hd : isImportPart d = true)
    (h : BeginsImport (v ++ (a ++ '(' :: k))) (k' : Text) : BeginsImport (v ++ d :: k') := by
  rcases h.of_append with h | ⟨w, c, rest, hlead, -, heq⟩
  · exact h.append _
  -- the lead ends before the call, since it ends with a blank
  have hw : w = [] := by
    rcases List.append_eq_append_iff.mp heq with ⟨w', rfl, hw'⟩ | ⟨w', rfl, -⟩
    · cases w' with
      | nil =>
          rw [List.append_nil] at hlead ⊢
          exact eq_nil_of_lead ha hlead
      | cons e w' =>
          obtain ⟨rfl, -⟩ := List.cons.inj hw'
          rcases hlead.of_mem (c := '(') (by simp) with h | h <;> cases h
    · exact eq_nil_of_lead (fun c hc => ha c (List.mem_append_left _ hc)) hlead
  rw [hw, List.append_nil] at hlead
  exact beginsImport_iff.mpr ⟨v, d, k', hlead, hd, rfl⟩

end BeginsImport

end

lemma isBlank_of_isSpaceOrTab {c : Char} (h : isSpaceOrTab c = true) : Text.isBlank c = true := by
  rw [isSpaceOrTab, Bool.or_eq_true, decide_eq_true_eq, decide_eq_true_eq] at h
  rcases h with rfl | rfl <;> rfl

/-! ## Calm pieces -/

/-- No line that begins in the piece, which is a literal, opens a list in parentheses. -/
def Piece.OpensNoList : Piece → Prop
  | .literal body _ => ∀ a b, body = a ++ '\n' :: b → ¬ OpensList b
  | _ => True

lemma Piece.opensNoList_literal {body : Text} {cut : Bool} : (Piece.literal body cut).OpensNoList ↔
    ∀ t ∈ body.tails, t.head? = some '\n' → ¬ OpensList t.tail := by
  constructor
  · intro h t ht hhead
    obtain ⟨a, rfl⟩ := (List.mem_tails _ _).mp ht
    obtain ⟨b, rfl⟩ := List.head?_eq_some_iff.mp hhead
    exact h a b rfl
  · rintro h a b rfl
    exact h ('\n' :: b) ((List.mem_tails _ _).mpr (List.suffix_append a _)) rfl

instance : DecidablePred Piece.OpensNoList
  | .code _ => isTrue trivial
  | .comment _ => isTrue trivial
  | .literal _ _ => decidable_of_iff _ Piece.opensNoList_literal.symm

/-- The piece is inert, and opens no list. -/
def Piece.IsStill (rules : List Rule) (x : Piece) : Prop := x.IsInert rules ∧ x.OpensNoList

/-- The piece is still, and no comment. -/
def Piece.IsBareStill (rules : List Rule) (x : Piece) : Prop := x.IsStill rules ∧ x.isComment = false

/-- No import begins behind the end of a line of code. -/
def Calm : List Piece → Prop
  | [] => True
  | x :: ps => (x = .code '\n' → ¬ BeginsImport (textOf ps)) ∧ Calm ps

instance decidableCalm : DecidablePred Calm
  | [] => isTrue trivial
  | x :: ps =>
    have := decidableCalm ps
    inferInstanceAs (Decidable ((x = .code '\n' → ¬ BeginsImport (textOf ps)) ∧ Calm ps))

namespace Calm

variable {ps qs : List Piece} {t : Text}

lemma left (h : Calm (ps ++ qs)) : Calm ps := by
  induction ps with
  | nil => trivial
  | cons x ps ih =>
      rw [List.cons_append] at h
      refine ⟨fun hx himport => h.1 hx ?_, ih h.2⟩
      rw [textOf_append]
      exact himport.append _

lemma right (h : Calm (ps ++ qs)) : Calm qs := by
  induction ps with
  | nil => exact h
  | cons x ps ih => exact ih h.2

lemma of_infix (h : Calm qs) (hps : ps <:+: qs) : Calm ps := by
  obtain ⟨before, after, rfl⟩ := hps
  exact h.left.right

/-- Pieces are put together where no import of the first ones goes on. -/
lemma append (h : Calm ps) (h' : Calm qs)
    (hends : ∀ rs, rs <:+ ps → BeginsImport (textOf rs ++ textOf qs) → BeginsImport (textOf rs)) :
    Calm (ps ++ qs) := by
  induction ps with
  | nil => exact h'
  | cons x ps ih =>
      rw [List.cons_append]
      refine ⟨fun hx himport => h.1 hx (hends ps (List.suffix_cons x ps) ?_),
        ih h.2 fun rs hrs => hends rs (hrs.trans (List.suffix_cons x ps))⟩
      rwa [textOf_append] at himport

/-- Where no line ends, no line begins. -/
lemma append_of_not_mem (hps : .code '\n' ∉ ps) (h : Calm qs) : Calm (ps ++ qs) := by
  induction ps with
  | nil => exact h
  | cons x ps ih =>
      rw [List.mem_cons, not_or] at hps
      exact ⟨fun hx => absurd hx.symm hps.1, ih hps.2⟩

lemma codes (ht : '\n' ∉ t) (h : Calm ps) : Calm (t.map .code ++ ps) :=
  append_of_not_mem (by simpa using ht) h

/-- Without its comments the text begins an import only if it did before. -/
lemma beginsImport_of_filter {p : Piece → Prop} (htidy : Tidy p ps) {v : Text}
    (h : BeginsImport (v ++ textOf (ps.filter (!·.isComment)))) : BeginsImport (v ++ textOf ps) := by
  induction ps generalizing v with
  | nil => exact h
  | cons x ps ih =>
      rw [textOf_cons]
      cases hx : x.isComment with
      | false =>
          rw [List.filter_cons_of_pos (by simp [hx]), textOf_cons, ← List.append_assoc] at h
          rw [← List.append_assoc]
          exact ih htidy.2.2.2 h
      | true =>
          rw [List.filter_cons_of_neg (by simp [hx])] at h
          suffices BeginsImport v from this.append _
          -- behind a comment its line ends
          cases ps with
          | nil => simpa using h
          | cons y ps =>
              obtain ⟨c, k, hy⟩ := htidy.2.2.2.1.readBefore_nil.exists_text_eq
              have hends := htidy.2.2.1
              rw [textOf_cons, hy] at hends
              obtain ⟨rest, rfl⟩ : ∃ rest, x = .comment rest := by
                cases x with
                | comment rest => exact ⟨rest, rfl⟩
                | _ => cases hx
              obtain rfl : c = '\n' := hends c rfl
              obtain rfl := htidy.2.2.2.1.readBefore_nil.eq_code hy (by decide) rfl
              exact h.of_line

lemma filter_isComment {p : Piece → Prop} (htidy : Tidy p ps) (h : Calm ps) :
    Calm (ps.filter (!·.isComment)) := by
  induction ps with
  | nil => trivial
  | cons x ps ih =>
      have hps := ih htidy.2.2.2 h.2
      cases hx : x.isComment with
      | true => rwa [List.filter_cons_of_neg (by simp [hx])]
      | false =>
          rw [List.filter_cons_of_pos (by simp [hx])]
          exact ⟨fun hline himport => h.1 hline (beginsImport_of_filter (v := []) htidy.2.2.2 himport), hps⟩

end Calm

/-! ## Still texts -/

/-- The text consists of such pieces, and no import begins behind the end of a line of code. -/
def Still (p : Piece → Prop) (t : Text) : Prop := ∃ ps, t = textOf ps ∧ Tidy p ps ∧ Calm ps

/-- The text does not end with a blank. -/
def IsFirm (t : Text) : Prop := ∀ c ∈ t.getLast?, Text.isBlank c = false

lemma isFirm_nil : IsFirm [] := fun c hc => by cases hc

lemma IsFirm.append {t : Text} (h : IsFirm t) (hne : t ≠ []) (a : Text) : IsFirm (a ++ t) := by
  intro c hc
  rw [List.getLast?_append_of_ne_nil a hne] at hc
  exact h c hc

lemma isFirm_trim (t : Text) : IsFirm t.trim := by
  rw [Text.trim]
  induction t.trimLeft with
  | nil => exact isFirm_nil
  | cons d t ih =>
      rw [Text.trimRight_cons]
      split
      · split
        · exact isFirm_nil
        · rename_i hd
          rintro c ⟨⟩
          exact Bool.eq_false_iff.mpr hd
      · exact ih.append (by assumption) [d]

namespace Still

variable {rules : List Rule} {p : Piece → Prop} {a k t u : Text} {d : Char}

lemma nil : Still p [] := ⟨[], rfl, trivial, trivial⟩

lemma codes (hp : ∀ c, p (.code c)) (ha : isLineCode a = true) (h : Still p t) : Still p (a ++ t) := by
  obtain ⟨ps, rfl, htidy, hcalm⟩ := h
  exact ⟨a.map .code ++ ps, (textOf_codes a ps).symm,
    htidy.codes_append hp fun c hc => ⟨(of_isLineCode ha hc).1, (of_isLineCode ha hc).2.1⟩,
    hcalm.codes fun hmem => (of_isLineCode ha hmem).2.2 rfl⟩

/-- Characters within a line may be left out at the beginning. -/
lemma of_codes (ha : isLineCode a = true) (h : Still p (a ++ t)) : Still p t := by
  obtain ⟨ps, heq, htidy, hcalm⟩ := h
  have hps : ps = a.map .code ++ Piece.ofText t := by
    rw [← ofText_lineCode ha, heq, htidy.ofText_textOf]
  rw [hps] at htidy hcalm
  exact ⟨_, (textOf_ofText t).symm, htidy.of_append.2, hcalm.right⟩

/-- A text without comments is put before a character that stops its last line. -/
lemma append_stop (hp : ∀ x : Piece, x.IsBareStill rules → p x) (h : Still (Piece.IsBareStill rules) t)
    (hfirm : IsFirm t) (h' : Still p (d :: k)) (hspace : isSpaceOrTab d = false)
    (hpart : isModulePart d = false) (hquote : Text.isQuote d = false) : Still p (t ++ d :: k) := by
  obtain ⟨ps, rfl, htidy, hcalm⟩ := h
  obtain ⟨qs, heq, htidy', hcalm'⟩ := h'
  rw [heq]
  refine ⟨ps ++ qs, (textOf_append ps qs).symm,
    (htidy.imp hp).append_of_not_isQuote htidy' (fun x hx => (htidy.mem hx).2.2) ?_,
    hcalm.append hcalm' fun rs hrs himport => ?_⟩
  · rw [← heq]
    rintro c ⟨⟩
    exact hquote
  · rw [← heq] at himport
    refine himport.of_stop hspace hpart (.inr fun c hc => ?_)
    obtain ⟨before, rfl⟩ := hrs
    have hlast : c ∈ (textOf (before ++ rs)).getLast? := by
      rw [textOf_append, List.getLast?_append]
      simp only [Option.mem_def] at hc
      simp [hc]
    have hblank := hfirm c hlast
    rw [Bool.eq_false_iff] at hblank ⊢
    exact fun hsp => hblank (isBlank_of_isSpaceOrTab hsp)

lemma trim (h : Still (Piece.IsBareStill rules) t) : Still (Piece.IsBareStill rules) t.trim := by
  obtain ⟨ps, rfl, htidy, hcalm⟩ := h
  exact ⟨trimPieces ps, trim_textOf (fun _ hx => hx.2) htidy, htidy.of_infix (trimPieces_isInfix ps),
    hcalm.of_infix (trimPieces_isInfix ps)⟩

lemma withoutComments (h : Still (Piece.IsStill rules) t) :
    Still (Piece.IsBareStill rules) (withoutComments t) := by
  obtain ⟨ps, rfl, htidy, hcalm⟩ := h
  refine ⟨_, ?_, htidy.filter_isComment, hcalm.filter_isComment htidy⟩
  rw [withoutComments_eq, htidy.ofText_textOf]

end Still

/-! ## Coordinates -/

/-- A margin of no width moves nothing. -/
lemma Shifted.refl (ps : List Piece) : Shifted 0 false false ps ps := by
  induction ps with
  | nil => exact .nil
  | cons x ps ih =>
      by_cases hx : x = .code '\n'
      · subst hx
        exact .newline (.margin ih)
      · exact .keep hx ih

namespace Still

variable {rules : List Rule} {p : Piece → Prop} {t key axis : Text}

/-- The parts between separators, and what stands behind the first separator. -/
lemma splitTopLevel (sep : Char) (hsep : Text.isBlank sep = false) (h : Still p t) :
    (∀ part ∈ splitTopLevel sep t, Still p part) ∧ ∀ key second more,
      FormulaCube.splitTopLevel sep t = key :: second :: more →
        Still p (Text.join [sep] (second :: more)) := by
  have hjoin := join_splitTopLevel sep t
  obtain ⟨ps, rfl, htidy, hcalm⟩ := h
  have hinfix {qs : List Piece} (hqs : qs <:+: ps) : Still p (textOf qs) :=
    ⟨qs, rfl, htidy.of_infix hqs, hcalm.of_infix hqs⟩
  obtain ⟨part, -, parts, -, hsplit, -, hpart, hparts, -, -⟩ := (Shifted.refl ps).splitsAlike hsep 0
  rw [FormulaCube.splitTopLevel, htidy.ofText_textOf, hsplit] at hjoin ⊢
  constructor
  · simp only [List.mem_map, List.mem_cons]
    rintro _ ⟨qs, rfl | hqs, rfl⟩
    · rcases hpart with rfl | ⟨after, rfl⟩
      · exact hinfix List.infix_rfl
      · exact hinfix (List.prefix_append _ _).isInfix
    · exact hinfix (hparts qs hqs)
  · intro key second more heq
    rw [heq, join_cons _ _ (List.cons_ne_nil _ _)] at hjoin
    rw [List.map_cons] at heq
    rw [← (List.cons.inj heq).1] at hjoin
    rcases hpart with rfl | ⟨after, rfl⟩
    · have hlength := congrArg List.length hjoin
      simp only [List.length_append, List.length_cons] at hlength
      omega
    · rw [textOf_append, textOf_cons] at hjoin
      rw [List.append_cancel_left (List.append_cancel_left hjoin)]
      exact hinfix ⟨part ++ [.code sep], [], by simp⟩

lemma literal {body : Text} (hclosed : isClosedLiteral body = true)
    (hstill : (Piece.literal body false).IsStill rules) : Still (Piece.IsBareStill rules) body :=
  ⟨[.literal body false], (List.append_nil body).symm, ⟨⟨rfl, hclosed⟩, ⟨hstill, rfl⟩, nofun, trivial⟩,
    nofun, trivial⟩

/-- A name between apostrophes. -/
lemma name (ht : ∀ c ∈ t, Rule.isNamePart c = true) :
    Still (Piece.IsBareStill rules) ('\'' :: (t ++ ['\''])) := by
  refine literal (isClosedLiteral_name ht) ⟨isInert_name ht, fun a b hbody _ => ?_⟩
  have hmem : '\n' ∈ '\'' :: (t ++ ['\'']) := by simp [hbody]
  simp only [List.mem_cons, List.mem_append, List.not_mem_nil, or_false] at hmem
  rcases hmem with h | h | h
  · cases h
  · cases ht _ h
  · cases h

lemma of_axis? (h : Still (Piece.IsBareStill rules) key) (haxis : CoordinateEntry.axis? key = some axis) :
    Still (Piece.IsBareStill rules) axis ∧ IsFirm axis := by
  simp only [CoordinateEntry.axis?] at haxis
  split at haxis
  · rename_i hname
    have hpart := Axis.isNamePart_of_isSimpleName hname
    rw [← Option.some_inj.mp haxis, quoted_of_isNamePart hpart]
    refine ⟨name hpart, fun c hc => ?_⟩
    rw [← List.cons_append, List.getLast?_concat] at hc
    cases hc
    rfl
  · split at haxis
    · rename_i hquoted
      rw [← Option.some_inj.mp haxis]
      refine ⟨h.trim, ?_⟩
      obtain ⟨ps, hkey, htidy, -⟩ := h.trim
      rw [hkey] at hquoted ⊢
      obtain ⟨body, cut, rfl⟩ := exists_eq_of_isQuotedAxis htidy hquoted
      obtain ⟨mark, rest, rfl, hmark⟩ := exists_eq_of_isClosedLiteral htidy.1.2
      intro c hc
      rw [textOf_cons, Piece.text, textOf, List.flatMap_nil, List.append_nil, ← List.cons_append,
        List.getLast?_concat] at hc
      cases hc
      exact not_isBlank_of_isQuote hmark
    · cases haxis

/-- **An entry in a display is still, and does not end with a blank.** -/
lemma entry {position : Int} {item : Text} {e : CoordinateEntry}
    (h : Still (Piece.IsBareStill rules) item) (he : CoordinateEntry.ofText position item = .ok e) :
    Still (Piece.IsBareStill rules) e.text ∧ IsFirm e.text := by
  simp only [CoordinateEntry.ofText] at he
  split at he
  · rw [← Except.ok.inj he]
    exact ⟨h.trim, isFirm_trim item⟩
  · split at he
    · rename_i key second more hsplit
      obtain ⟨hparts, hmore⟩ := h.splitTopLevel ':' rfl
      have hvalue := (hmore key second more hsplit).trim
      have hkey := hparts key (hsplit ▸ List.mem_cons_self)
      split at he
      · rename_i axis haxis
        split at he
        · cases he
        · rename_i hne
          rw [← Except.ok.inj he]
          obtain ⟨haxis, hfirm⟩ := hkey.of_axis? haxis
          rw [List.isEmpty_iff] at hne
          rw [CoordinateEntry.text, List.append_assoc]
          refine ⟨haxis.append_stop (fun _ => id) hfirm
            (hvalue.codes (a := ": ".toList) (fun _ => ⟨⟨trivial, trivial⟩, rfl⟩) (by decide)) rfl
            (by decide) rfl, ?_⟩
          rw [← List.append_assoc]
          exact (isFirm_trim _).append hne _
      · cases he
    · rw [← Except.ok.inj he]
      exact ⟨nil, isFirm_nil⟩

/-- Entries are put between braces. -/
lemma display {parts : List Text}
    (h : ∀ part ∈ parts, Still (Piece.IsBareStill rules) part ∧ IsFirm part) :
    Still (Piece.IsBareStill rules) (Text.join ", ".toList parts ++ ['\x7d']) := by
  have hcode (c : Char) : (Piece.code c).IsBareStill rules := ⟨⟨trivial, trivial⟩, rfl⟩
  induction parts with
  | nil => exact nil.codes (a := ['\x7d']) hcode rfl
  | cons part parts ih =>
      obtain ⟨⟨hpart, hfirm⟩, hparts⟩ := List.forall_mem_cons.mp h
      cases parts with
      | nil =>
          have hclose : Still (Piece.IsBareStill rules) ['\x7d'] := nil.codes (a := ['\x7d']) hcode rfl
          exact hpart.append_stop (fun _ => id) hfirm hclose rfl (by decide) rfl
      | cons other parts =>
          rw [join_cons _ _ (List.cons_ne_nil _ _), List.append_assoc, List.append_assoc]
          exact hpart.append_stop (fun _ => id) hfirm
            ((ih hparts).codes (a := ", ".toList) hcode (by decide)) rfl (by decide) rfl

/-- **What a coordinate stands for is still, and does not end with a blank.** -/
theorem coordinateLiteral {position : Int} {literal : Text} (h : Still (Piece.IsStill rules) t)
    (hliteral : coordinateLiteral t position = .ok literal) :
    Still (Piece.IsBareStill rules) literal ∧ IsFirm literal := by
  have hcode (c : Char) : (Piece.code c).IsBareStill rules := ⟨⟨trivial, trivial⟩, rfl⟩
  have htrimmed := h.withoutComments.trim
  unfold FormulaCube.coordinateLiteral at hliteral
  simp only at hliteral
  split at hliteral
  · rw [← Except.ok.inj hliteral]
    have hempty : isLineCode "\x7b\x7d".toList = true := by decide
    refine ⟨List.append_nil "\x7b\x7d".toList ▸ nil.codes hcode hempty, ?_⟩
    rintro c ⟨⟩
    rfl
  · obtain ⟨entries, hentries, hliteral⟩ := exists_of_bind_eq_ok hliteral
    split at hliteral
    · rw [← Except.ok.inj hliteral]
      exact ⟨htrimmed, isFirm_trim _⟩
    · split at hliteral
      · cases hliteral
      · rw [← Except.ok.inj hliteral]
        have hparts : ∀ part ∈ entries.map CoordinateEntry.text,
            Still (Piece.IsBareStill rules) part ∧ IsFirm part := by
          intro part hpart
          obtain ⟨e, he, rfl⟩ := List.mem_map.mp hpart
          obtain ⟨item, hitem, hread⟩ := exists_of_mapM_eq_ok hentries e he
          exact ((htrimmed.splitTopLevel ',' rfl).1 item (List.mem_filter.mp hitem).1).entry hread
        refine ⟨(display hparts).codes (a := ['\x7b']) hcode rfl, ?_⟩
        rw [← List.cons_append]
        refine IsFirm.append ?_ (List.cons_ne_nil _ _) _
        rintro c ⟨⟩
        rfl

end Still

end FormulaCube
