import FormulaCube.Proofs.Shortcut.Trimming

/-!
# The expression that a coordinate stands for

`coordinateLiteral` takes a coordinate apart at its commas and colons, and puts it together again as
a dictionary display. For the text of a well-formed coordinate, the result is that of its tree.

* `EntryLead.ofText_entry` — an entry is read as its lead says.
* `EntryLead.coordinateLiteral_entries` — entries become a display.
* `Fragment.display` — the display of a coordinate, again a fragment.
* `Fragment.coordinateLiteral_render` — the main result.
-/

namespace FormulaCube

/-! ## Entries -/

namespace Axis

/-- The axis in a display is a closed literal. -/
lemma isClosedLiteral_display {axis : Axis} (h : axis.WellFormed) :
    isClosedLiteral axis.display = true := by
  cases axis with
  | name t =>
      refine isClosedLiteral_quoted rfl fun c hc => ?_
      have hc' := isPlain_of_isSimpleName h c hc
      refine ⟨?_, ?_, ?_⟩
      · rintro rfl
        cases hc'
      · rintro rfl
        exact not_mem_of_isSimpleName rfl h hc
      · rintro rfl
        exact not_mem_of_isSimpleName rfl h hc
  | quoted mark body =>
      obtain ⟨hmark, hbody⟩ := h
      refine isClosedLiteral_quoted hmark fun c hc => ?_
      obtain ⟨hne, hback, hline, -⟩ := hbody c hc
      exact ⟨hne, hback, hline⟩

lemma not_isSigil_of_mem_display {axis : Axis} (h : axis.WellFormed) :
    ∀ c ∈ axis.display, isSigil c = false := by
  intro c hc
  cases axis with
  | name t =>
      simp only [display, List.mem_cons, List.mem_append, List.not_mem_nil, or_false] at hc
      rcases hc with rfl | hc | rfl
      · rfl
      · exact not_isSigil_of_isPlain (isPlain_of_isSimpleName h c hc)
      · rfl
  | quoted mark body =>
      obtain ⟨hmark, hbody⟩ := h
      simp only [display, List.mem_cons, List.mem_append, List.not_mem_nil, or_false] at hc
      rcases hc with rfl | hc | rfl
      · exact not_isSigil_of_isQuote hmark
      · exact (hbody c hc).2.2.2
      · exact not_isSigil_of_isQuote hmark

/-- No axis ends with a blank. -/
lemma exists_text_eq_append {axis : Axis} (h : axis.WellFormed) :
    ∃ t c, axis.text = t ++ [c] ∧ Text.isBlank c = false := by
  cases axis with
  | name t =>
      rcases List.eq_nil_or_concat t with rfl | ⟨u, c, rfl⟩
      · cases h
      · refine ⟨u, c, List.concat_eq_append, ?_⟩
        refine not_isBlank_of_isNamePart (isNamePart_of_isSimpleName h c ?_)
        rw [List.concat_eq_append]
        exact List.mem_append_right _ List.mem_cons_self
  | quoted mark body => exact ⟨mark :: body, mark, rfl, not_isBlank_of_isQuote h.1⟩

lemma dropWhile_to_mark {mark : Char} {body : Text} (h : ∀ c ∈ body, c ≠ mark) :
    (body ++ [mark]).dropWhile (· != mark) = [mark] := by
  induction body with
  | nil => rw [List.nil_append, List.dropWhile_cons, bne_self_eq_false, if_neg Bool.false_ne_true]
  | cons c body ih =>
      rw [List.cons_append, List.dropWhile_cons, if_pos (bne_iff_ne.mpr (h c List.mem_cons_self))]
      exact ih fun d hd => h d (List.mem_cons_of_mem _ hd)

/-- The axis of an entry is found between the blanks around it. -/
lemma axis?_eq {axis : Axis} (h : axis.WellFormed) {before after : Text}
    (hbefore : before.isBlankText = true) (hafter : after.isBlankText = true) :
    CoordinateEntry.axis? (before ++ (axis.text ++ after)) = some axis.display := by
  have htrim : (before ++ (axis.text ++ after)).trim = axis.text := by
    obtain ⟨c, rest, htext, hc, -⟩ := EntryLead.exists_text_eq h
    obtain ⟨t, d, htext', hd⟩ := exists_text_eq_append h
    have hleft : Text.trimLeft (axis.text ++ after) = axis.text ++ after := by
      rw [htext, List.cons_append, Text.trimLeft_cons_of_not_isBlank hc]
    rw [Text.trim, Text.trimLeft_append_of_isBlankText hbefore, hleft, Text.trimRight_append,
      if_pos hafter, htext', Text.trimRight_concat hd]
  simp only [CoordinateEntry.axis?, htrim]
  cases axis with
  | name t =>
      have hname : CoordinateEntry.isSimpleName t = true := h
      rw [text, if_pos hname, quoted_of_isNamePart (isNamePart_of_isSimpleName h)]
      rfl
  | quoted mark body =>
      obtain ⟨hmark, hbody⟩ := h
      have hstart : Text.isAsciiNameStart mark = false := by
        rw [← Bool.not_eq_true, isAsciiNameStart_iff]
        rw [isQuote_iff] at hmark
        omega
      have hdrop := dropWhile_to_mark fun c hc => (hbody c hc).1
      have hname : CoordinateEntry.isSimpleName (mark :: (body ++ [mark])) = false := by
        rw [CoordinateEntry.isSimpleName, hstart]
        rfl
      have hquoted : CoordinateEntry.isQuotedAxis (mark :: (body ++ [mark])) = true := by
        rw [CoordinateEntry.isQuotedAxis, hmark, hdrop]
        simp
      simp only [text, hname, hquoted, Bool.false_eq_true, if_false, if_true, display]

end Axis

/-! ## Reading entries -/

lemma isEmpty_trim {t : Text} (h : t.isBlankText = false) : t.trim.isEmpty = false := by
  rw [← Bool.not_eq_true, List.isEmpty_iff, Text.trim_eq_nil_iff, h]
  exact Bool.false_ne_true

namespace EntryLead

/-- An entry of a display, and what follows it. -/
def fragment (value rest : Fragment .code) : EntryLead → Fragment .code
  | .keyed _ axis _ => .literal axis.display (.plain ':' (.plain ' ' (value.trim.append rest)))
  | .spread _ => .plain '*' (.plain '*' (value.trimRight.append rest))

lemma isBlankText_entry (lead : EntryLead) (t : Text) :
    (lead.text ++ t).isBlankText = false := by
  obtain ⟨u, c, htext, hc, -⟩ := lead.exists_text_eq_append
  rw [← Bool.not_eq_true]
  intro h
  have hmem : c ∈ lead.text ++ t := by
    rw [htext]
    exact List.mem_append_left _ (List.mem_append_right _ List.mem_cons_self)
  have hblank := List.all_eq_true.mp h c hmem
  rw [hc] at hblank
  cases hblank

lemma trim_entry {lead : EntryLead} (h : lead.WellFormed) (t : Text) :
    (lead.text ++ t).trim = lead.trimLeft.text ++ t.trimRight := by
  rw [Text.trim, trimLeft_text h, trimRight_text]

/-- The value of an entry is what is left after its colon. -/
lemma splitTopLevel_entry {before after : Text} {axis : Axis}
    (h : (keyed before axis after).WellFormed) (value : Text) :
    ∃ second more, splitTopLevel ':' ((keyed before axis after).text ++ value) =
        (before ++ (axis.text ++ after)) :: second :: more ∧
      Text.join [':'] (second :: more) = value := by
  have hjoin : Text.join [':'] (splitTopLevel ':' value) = value := by
    rw [splitTopLevel, join_splitPieces, Piece.flatMap_text_ofText]
  rw [splitTopLevel, ofText_text h, splitPieces_keyed h]
  cases hparts : splitPieces ':' 0 (Piece.ofText value) with
  | nil => exact absurd hparts (splitPieces_ne_nil _ _ _)
  | cons second more => exact ⟨second, more, rfl, by rw [← hparts]; exact hjoin⟩

/-- **An entry is read as its lead says**, whatever its value is. -/
lemma ofText_entry {lead : EntryLead} (h : lead.WellFormed) {value : Text}
    (hnonblank : value.isBlankText = false) (position : Int) :
    ∃ entry, CoordinateEntry.ofText position (lead.text ++ value) = .ok entry ∧
      entry.isKeyed = true ∧ entry.text = lead.display value := by
  have htrim := trim_entry h value
  cases lead with
  | spread before =>
      refine ⟨.spread ("**".toList ++ value.trimRight), ?_, rfl, rfl⟩
      have hstars : "**".toList.isPrefixOf ("**".toList ++ value.trimRight) = true :=
        List.isPrefixOf_iff_prefix.mpr (List.prefix_append _ _)
      have htrim' : ((spread before).text ++ value).trim = "**".toList ++ value.trimRight := htrim
      simp only [CoordinateEntry.ofText, htrim', hstars, if_true]
  | keyed before axis after =>
      obtain ⟨second, more, hsplit, hjoin⟩ := splitTopLevel_entry h value
      obtain ⟨hbefore, haxis, hafter⟩ := h
      refine ⟨.keyed axis.display value.trim, ?_, rfl, ?_⟩
      · have hstars : "**".toList.isPrefixOf
            ((keyed [] axis after).text ++ value.trimRight) = false := by
          obtain ⟨c, rest, htext, -, hc⟩ := exists_text_eq haxis
          rw [text, htext]
          show (('*' == c) && _) = false
          rw [beq_eq_false_iff_ne.mpr hc.symm, Bool.false_and]
        have hvalue : value.trim.isEmpty = false := isEmpty_trim hnonblank
        have htrim' : ((keyed before axis after).text ++ value).trim =
            (keyed [] axis after).text ++ value.trimRight := htrim
        simp only [CoordinateEntry.ofText, htrim', hstars, hsplit, hjoin,
          Axis.axis?_eq haxis hbefore hafter, hvalue, Bool.false_eq_true, if_false]
      · rw [CoordinateEntry.text, display, List.append_assoc]

/-- All entries are read, and none is bare. -/
lemma mapM_entries (position : Int) {entries : List (EntryLead × Text)}
    (h : ∀ entry ∈ entries, entry.1.WellFormed ∧ entry.2.isBlankText = false) :
    ∃ read, (entries.map fun entry => entry.1.text ++ entry.2).mapM
        (CoordinateEntry.ofText position) = .ok read ∧
      (∀ entry ∈ read, entry.isKeyed = true) ∧
      read.map CoordinateEntry.text = entries.map fun entry => entry.1.display entry.2 := by
  induction entries with
  | nil => exact ⟨[], rfl, nofun, rfl⟩
  | cons entry entries ih =>
      rw [List.forall_mem_cons] at h
      obtain ⟨first, hread, hkeyed, htext⟩ := ofText_entry h.1.1 h.1.2 position
      obtain ⟨rest, hreads, hall, htexts⟩ := ih h.2
      refine ⟨first :: rest, ?_, List.forall_mem_cons.mpr ⟨hkeyed, hall⟩, ?_⟩
      · rw [List.map_cons, List.mapM_cons, hread, hreads]
        rfl
      · rw [List.map_cons, List.map_cons, htext, htexts]

/-- **Entries become a display.** -/
lemma coordinateLiteral_entries {t : Text} {entries : List (EntryLead × Text)} (hne : entries ≠ [])
    (h : ∀ entry ∈ entries, entry.1.WellFormed ∧ entry.2.isBlankText = false)
    (hitems : splitTopLevel ',' (withoutComments t).trim =
      entries.map fun entry => entry.1.text ++ entry.2) (position : Int) :
    coordinateLiteral t position =
      .ok ('\x7b' :: (Text.join ", ".toList (entries.map fun entry => entry.1.display entry.2) ++
        ['\x7d'])) := by
  obtain ⟨read, hread, hall, htexts⟩ := mapM_entries position h
  have hfilter : (entries.map fun entry => entry.1.text ++ entry.2).filter
      (fun item => !item.isBlankText) = entries.map fun entry => entry.1.text ++ entry.2 := by
    refine List.filter_eq_self.mpr fun item hitem => ?_
    obtain ⟨entry, -, rfl⟩ := List.mem_map.mp hitem
    rw [isBlankText_entry]
    rfl
  obtain ⟨entry, others, rfl⟩ := List.exists_cons_of_ne_nil hne
  have hnonempty : (withoutComments t).trim.isEmpty = false := by
    refine Bool.eq_false_iff.mpr fun hempty => ?_
    rw [List.isEmpty_iff.mp hempty, splitTopLevel, Piece.ofText] at hitems
    have hfirst := isBlankText_entry entry.1 entry.2
    have hnil : [] = entry.1.text ++ entry.2 := (List.cons.inj hitems).1
    rw [← hnil] at hfirst
    cases hfirst
  have hany : read.any CoordinateEntry.isKeyed = true := by
    obtain ⟨first, rest, rfl⟩ : ∃ first rest, read = first :: rest := by
      cases read with
      | nil => cases htexts
      | cons first rest => exact ⟨first, rest, rfl⟩
    rw [List.any_cons, hall first List.mem_cons_self, Bool.true_or]
  have hall' : read.all CoordinateEntry.isKeyed = true := List.all_eq_true.mpr hall
  unfold coordinateLiteral
  simp only [hnonempty, hitems, hfilter, hread, hany, hall', htexts, bind, Except.bind, pure,
    Except.pure, Bool.not_true, Bool.false_eq_true, if_false]

end EntryLead

/-! ## Displays -/

namespace Fragment

/-- The display of a coordinate. -/
@[simp] def display : {s : Spot} → Fragment s → Fragment .code
  | _, .blank _ => .group .curly .empty .empty
  | _, .bare f => f.trim
  | _, .keyed entries => .group .curly entries.display .empty
  | _, .last lead value => lead.fragment value .empty
  | _, .more lead value rest => lead.fragment value (.plain ',' (.plain ' ' rest.display))
  | _, .empty => .empty
  | _, .plain c rest => .plain c rest
  | _, .literal body rest => .literal body rest
  | _, .group bracket inner rest => .group bracket inner rest
  | _, .shortcut rule name coordinate rest => .shortcut rule name coordinate rest

/-- The texts of the entries of a display. -/
@[simp] def displays : {s : Spot} → Fragment s → List Text
  | _, .last lead value => [lead.display value.render]
  | _, .more lead value rest => lead.display value.render :: rest.displays
  | _, f => [f.render]

/-- The entries of a coordinate, each with the text of its value. -/
@[simp] def leads : {s : Spot} → Fragment s → List (EntryLead × Text)
  | _, .last lead value => [(lead, value.render)]
  | _, .more lead value rest => (lead, value.render) :: rest.leads
  | _, _ => []

lemma leads_ne_nil : ∀ f : Fragment .entries, f.leads ≠ []
  | .last _ _ => List.cons_ne_nil _ _
  | .more _ _ _ => List.cons_ne_nil _ _

lemma wellFormed_leads : ∀ (f : Fragment .entries) {prev : Option Char}, f.WellFormed prev →
    ∀ entry ∈ f.leads, entry.1.WellFormed ∧ entry.2.isBlankText = false
  | .last lead value, _, h => by
      obtain ⟨hlead, -, hnonblank, -⟩ := h
      exact List.forall_mem_singleton.mpr ⟨hlead, hnonblank⟩
  | .more lead value rest, _, h => by
      obtain ⟨hlead, -, hnonblank, -, hrest⟩ := h
      exact List.forall_mem_cons.mpr ⟨⟨hlead, hnonblank⟩, wellFormed_leads rest hrest⟩

lemma items_eq : ∀ f : Fragment .entries,
    f.items = f.leads.map fun entry => entry.1.text ++ entry.2
  | .last _ _ => rfl
  | .more _ _ rest => congrArg (_ :: ·) (items_eq rest)

lemma displays_eq : ∀ f : Fragment .entries,
    f.displays = f.leads.map fun entry => entry.1.display entry.2
  | .last _ _ => rfl
  | .more _ _ rest => congrArg (_ :: ·) (displays_eq rest)

/-! ## Blanks around a coordinate do not matter -/

lemma displays_trimLeft : ∀ (f : Fragment .entries), f.trimLeft.displays = f.displays
  | .last lead value => by rw [trimLeft, displays, displays, EntryLead.display_trimLeft]
  | .more lead value rest => by rw [trimLeft, displays, displays, EntryLead.display_trimLeft]

lemma display_trimRight (lead : EntryLead) (value : Text) :
    lead.display value.trimRight = lead.display value := by
  cases lead with
  | keyed before axis after => rw [EntryLead.display, EntryLead.display, Text.trim_trimRight]
  | spread before => rw [EntryLead.display, EntryLead.display, Text.trimRight_trimRight]

lemma displays_trimRight : ∀ (f : Fragment .entries) {prev : Option Char}, f.WellFormed prev →
    f.trimRight.displays = f.displays
  | .last lead value, _, h => by
      rw [trimRight, displays, displays, render_trimRight value (by decide) h.2.1,
        display_trimRight]
  | .more lead value rest, _, h => by
      rw [trimRight, displays, displays, displays_trimRight rest h.2.2.2.2]

/-- Entries become a display, whatever blanks are around them. -/
lemma coordinateLiteral_entries {f : Fragment .entries} (hf : f.depth = 0) {prev : Option Char}
    (h : f.WellFormed prev) (position : Int) :
    coordinateLiteral f.render position =
      .ok ('\x7b' :: (Text.join ", ".toList f.displays ++ ['\x7d'])) := by
  have htrim := wellFormed_trim (by decide) hf h
  have hpieces : Piece.ofText f.trim.render = f.trim.pieces := by
    have hread := f.trim.ofText_render htrim (k := []) rfl
    rwa [List.append_nil, Piece.ofText, List.append_nil] at hread
  have hitems : splitTopLevel ',' (withoutComments f.render).trim =
      f.trim.leads.map fun entry => entry.1.text ++ entry.2 := by
    rw [withoutComments_render f h, ← render_trim (by decide) hf h, splitTopLevel, hpieces,
      splitPieces_entries f.trim htrim, items_eq]
  have hdisplays : f.trim.displays = f.displays := by
    rw [trim, displays_trimRight _ (wellFormed_trimLeft hf h), displays_trimLeft]
  rw [EntryLead.coordinateLiteral_entries (leads_ne_nil _) (wellFormed_leads _ htrim) hitems,
    ← displays_eq, hdisplays]

/-- A coordinate without entries is the expression itself. -/
lemma coordinateLiteral_bare {f : Fragment .code} (hf : f.depth = 0) {prev : Option Char}
    (h : (bare f).WellFormed prev) (position : Int) :
    coordinateLiteral f.render position = .ok f.trim.render := by
  obtain ⟨hcode, hnonblank, hcomma, hcolon, hstars⟩ := h
  have htrim := wellFormed_trim (by decide) hf hcode
  have hrender := render_trim (by decide) hf hcode
  have hlacks {sep : Char} (hsep : f.lacks sep = true) : f.trim.lacks sep = true :=
    lacks_trimRight (lacks_trimLeft hsep)
  have hpieces : Piece.ofText f.trim.render = f.trim.pieces ++ [] := by
    have hread := f.trim.ofText_render htrim (k := []) rfl
    rwa [List.append_nil, Piece.ofText] at hread
  have hwhole {sep : Char} (hsigil : isSigil sep = false) (hname : Rule.isNamePart sep = false)
      (hsep : f.lacks sep = true) : splitTopLevel sep f.render.trim = [f.render.trim] := by
    rw [← hrender, splitTopLevel, hpieces,
      f.trim.splitPieces_pieces htrim hsigil hname (Int.le_refl 0) (Or.inr (hlacks hsep))]
    simp only [splitPieces, prepend, List.append_nil]
  have hblank : f.render.trim.isBlankText = false := by
    rw [Text.trim, Text.isBlankText_trimRight, Text.isBlankText_trimLeft, hnonblank]
  have hread : CoordinateEntry.ofText position f.render.trim = .ok .bare := by
    have htwice : f.render.trim.trim = f.render.trim := by
      rw [Text.trim, Text.trim, Text.trimLeft_trimRight, Text.trimLeft_trimLeft,
        Text.trimRight_trimRight]
    simp only [CoordinateEntry.ofText, htwice, hstars, hwhole rfl rfl hcolon, Bool.false_eq_true,
      if_false]
  unfold coordinateLiteral
  simp only [withoutComments_render f hcode, isEmpty_trim hnonblank, hwhole rfl rfl hcomma,
    List.filter_cons, List.filter_nil, hblank, Bool.not_false, if_true, List.mapM_cons, hread,
    List.mapM_nil, bind, Except.bind, pure, Except.pure, List.any_cons, List.any_nil,
    CoordinateEntry.isKeyed, Bool.or_false, Bool.false_eq_true, if_false, hrender]

/-! ## The display as a fragment -/

lemma render_fragment {lead : EntryLead} {value : Fragment .code} (hvalue : value.depth = 0)
    {prev : Option Char} (h : value.WellFormed prev) (rest : Fragment .code) :
    (lead.fragment value rest).render = lead.display value.render ++ rest.render := by
  cases lead with
  | keyed before axis after =>
      simp only [EntryLead.fragment, EntryLead.display, render, render_append, List.append_assoc]
      rw [render_trim (by decide) hvalue h]
      rfl
  | spread before =>
      simp only [EntryLead.fragment, EntryLead.display, render, render_append, List.append_assoc]
      rw [render_trimRight value (by decide) h]
      rfl

/-- The entries of a display are separated by commas. -/
lemma render_display_entries : ∀ (f : Fragment .entries) (_ : f.depth = 0) {prev : Option Char},
    f.WellFormed prev → f.display.render = Text.join ", ".toList f.displays
  | .last lead value, hf, _, h => by
      have hvalue : value.depth = 0 := hf
      rw [display, render_fragment hvalue h.2.1, displays, render, List.append_nil]
      rfl
  | .more lead value rest, hf, _, h => by
      obtain ⟨hvalue, hrest⟩ : value.depth = 0 ∧ rest.depth = 0 :=
        Nat.max_eq_zero_iff.mp hf
      have ih := render_display_entries rest hrest h.2.2.2.2
      rw [display, render_fragment hvalue h.2.1, displays]
      simp only [render, ih]
      cases hparts : rest.displays with
      | nil => cases rest <;> cases hparts
      | cons part parts =>
          show _ = lead.display value.render ++ ", ".toList ++ Text.join ", ".toList (part :: parts)
          rw [List.append_assoc]
          rfl

/-- **A coordinate is read as its tree says**: the expression that it stands for is the text of its
display. -/
theorem coordinateLiteral_render : ∀ (f : Fragment .coordinate) (_ : f.depth = 0)
    {prev : Option Char}, f.WellFormed prev → ∀ position,
      coordinateLiteral f.render position = .ok f.display.render
  | .blank t, _, _, h, position => by
      have hwhole : withoutComments t = t := withoutComments_render (blank t) h
      have hempty : t.trim.isEmpty = true := by
        rw [List.isEmpty_iff, Text.trim_eq_nil_iff]
        exact h
      unfold coordinateLiteral
      simp only [render, hwhole, hempty, if_true]
      rfl
  | .bare f, hf, _, h, position => coordinateLiteral_bare hf h position
  | .keyed entries, hf, _, h, position => by
      have hentries : entries.depth = 0 := hf
      rw [render, coordinateLiteral_entries hentries h, display, render,
        render_display_entries entries hentries h]
      rfl

lemma depth_fragment {lead : EntryLead} {value rest : Fragment .code}
    (hvalue : value.depth = 0) (hrest : rest.depth = 0) :
    (lead.fragment value rest).depth = 0 := by
  cases lead with
  | keyed before axis after =>
      simp only [EntryLead.fragment, depth, depth_append, depth_trim hvalue, hrest, max_self]
  | spread before =>
      have htrim := depth_trimRight_le value
      simp only [EntryLead.fragment, depth, depth_append, hrest]
      omega

lemma depth_display {s : Spot} {f : Fragment s} (hf : f.depth = 0) :
    f.display.depth = 0 := by
  induction f with
  | blank t => rfl
  | bare f _ => exact depth_trim hf
  | keyed entries ih =>
      simp only [display, depth, ih hf, max_self]
  | last lead value _ => exact depth_fragment hf rfl
  | more lead value rest _ ih =>
      obtain ⟨hvalue, hrest⟩ : value.depth = 0 ∧ rest.depth = 0 :=
        Nat.max_eq_zero_iff.mp hf
      exact depth_fragment hvalue (ih hrest)
  | _ => exact hf

lemma wellFormed_fragment {lead : EntryLead} (hlead : lead.WellFormed) {value rest : Fragment .code}
    (hf : value.depth = 0) {prev : Option Char} (hvalue : value.WellFormed prev)
    (hrest : ∀ prev', rest.WellFormed prev') (hquote : startsQuote rest.render = false)
    (prev' : Option Char) : (lead.fragment value rest).WellFormed prev' := by
  cases lead with
  | keyed before axis after =>
      have htrim := wellFormed_trim (by decide) hf hvalue
      exact ⟨Axis.isClosedLiteral_display hlead.2.1, Axis.not_isSigil_of_mem_display hlead.2.1, rfl,
        rfl, rfl, wellFormed_append
          (wellFormed_of_depth_eq_zero (depth_trim hf) htrim _) hrest hquote⟩
  | spread before =>
      have htrim := wellFormed_trimRight (by decide) hvalue
      have hfree : value.trimRight.depth = 0 :=
        Nat.eq_zero_of_le_zero (hf ▸ depth_trimRight_le value)
      exact ⟨rfl, rfl, wellFormed_append (wellFormed_of_depth_eq_zero hfree htrim _) hrest
        hquote⟩

/-- The display of a coordinate is well-formed wherever it stands. -/
lemma wellFormed_display {s : Spot} {f : Fragment s} (hf : f.depth = 0) {prev : Option Char}
    (h : f.WellFormed prev) (prev' : Option Char) : f.display.WellFormed prev' := by
  induction f generalizing prev prev' with
  | blank t => exact ⟨trivial, trivial⟩
  | bare f _ =>
      have hcode : f.depth = 0 := hf
      exact wellFormed_of_depth_eq_zero (depth_trim hcode)
        (wellFormed_trim (by decide) hcode h.1) _
  | keyed entries ih => exact ⟨ih hf h _, trivial⟩
  | last lead value _ =>
      have hend : ∀ prev', (empty).WellFormed prev' := fun _ => trivial
      exact wellFormed_fragment h.1 hf h.2.1 hend rfl prev'
  | more lead value rest _ ih =>
      obtain ⟨hvalue, hrest⟩ : value.depth = 0 ∧ rest.depth = 0 :=
        Nat.max_eq_zero_iff.mp hf
      have hnext : ∀ prev', (plain ',' (plain ' ' rest.display)).WellFormed prev' :=
        fun _ => ⟨rfl, rfl, ih hrest h.2.2.2.2 _⟩
      exact wellFormed_fragment h.1 hvalue h.2.1 hnext rfl prev'
  | shortcut rule name coordinate rest _ _ => exact absurd hf (depth_shortcut_ne_zero rule name _ _)
  | _ => exact wellFormed_of_depth_eq_zero hf h prev'

end Fragment

end FormulaCube
