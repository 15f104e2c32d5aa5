-- SUMMARY: Formatting a formatted text again: it forgets how the text was formatted before.
import Reindent.Proofs.Language

/-! # Formatting again

The lines that a document is printed in spell a document again: its tags are read back as they were,
elements without children come back as tags that stand alone, and texts come back without the line
breaks and blanks they have lost. That document has the same lines, so whatever settings it is then
printed with, the first printing leaves no trace. -/

namespace Reindent

/-! ## Texts without references -/

theorem Reference.resolve_of_not_mem {t : Text} (h : '&' ∉ t) : resolve t = .ok t := by
  induction t with
  | nil => rw [resolve]
  | cons c rest ih =>
    rw [List.mem_cons, not_or] at h
    rw [resolve, if_neg (Ne.symm h.1), ih h.2]
    rfl

theorem Formatter.resolved_of_not_mem {settings : Settings} {t : Text}
    (h : settings.resolveReferences = false ∨ '&' ∉ t) : resolved settings t = .ok t := by
  unfold resolved
  split
  · rename_i hresolve
    rcases h with h | h
    · rw [h] at hresolve
      cases hresolve
    · rw [Reference.resolve_of_not_mem h]
      rfl
  · rfl

/-! ## Tags read back -/

namespace Tag

/-- The text of the tag is one token without line breaks, and is read as the tag. -/
def ReadsBack (tag : Tag) : Prop :=
  ∃ body, '>' ∉ body ∧ (∀ c ∈ body, Text.isBreak c = false) ∧ tag.text = '<' :: body ++ ['>'] ∧
    ofToken tag.text {} none = .ok tag

theorem isToken_iff (body : Text) : isToken ('<' :: body ++ ['>']) = true ↔ body ≠ [] := by
  have hlast : ('<' :: body ++ ['>']).getLast? = some '>' := List.getLast?_concat
  simp only [isToken, hlast, Bool.and_eq_true]
  cases body <;> simp

/-- A name ends in front of the `>`. -/
theorem length_nameOf_le (body : Text) :
    nameStart ('<' :: body ++ ['>']) + (nameOf ('<' :: body ++ ['>'])).length ≤ body.length + 1 := by
  have hstop (t : Text) : ((t ++ ['>']).takeWhile (!isDelimiter ·)).length ≤ t.length := by
    induction t with
    | nil => decide
    | cons c t ih =>
      rw [List.cons_append, List.takeWhile_cons]
      split
      · simpa using ih
      · simp
  unfold nameOf nameStart
  split
  · rename_i hprefix
    cases body with
    | nil => cases hprefix
    | cons c body =>
      have := hstop body
      simp only [List.cons_append, List.drop_succ_cons, List.drop_zero, List.length_cons]
      omega
  · have := hstop body
    simp only [List.cons_append, List.drop_succ_cons, List.drop_zero]
    omega

/-- A space put into the name stays clear of the `<` and the `>`. -/
theorem splitName_eq (body : Text) (breakAt : Int) :
    ∃ split, splitName ('<' :: body ++ ['>']) breakAt = '<' :: split ++ ['>'] ∧
      body.length ≤ split.length ∧ ∀ c ∈ split, c ∈ body ∨ c = ' ' := by
  have hname := length_nameOf_le body
  have hstart : 1 ≤ nameStart ('<' :: body ++ ['>']) := by
    unfold nameStart
    split <;> simp
  unfold splitName
  dsimp only
  split
  · rename_i hinside
    obtain ⟨n, hn⟩ : ∃ n, breakAt.toNat = n + 1 := ⟨breakAt.toNat - 1, by omega⟩
    have hle : n ≤ body.length := by omega
    refine ⟨body.take n ++ ' ' :: body.drop n, ?_, ?_, ?_⟩
    · rw [hn, List.cons_append, List.take_succ_cons, List.drop_succ_cons,
        List.take_append_of_le_length hle, List.drop_append_of_le_length hle]
      simp
    · simp only [List.length_append, List.length_take, List.length_cons, List.length_drop]
      omega
    · intro c hc
      simp only [List.mem_append, List.mem_cons] at hc
      rcases hc with hc | rfl | hc
      · exact .inl (List.mem_of_mem_take hc)
      · exact .inr rfl
      · exact .inl (List.mem_of_mem_drop hc)
  · exact ⟨body, rfl, le_refl _, fun c hc => .inl hc⟩

/-- What is read of a token without line breaks. -/
theorem ofToken_eq {body : Text} (hbody : body ≠ []) :
    ofToken ('<' :: body ++ ['>']) {} none =
      .ok ⟨'<' :: body ++ ['>'], kindOf ('<' :: body ++ ['>']), nameOf ('<' :: body ++ ['>']),
        none⟩ := by
  rw [ofToken, if_pos ((isToken_iff body).2 hbody)]

/-- A tag that was read is read back. -/
theorem readsBack_of_tag {p : Piece} {tag : Tag} (h : p.tag {} = .ok tag) : tag.ReadsBack := by
  have hraw : p.raw.unbroken = '<' :: p.body.unbroken ++ ['>'] := by
    simp [Piece.raw, Text.unbroken, Text.isBreak]
  have hfree : '>' ∉ p.body.unbroken := fun hmem => p.body_free (Text.mem_unbroken_iff.1 hmem).1
  have hbreak : ∀ c ∈ p.body.unbroken, Text.isBreak c = false :=
    fun c hc => (Text.mem_unbroken_iff.1 hc).2
  rw [Piece.tag, hraw] at h
  unfold ofToken at h
  split at h
  · rename_i htoken
    have hbody := (isToken_iff _).1 htoken
    split at h
    · cases h
      exact ⟨_, hfree, hbreak, rfl, ofToken_eq hbody⟩
    · rename_i breakAt _
      obtain ⟨split, hsplit, hlength, hmem⟩ := splitName_eq p.body.unbroken breakAt
      rw [hsplit] at h
      cases h
      refine ⟨split, ?_, ?_, rfl, ofToken_eq ?_⟩
      · intro hc
        rcases hmem _ hc with hc | hc
        · exact hfree hc
        · cases hc
      · intro c hc
        rcases hmem c hc with hc | rfl
        · exact hbreak c hc
        · rfl
      · rintro rfl
        exact hbody (List.length_eq_zero_iff.1 (Nat.le_zero.1 hlength))
  · cases h

/-- A piece with the text of the tag behind any text that is none. -/
theorem ReadsBack.exists_piece {tag : Tag} (h : tag.ReadsBack) {gap : Text} (hgap : '<' ∉ gap) :
    ∃ p : Piece, p.gap = gap ∧ p.text = gap ++ tag.text ∧ p.tag {} = .ok tag := by
  obtain ⟨body, hfree, hbreak, htext, htag⟩ := h
  refine ⟨⟨gap, body, hgap, hfree⟩, rfl, by rw [htext]; rfl, ?_⟩
  have hraw : ∀ c ∈ '<' :: body ++ ['>'], Text.isBreak c = false := by
    intro c hc
    simp only [List.cons_append, List.mem_cons, List.mem_append, List.not_mem_nil, or_false] at hc
    rcases hc with rfl | hc | rfl
    · rfl
    · exact hbreak c hc
    · rfl
  have hnone : Text.breakOffset? ('<' :: body ++ ['>']) = none := List.findIdx?_eq_none_iff.2 hraw
  rw [Piece.tag, Piece.raw, Text.unbroken_eq_self_iff.2 hraw, hnone, ← htext]
  exact htag

/-- The tag that a line with a fused tag holds. -/
def fused (tag : Tag) : Tag :=
  ⟨tag.text.dropLast ++ ['/', '>'], .selfClosing, nameOf (tag.text.dropLast ++ ['/', '>']), none⟩

/-- A fused tag is read back as one that stands alone. -/
theorem ReadsBack.fused {tag : Tag} (h : tag.ReadsBack) (hkind : tag.kind = .opening) :
    tag.fused.ReadsBack := by
  obtain ⟨body, hfree, hbreak, htext, htag⟩ := h
  rw [htext, ofToken] at htag
  split at htag
  · rename_i htoken
    obtain ⟨c, rest, rfl⟩ := List.exists_cons_of_ne_nil ((isToken_iff body).1 htoken)
    have hopen : kindOf ('<' :: (c :: rest) ++ ['>']) = .opening := by
      cases htag
      exact hkind
    have hfused : tag.text.dropLast ++ ['/', '>'] = '<' :: (c :: rest ++ ['/']) ++ ['>'] := by
      rw [htext, List.dropLast_concat]
      simp
    have hself : kindOf ('<' :: (c :: rest ++ ['/']) ++ ['>']) = .selfClosing := by
      have hlast : ('<' :: (c :: rest ++ ['/']) ++ ['>'])[
          ('<' :: (c :: rest ++ ['/']) ++ ['>']).length - 2]? = some '/' := by
        simp
      unfold kindOf at hopen ⊢
      rw [hlast]
      simp only [List.cons_append, List.getElem?_cons_succ, List.getElem?_cons_zero] at hopen ⊢
      split at hopen
      · cases hopen
      · rename_i hclosing
        rw [if_neg hclosing]
        split at hopen
        · cases hopen
        · rename_i hdeclaration
          rw [if_neg hdeclaration]
          rfl
    refine ⟨c :: rest ++ ['/'], ?_, ?_, hfused, ?_⟩
    · rw [List.mem_append, not_or]
      exact ⟨hfree, by decide⟩
    · intro d hd
      rcases List.mem_append.1 hd with hd | hd
      · exact hbreak d hd
      · rw [List.mem_singleton.1 hd]
        rfl
    · rw [Tag.fused, hfused, ofToken_eq (by simp), hself]
  · cases htag

end Tag

/-! ## Documents read back -/

namespace Item

variable {settings : Settings} {items : List Item} {ps : List Piece}

/-- What may stand anywhere may stand where blanks are asked for. -/
theorem Spelled.of_blank {behindOpen : Bool} (h : Spelled true items ps) :
    Spelled behindOpen items ps := by
  cases h with
  | nil => exact .nil
  | standalone hgap htag halone hitems => exact .standalone (fun _ => hgap rfl) htag halone hitems
  | element hgap hopening hchildren hempty hclosing hitems =>
    exact .element (fun _ => hgap rfl) hopening hchildren hempty hclosing hitems
  | leaf hgap hopening htext hclosing hitems =>
    exact .leaf (fun _ => hgap rfl) hopening htext hclosing hitems

/-- The items can be printed, and what is printed spells items with the same lines. It is read with
    the blanks `lead` in front. -/
def ReadBack (settings : Settings) (depth : Nat) (lead : Text) (items : List Item) : Prop :=
  ∃ out others ps trail, Line.layOutAll settings (linesAll depth items) = .ok out ∧
    Spelled true others ps ∧ (∀ d, linesAll d others = linesAll d items) ∧
    lead ++ out = ps.flatMap Piece.text ++ trail ∧ trail.AllBlank ∧ (items = [] → trail = lead)

theorem readBack_standalone {depth : Nat} {lead : Text} {tag : Tag}
    (hindent : settings.indent.AllBlank) (hlead : lead.AllBlank) (htag : tag.ReadsBack)
    (halone : tag.isStandalone = true)
    (h : ReadBack settings depth ['\n'] items) :
    ReadBack settings depth lead (.standalone tag halone :: items) := by
  obtain ⟨out, others, ps, trail, hout, hothers, hlines, heq, htrail, -⟩ := h
  have hgap : (lead ++ settings.indentation depth).AllBlank := hlead.append (hindent.times depth)
  obtain ⟨p, hp, htext, hread⟩ := htag.exists_piece (hgap.not_mem (by decide))
  refine ⟨settings.indentation depth ++ tag.text ++ '\n' :: out, .standalone tag halone :: others,
    p :: ps, trail, ?_, .standalone (fun _ => by rwa [hp]) hread halone hothers.of_blank, ?_, ?_,
    htrail, by simp⟩
  · rw [linesAll_cons, lines]
    exact Line.layOutAll_cons_eq_ok_iff.2 ⟨_, out, Line.layOut_of_tag .., hout, rfl⟩
  · intro d
    simp [hlines d, lines]
  · simp [htext, ← heq]

theorem readBack_element {depth : Nat} {lead : Text} {tags : TagPair} {children : List Item}
    (hindent : settings.indent.AllBlank) (hlead : lead.AllBlank) (hopening : tags.opening.ReadsBack)
    (hclosing : tags.closing.ReadsBack) (hne : children ≠ [])
    (hchildren : ReadBack settings (depth + 1) ['\n'] children)
    (h : ReadBack settings depth ['\n'] items) :
    ReadBack settings depth lead (.element tags children :: items) := by
  obtain ⟨out, others, ps, trail, hout, hothers, hlines, heq, htrail, -⟩ := h
  obtain ⟨out', children', inner, trail', hout', hchildren', hlines', heq', htrail', -⟩ := hchildren
  have hgap : (lead ++ settings.indentation depth).AllBlank := hlead.append (hindent.times depth)
  have hgap' : (trail' ++ settings.indentation depth).AllBlank :=
    htrail'.append (hindent.times depth)
  obtain ⟨p, hp, hptext, hpread⟩ := hopening.exists_piece (hgap.not_mem (by decide))
  obtain ⟨q, hq, hqtext, hqread⟩ := hclosing.exists_piece (hgap'.not_mem (by decide))
  refine ⟨settings.indentation depth ++ tags.opening.text ++ '\n' :: (out' ++
      (settings.indentation depth ++ tags.closing.text ++ '\n' :: out)),
    .element tags children' :: others, p :: (inner ++ q :: ps), trail, ?_,
    .element (fun _ => by rwa [hp]) hpread hchildren' (fun _ => by rwa [hq]) hqread hothers.of_blank,
    ?_, ?_, htrail, by simp⟩
  · rw [linesAll_cons, lines, Line.around, if_neg (linesAll_eq_nil_iff.not.2 hne)]
    have hclose : Line.layOutAll settings
        (⟨depth, tags.closing.text, [], []⟩ :: linesAll depth items) =
        .ok (settings.indentation depth ++ tags.closing.text ++ '\n' :: out) :=
      Line.layOutAll_cons_eq_ok_iff.2 ⟨_, out, Line.layOut_of_tag .., hout, rfl⟩
    have hinner := Line.layOutAll_append_eq_ok_iff.2 ⟨_, _, hout', hclose, rfl⟩
    rw [List.cons_append, List.append_assoc]
    exact Line.layOutAll_cons_eq_ok_iff.2 ⟨_, _, Line.layOut_of_tag .., hinner, rfl⟩
  · intro d
    simp [hlines d, hlines' (d + 1), lines]
  · have heq' : '\n' :: out' = inner.flatMap Piece.text ++ trail' := heq'
    calc
      _ = p.text ++ ('\n' :: out') ++ settings.indentation depth ++ tags.closing.text ++
          '\n' :: out := by simp [hptext]
      _ = p.text ++ inner.flatMap Piece.text ++ q.text ++ '\n' :: out := by
        simp [heq', hqtext]
      _ = _ := by simp [← heq]

theorem readBack_leaf {depth : Nat} {lead text : Text} {tags : TagPair}
    (hindent : settings.indent.AllBlank) (hlead : lead.AllBlank) (hopening : tags.opening.ReadsBack)
    (hclosing : tags.closing.ReadsBack) (htext : ¬ text.AllBlank) (hfree : '<' ∉ text)
    (hkeep : Formatter.resolved settings text.unbroken.strip = .ok text.unbroken.strip)
    (h : ReadBack settings depth ['\n'] items) :
    ReadBack settings depth lead (.leaf tags text :: items) := by
  obtain ⟨out, others, ps, trail, hout, hothers, hlines, heq, htrail, -⟩ := h
  have hgap : (lead ++ settings.indentation depth).AllBlank := hlead.append (hindent.times depth)
  have hfree' : '<' ∉ text.unbroken.strip := fun hmem =>
    hfree (Text.mem_unbroken_iff.1 (Text.mem_of_mem_strip hmem)).1
  obtain ⟨p, hp, hptext, hpread⟩ := hopening.exists_piece (hgap.not_mem (by decide))
  obtain ⟨q, hq, hqtext, hqread⟩ := hclosing.exists_piece hfree'
  have hitem : Spelled true (.leaf tags q.gap :: others) (p :: q :: ps) :=
    .leaf (fun _ => by rwa [hp]) hpread (by rw [hq]; exact Text.not_allBlank_strip_unbroken htext)
      hqread hothers.of_blank
  refine ⟨settings.indentation depth ++ tags.opening.text ++ text.unbroken.strip ++
      tags.closing.text ++ '\n' :: out, _, _, trail, ?_, hitem, ?_, ?_, htrail, by simp⟩
  · rw [linesAll_cons, lines]
    exact Line.layOutAll_cons_eq_ok_iff.2 ⟨_, out, Line.layOut_of_resolved hkeep, hout, rfl⟩
  · intro d
    simp [hlines d, lines, hq, Text.unbroken_strip_unbroken, Text.strip_strip]
  · simp [hptext, hqtext, ← heq]

/-- What is printed spells a document with the same lines, by induction on how the document was
    spelled before. -/
theorem readBack_of_spelled {behindOpen : Bool} (hindent : settings.indent.AllBlank)
    (h : Spelled behindOpen items ps)
    (hkeep : ∀ p ∈ ps, Formatter.resolved settings p.gap.unbroken.strip = .ok p.gap.unbroken.strip)
    (depth : Nat) (lead : Text) (hlead : lead.AllBlank) : ReadBack settings depth lead items := by
  have hbreak : Text.AllBlank ['\n'] := by decide
  induction h generalizing depth lead with
  | nil => exact ⟨[], [], [], lead, rfl, .nil, fun _ => rfl, by simp, hlead, fun _ => rfl⟩
  | standalone hgap htag halone hitems ih =>
    rw [List.forall_mem_cons] at hkeep
    exact readBack_standalone hindent hlead (Tag.readsBack_of_tag htag) halone
      (ih hkeep.2 depth _ hbreak)
  | @element _ tags children items p q inner ps hgap hopening hchildren hempty hclosing hitems
      ihchildren ihitems =>
    simp only [List.forall_mem_cons, List.forall_mem_append] at hkeep
    obtain ⟨-, hinner, -, hps⟩ := hkeep
    have hread := Tag.readsBack_of_tag hopening
    have hrest := ihitems hps depth _ hbreak
    by_cases hne : children = []
    · -- The element is printed as a fused tag, which stands alone from now on.
      subst hne
      obtain ⟨out, others, qs, trail, hout, hothers, hlines, heq, htrail, hlast⟩ :=
        readBack_standalone hindent hlead (hread.fused tags.opens) rfl hrest
      have hsame (d : Nat) : linesAll d (.standalone tags.opening.fused rfl :: items) =
          linesAll d (.element tags [] :: items) := by
        simp [lines, Line.around, Tag.fused]
      exact ⟨out, others, qs, trail, hsame depth ▸ hout, hothers, fun d => (hlines d).trans (hsame d),
        heq, htrail, by simp⟩
    · exact readBack_element hindent hlead hread (Tag.readsBack_of_tag hclosing) hne
        (ihchildren hinner (depth + 1) _ hbreak) hrest
  | @leaf _ tags items p q ps hgap hopening htext hclosing hitems ih =>
    simp only [List.forall_mem_cons] at hkeep
    exact readBack_leaf hindent hlead (Tag.readsBack_of_tag hopening) (Tag.readsBack_of_tag hclosing)
      htext q.gap_free hkeep.2.1 (ih hkeep.2.2 depth _ hbreak)

/-- The texts of a document keep their ends and references if there are none. -/
theorem resolved_gap {t tail : Text} (ht : t = ps.flatMap Piece.text ++ tail)
    (h : settings.resolveReferences = false ∨ '&' ∉ t) {p : Piece} (hp : p ∈ ps) :
    Formatter.resolved settings p.gap.unbroken.strip = .ok p.gap.unbroken.strip := by
  refine Formatter.resolved_of_not_mem (h.imp_right fun hfree hmem => hfree ?_)
  have hgap : '&' ∈ p.gap := (Text.mem_unbroken_iff.1 (Text.mem_of_mem_strip hmem)).1
  have htext : '&' ∈ p.text := List.mem_append_left p.raw hgap
  rw [ht]
  exact List.mem_append_left tail (List.mem_flatMap.2 ⟨p, hp, htext⟩)

/-- A document is printed as a text that spells a document with the same lines. -/
theorem exists_serialises_print {t : Text} (hindent : settings.indent.AllBlank)
    (hkeep : settings.resolveReferences = false ∨ '&' ∉ t) (h : Serialises items t) :
    ∃ out others, print settings items = .ok out ∧ Serialises others out ∧
      linesAll 0 others = linesAll 0 items := by
  obtain ⟨ps, tail, ht, hspelled, -, -⟩ := h
  obtain ⟨out, others, qs, trail, hout, hothers, hlines, heq, htrail, hlast⟩ :=
    readBack_of_spelled hindent hspelled (fun p hp => resolved_gap ht hkeep hp) 0 []
      (by decide)
  refine ⟨out, others, hout, ⟨qs, trail, heq, hothers.of_blank, htrail, fun hnil => hlast ?_⟩,
    hlines 0⟩
  rw [← linesAll_eq_nil_iff, ← hlines 0, hnil, linesAll_nil]

end Item

/-- Formatting forgets how a text was formatted before. -/
theorem formatText_formatText {s out out' : Text} {settings settings' : Settings}
    {counts counts' : Counts} (hindent : settings.indent.AllBlank)
    (hkeep : settings.resolveReferences = false ∨ '&' ∉ s)
    (h : formatText settings s = .ok (out, counts))
    (h' : formatText settings' s = .ok (out', counts')) :
    ∃ counts'', formatText settings' out = .ok (out', counts'') := by
  obtain ⟨-, items, hitems, hout⟩ := Item.formattedText_iff.1 ⟨counts, h⟩
  obtain ⟨hsize, items', hitems', hout'⟩ := Item.formattedText_iff.1 ⟨counts', h'⟩
  obtain ⟨out₁, others, hout₁, hothers, hlines⟩ := Item.exists_serialises_print hindent hkeep hitems
  rw [hout] at hout₁
  cases hout₁
  refine Item.formattedText_iff.2 ⟨hsize, others, hothers, ?_⟩
  rw [← hout', Item.print, Item.print, hlines, Item.linesAll_eq_of_serialises hitems hitems']

/-- An element without children in another, with tabs and then with spaces. -/
theorem formatText_formatText_fused :
    ∃ counts, formatText ⟨[' '], 4096, false⟩
        ['<', 'a', '>', '\n', '\t', '<', 'b', '/', '>', '\n', '<', '/', 'a', '>', '\n'] =
      .ok (['<', 'a', '>', '\n', ' ', '<', 'b', '/', '>', '\n', '<', '/', 'a', '>', '\n'],
        counts) := by
  have hchild : Item.Spelled true
      [.element ⟨⟨['<', 'b', '>'], .opening, ['b'], none⟩,
        ⟨['<', '/', 'b', '>'], .closing, ['b'], none⟩, rfl, rfl, rfl⟩ []] _ :=
    .element (p := ⟨[' '], ['b'], by decide, by decide⟩)
      (q := ⟨['\n'], ['/', 'b'], by decide, by decide⟩) (fun _ => by decide) rfl .nil
      (fun _ => by decide) rfl .nil
  have hitem : Item.Spelled false
      [.element ⟨⟨['<', 'a', '>'], .opening, ['a'], none⟩,
        ⟨['<', '/', 'a', '>'], .closing, ['a'], none⟩, rfl, rfl, rfl⟩ _]
      (⟨[], ['a'], by decide, by decide⟩ :: (_ ++ [⟨[], ['/', 'a'], by decide, by decide⟩])) :=
    .element (fun h => by cases h) rfl hchild (fun h => by cases h) rfl .nil
  have hserialises : Item.Serialises _ ['<', 'a', '>', ' ', '<', 'b', '>', '\n', '<', '/', 'b', '>',
      '<', '/', 'a', '>'] :=
    ⟨_, [], rfl, hitem, by decide, fun _ => rfl⟩
  have htabs : ∃ counts, formatText ⟨['\t'], 1, false⟩ _ = .ok (_, counts) :=
    Item.formattedText_iff.2 ⟨by decide, _, hserialises, rfl⟩
  have hspaces : ∃ counts, formatText ⟨[' '], 4096, false⟩ _ = .ok (_, counts) :=
    Item.formattedText_iff.2 ⟨by decide, _, hserialises, rfl⟩
  obtain ⟨counts, h⟩ := htabs
  obtain ⟨counts', h'⟩ := hspaces
  exact formatText_formatText (by decide) (.inl rfl) h h'

end Reindent
