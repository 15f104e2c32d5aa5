-- SUMMARY: A failure is found at the first tag that no continuation of the text can mend.
import Reindent.Proofs.Reformatting
import Reindent.Proofs.TagCount

/-! # Viable prefixes

Up to the tag at which a text fails it can be completed: tags that close the open elements, innermost
first, lead any stage to the end of a document. The steps taken so far are the same in the completed
text, because a step looks no further than the text in front of the next tag; so what was written is a
beginning of what is written for the completed text. With the offending tag nothing can be done. -/

namespace Reindent

/-! ## Closing tags -/

namespace Tag

/-- The tag that closes an element of the given name. -/
def closing (name : Text) : Tag :=
  ⟨'<' :: ('/' :: name) ++ ['>'], .closing, name, none⟩

/-- No character of the name would have ended it. -/
def Named (tag : Tag) : Prop :=
  ∀ c ∈ tag.name, isDelimiter c = false

theorem named_of_tag {p : Piece} {location : Location} {tag : Tag} (h : p.tag location = .ok tag) :
    tag.Named := by
  unfold Piece.tag ofToken at h
  split at h
  · cases h
    intro c hc
    simpa using List.mem_takeWhile_imp hc
  · cases h

/-- A name can be read back, whatever characters it has. -/
theorem nameOf_closing {name : Text} (h : ∀ c ∈ name, isDelimiter c = false) :
    nameOf ('<' :: ('/' :: name) ++ ['>']) = name := by
  have hstart : nameStart ('<' :: ('/' :: name) ++ ['>']) = 2 := by simp [nameStart]
  have hname : ∀ c ∈ name, (!isDelimiter c) = true := fun c hc => by rw [h c hc]; rfl
  have hend : [('>' : Char)].takeWhile (!isDelimiter ·) = [] := by decide
  rw [nameOf, hstart]
  simp only [List.cons_append, List.drop_succ_cons, List.drop_zero]
  rw [List.takeWhile_append_of_pos hname, hend, List.append_nil]

theorem readsBack_closing {tag : Tag} (h : tag.Named) : (closing tag.name).ReadsBack := by
  have hbreak : ∀ c, isDelimiter c = false → Text.isBreak c = false := by
    intro c hc
    simp only [isDelimiter, Bool.or_eq_false_iff] at hc
    simp [Text.isBreak, hc]
  refine ⟨'/' :: tag.name, ?_, ?_, rfl, ?_⟩
  · intro hmem
    rcases List.mem_cons.1 hmem with hc | hc
    · cases hc
    · have := h _ hc
      cases this
  · intro c hc
    rcases List.mem_cons.1 hc with rfl | hc
    · rfl
    · exact hbreak c (h c hc)
  · rw [closing, ofToken_eq (by simp), nameOf_closing h]
    rfl

end Tag

/-! ## Completing a stage -/

namespace Stage

variable {tail tail' : Text} {s t : Stage} {ps rest : List Piece} {p : Piece} {lines : List Line}
  {tag : Tag} {gap : Text}

/-- The names of the open tags can be read back. -/
def Named (s : Stage) : Prop :=
  ∀ tag ∈ s.opened, tag.Named

/-- A piece that closes the tag behind any text. -/
theorem exists_closer (h : tag.Named) (hgap : '<' ∉ gap) :
    ∃ q : Piece, q.gap = gap ∧ ∀ s : Stage, ∃ close, s.tagOf q = .ok close ∧
      close.kind = .closing ∧ tag.closedBy close = true := by
  obtain ⟨q, hq, -, hclose⟩ := (Tag.readsBack_closing h).exists_piece hgap
  exact ⟨q, hq, fun s => ⟨_, tagOf_of_tag hclose, rfl, by simp [Tag.closedBy, Tag.closing]⟩⟩

/-- All open elements can be closed. -/
theorem exists_closers (h : s.Named) :
    ∃ qs lines t, Turns [] s qs lines t [] ∧ t.opened = [] := by
  generalize hopened : s.opened = opened
  induction opened generalizing s with
  | nil => exact ⟨[], [], s, .none, hopened⟩
  | cons tag outer ih =>
    rw [Named, hopened, List.forall_mem_cons] at h
    obtain ⟨q, -, hclose⟩ := exists_closer h.1 List.not_mem_nil
    obtain ⟨close, htag, hkind, hclosed⟩ := hclose s
    obtain ⟨qs, lines, t, hturns, ht⟩ :=
      ih (s := { s.behind q with opened := outer, held := false }) h.2 rfl
    exact ⟨_, _, t, .more (.close htag hkind hopened hclosed) hturns, ht⟩

/-- Behind any text a stage can be led to the end of a document, with at least one more tag. -/
theorem exists_completion (h : s.Named) (hgap : '<' ∉ gap) :
    ∃ q qs lines t, q.gap = gap ∧ Turns [] s (q :: qs) lines t [] ∧ t.opened = [] := by
  cases hopened : s.opened with
  | nil =>
    -- An element of its own, because text at the end of a document is not accepted.
    have halone : Tag.ReadsBack ⟨['<', 'a', '/', '>'], .selfClosing, ['a'], none⟩ :=
      ⟨['a', '/'], by decide, by simp [Text.isBreak], rfl, rfl⟩
    obtain ⟨q, hq, -, htag⟩ := halone.exists_piece hgap
    exact ⟨q, [], _, _, hq, .more (.standalone (tagOf_of_tag htag) rfl) .none, hopened⟩
  | cons tag outer =>
    rw [Named, hopened, List.forall_mem_cons] at h
    obtain ⟨q, hq, hclose⟩ := exists_closer h.1 hgap
    obtain ⟨close, htag, hkind, hclosed⟩ := hclose s
    obtain ⟨qs, lines, t, hturns, ht⟩ :=
      exists_closers (s := { s.behind q with opened := outer, held := false }) h.2
    exact ⟨q, qs, _, t, hq, .more (.close htag hkind hopened hclosed) hturns, ht⟩

/-- What a step may have read when it asks for one more tag: nothing, or an opening tag. -/
def Ready (s : Stage) (front : List Piece) : Prop :=
  front = [] ∨ ∃ p tag, front = [p] ∧ s.tagOf p = .ok tag ∧ tag.kind = .opening

theorem exists_completion_of_ready {front : List Piece} (h : s.Named) (hready : s.Ready front)
    (hgap : '<' ∉ gap) :
    ∃ q qs lines t, q.gap = gap ∧ Turns [] s (front ++ q :: qs) lines t [] ∧ t.opened = [] := by
  obtain rfl | ⟨p, tag, rfl, htag, hkind⟩ := hready
  · exact exists_completion h hgap
  have hnamed := Tag.named_of_tag htag
  -- With nothing but blanks behind it the opening tag is held back; with text it begins a leaf.
  by_cases hblank : gap.AllBlank
  · have hinner : Named { s.behind p with opened := tag :: s.opened, held := true } :=
      List.forall_mem_cons.2 ⟨hnamed, h⟩
    obtain ⟨q, qs, lines, t, rfl, hturns, ht⟩ := exists_completion hinner hgap
    exact ⟨q, qs, _, t, rfl, .more (.hold htag hkind (tagNext_cons_iff.2 hblank)) hturns, ht⟩
  · obtain ⟨q, rfl, hclose⟩ := exists_closer hnamed hgap
    obtain ⟨close, hclose, hclosing, hclosed⟩ := hclose (s.behind p)
    obtain ⟨qs, lines, t, hturns, ht⟩ :=
      exists_closers (s := { (s.behind p).behind q with held := false }) h
    have hnext : ¬ tagNext (q :: qs) [] := fun hnext => hblank (tagNext_cons_iff.1 hnext)
    exact ⟨q, qs, _, t, rfl, .more (.leaf htag hkind hnext hclose hclosing hclosed) hturns, ht⟩

/-! ## The same steps in another text -/

/-- A step looks no further than the text in front of the next tag. -/
theorem Turn.replace (h : Turn tail s ps lines t rest) :
    ∃ front, ps = front ++ rest ∧ ∀ {tail' : Text} {rest' : List Piece},
      (tagNext rest tail → tagNext rest' tail') → Turn tail' s (front ++ rest') lines t rest' := by
  cases h with
  | close htag hkind hopened hclosed =>
    exact ⟨[_], rfl, fun _ => .close htag hkind hopened hclosed⟩
  | standalone htag halone => exact ⟨[_], rfl, fun _ => .standalone htag halone⟩
  | hold htag hkind hnext => exact ⟨[_], rfl, fun hsame => .hold htag hkind (hsame hnext)⟩
  | leaf htag hkind hnext hclose hclosing hclosed =>
    rw [tagNext_cons_iff] at hnext
    exact ⟨[_, _], rfl, fun _ => .leaf htag hkind (fun hnext' => hnext (tagNext_cons_iff.1 hnext'))
      hclose hclosing hclosed⟩

theorem Turns.exists_replace (h : Turns tail s ps lines t rest) :
    ∃ front, ps = front ++ rest ∧ ∀ {tail' : Text} {rest' : List Piece},
      (tagNext rest tail → tagNext rest' tail') → Turns tail' s (front ++ rest') lines t rest' := by
  induction h with
  | none => exact ⟨[], rfl, fun _ => .none⟩
  | @more _ _ _ _ _ rest _ _ hturn hturns ih =>
    obtain ⟨front, rfl, hreplace⟩ := hturn.replace
    obtain ⟨front', rfl, hreplace'⟩ := ih
    refine ⟨front ++ front', by simp, ?_⟩
    intro tail' rest' hsame
    have hnext : tagNext (front' ++ rest) tail → tagNext (front' ++ rest') tail' := by
      cases front' with
      | nil => exact hsame
      | cons q front' =>
        intro hnext
        rw [List.cons_append, tagNext_cons_iff] at hnext ⊢
        exact hnext
    rw [List.append_assoc]
    exact .more (hreplace hnext) (hreplace' hsame)

/-- The steps past the pieces `front` can be taken in any text that begins with them and goes on with
    the same text in front of the next tag. -/
theorem Turns.replace {front rest' : List Piece} (h : Turns tail s (front ++ rest) lines t rest)
    (hsame : tagNext rest tail → tagNext rest' tail') :
    Turns tail' s (front ++ rest') lines t rest' := by
  obtain ⟨front', heq, hreplace⟩ := h.exists_replace
  rw [List.append_cancel_right heq]
  exact hreplace hsame

theorem Turn.named (h : Turn tail s ps lines t rest) (hs : s.Named) : t.Named := by
  cases h with
  | close htag hkind hopened hclosed =>
    rw [Named, hopened, List.forall_mem_cons] at hs
    exact hs.2
  | standalone => exact hs
  | hold htag => exact List.forall_mem_cons.2 ⟨Tag.named_of_tag htag, hs⟩
  | leaf => exact hs

theorem Turns.named (h : Turns tail s ps lines t rest) (hs : s.Named) : t.Named := by
  induction h with
  | none => exact hs
  | more hturn hturns ih => exact ih (hturn.named hs)

/-- A text can be completed behind any of the steps taken in it, with `gap` in front of the tags that
    are added. -/
theorem Turns.exists_completion {before front : List Piece}
    (h : Turns tail s (before ++ (front ++ rest)) lines t (front ++ rest)) (hs : s.Named)
    (hready : t.Ready front) (hgap : '<' ∉ gap) (hblank : tagNext rest tail → gap.AllBlank) :
    ∃ qs others u more, qs ≠ [] ∧
      qs.flatMap Piece.text = (before ++ front).flatMap Piece.text ++ gap ++ more ∧
      Turns [] s qs (lines ++ others) u [] ∧ u.opened = [] := by
  obtain ⟨q, qs, others, u, rfl, hturns, hu⟩ :=
    exists_completion_of_ready (h.named hs) hready hgap
  have hsame : tagNext (front ++ rest) tail → tagNext (front ++ q :: qs) [] := by
    obtain rfl | ⟨p, tag, rfl, -⟩ := hready
    · exact fun hnext => tagNext_cons_iff.2 (hblank hnext)
    · exact fun hnext => tagNext_cons_iff.2 (tagNext_cons_iff.1 hnext)
  refine ⟨before ++ (front ++ q :: qs), others, u, q.raw ++ qs.flatMap Piece.text, ?_, ?_,
    (h.replace hsame).trans hturns, hu⟩
  · simp
  · simp [Piece.text]

/-! ## What stops a layout -/

variable {front : List Piece} {e : DocumentError}

/-- The stage refuses the tag of a piece: behind `front`, which is empty or an opening tag with text
    behind it, the tag of `p` makes the error `e`. What comes behind it makes no difference. -/
inductive Refuses (s : Stage) : List Piece → Piece → DocumentError → Prop where
  | broken {p : Piece} {e : DocumentError} (htag : s.tagOf p = .error e) : Refuses s [] p e
  | close {p : Piece} {tag : Tag} {e : DocumentError} (htag : s.tagOf p = .ok tag)
      (hkind : tag.kind = .closing) (hclose : (s.behind p).close tag = .error e) :
      Refuses s [] p e
  | leaf {p q : Piece} {tag : Tag} {e : DocumentError} (htag : s.tagOf p = .ok tag)
      (hkind : tag.kind = .opening) (htext : ¬ q.gap.AllBlank)
      (hleaf : (s.behind p).leaf tag q = .error e) : Refuses s [p] q e

theorem Refuses.ready (h : Refuses s front p e) : s.Ready front := by
  cases h with
  | broken => exact .inl rfl
  | close => exact .inl rfl
  | leaf htag hkind => exact .inr ⟨_, _, rfl, htag, hkind⟩

theorem Refuses.next (h : Refuses s front p e) (after : List Piece) (tail : Text) :
    ∃ q qs, front ++ p :: after = q :: qs ∧ s.next q qs tail = .error e := by
  cases h with
  | broken htag => exact ⟨p, after, rfl, by simp only [Stage.next, htag]⟩
  | close htag hkind hclose => exact ⟨p, after, rfl, by simp only [Stage.next, htag, hkind, hclose]⟩
  | leaf htag hkind htext hleaf =>
    have hnext : ¬ tagNext (p :: after) tail := fun hnext => htext (tagNext_cons_iff.1 hnext)
    exact ⟨_, p :: after, rfl,
      by simp only [Stage.next, openElement, htag, hkind, if_neg hnext, hleaf]⟩

theorem Refuses.run (h : Refuses s front p e) (after : List Piece) (tail : Text) :
    s.run tail (front ++ p :: after) = ([], .error e) := by
  obtain ⟨q, qs, heq, hnext⟩ := h.next after tail
  rw [heq, Stage.run]
  split
  · rename_i herror
    rw [hnext] at herror
    cases herror
    rfl
  · rename_i hok
    rw [hnext] at hok
    cases hok

theorem Refuses.atTag (h : Refuses s front p e) : Failure.atTag (.document e) = true := by
  cases h with
  | broken htag => exact Formatter.atTag_tagOf htag
  | close htag hkind hclose =>
    unfold Stage.close at hclose
    split at hclose
    · cases hclose
      rfl
    · split at hclose
      · cases hclose
      · cases hclose
        rfl
  | leaf htag hkind htext hleaf =>
    unfold Stage.leaf at hleaf
    split at hleaf
    · rename_i hclose
      cases hleaf
      exact Formatter.atTag_tagOf hclose
    · split at hleaf
      · cases hleaf
        rfl
      · split at hleaf
        · cases hleaf
        · cases hleaf
          rfl

/-- What stops a layout in front of `ps`: a tag among them, or the end of the text. -/
def Stops (s : Stage) (ps : List Piece) (e : DocumentError) : Prop :=
  (∃ front p after, ps = front ++ p :: after ∧ Refuses s front p e) ∨
    s.Ready ps ∧ Failure.atTag (.document e) = false

theorem stops_of_next (h : s.next p ps tail = .error e) : s.Stops (p :: ps) e := by
  unfold next at h
  split at h
  · rename_i htag
    cases h
    exact .inl ⟨[], p, ps, rfl, .broken htag⟩
  · rename_i tag htag
    split at h
    · rename_i hkind
      split at h
      · rename_i hclose
        cases h
        exact .inl ⟨[], p, ps, rfl, .close htag hkind hclose⟩
      · cases h
    · cases h
    · cases h
    · rename_i hkind
      unfold openElement at h
      split at h
      · cases h
      · rename_i hnext
        split at h
        · cases h
          exact .inr ⟨.inr ⟨p, tag, rfl, htag, hkind⟩, rfl⟩
        · rename_i q ps
          split at h
          · rename_i hleaf
            cases h
            rw [tagNext_cons_iff] at hnext
            exact .inl ⟨[p], q, ps, rfl, .leaf htag hkind hnext hleaf⟩
          · cases h

theorem stops_of_finish (h : s.finish tail = .error e) : s.Stops [] e := by
  unfold finish at h
  split at h
  · cases h
    exact .inr ⟨.inl rfl, rfl⟩
  · split at h
    · cases h
    · cases h
      exact .inr ⟨.inl rfl, rfl⟩

/-- A layout that fails takes some steps and is stopped. -/
theorem stops_of_run (h : (s.run tail ps).2 = .error e) :
    ∃ t rest, Turns tail s ps (s.run tail ps).1.flatten t rest ∧ t.Stops rest e := by
  fun_induction Stage.run tail s ps with
  | case1 s => exact ⟨s, [], .none, stops_of_finish h⟩
  | case2 s p ps e' hnext =>
    cases h
    exact ⟨s, p :: ps, .none, stops_of_next hnext⟩
  | case3 s p ps lines t rest hnext groups result hrun ih =>
    rw [hrun] at ih
    obtain ⟨u, rest', hturns, hstops⟩ := ih h
    exact ⟨u, rest', .more (turn_of_next hnext) hturns, hstops⟩

end Stage

/-- So does that of a whole text. -/
theorem Text.stops_of_layout {t : Text} {file : Option Text} {e : DocumentError}
    (h : (t.layout file).2 = .error e) :
    ∃ u rest, Stage.Turns (Markup.ofText t).tail { file } (Markup.ofText t).pieces
      (t.layout file).1.flatten u rest ∧ u.Stops rest e := by
  by_cases hnone : (Markup.ofText t).pieces = [] ∧ (Markup.ofText t).tail ≠ []
  · rw [layout, if_pos hnone] at h ⊢
    cases h
    rw [hnone.1]
    exact ⟨{ file }, [], .none, .inr ⟨.inl rfl, rfl⟩⟩
  · rw [layout, if_neg hnone] at h ⊢
    exact Stage.stops_of_run h

/-! ## Formatters -/

namespace Formatter

variable {settings : Settings} {written : List Text} {s : Stage} {front after : List Piece}
  {p : Piece} {tail : Text} {e : DocumentError} {f g : Formatter}

theorem hasRead_of_refuses (h : f.Stands settings written s (front ++ p :: after) tail)
    (hrefuses : s.Refuses front p e) : HasRead (front.length + 1) f (step f) := by
  cases hrefuses with
  | broken htag =>
    refine hasRead_step h ?_
    intro tag htag' _
    rw [htag] at htag'
    cases htag'
  | close htag hkind =>
    refine hasRead_step h ?_
    intro tag htag' hkind'
    rw [htag] at htag'
    cases htag'
    rw [hkind] at hkind'
    cases hkind'
  | leaf htag hkind htext =>
    exact hasRead_step_text h htag hkind fun hnext => htext (Stage.tagNext_cons_iff.1 hnext)

/-- Without references to resolve, a step that the layout refuses fails with what is wrong there. -/
theorem step_of_next_error {ps : List Piece} (h : f.Stands settings written s (p :: ps) tail)
    (hunfinished : tail.Unfinished) (hresolve : settings.resolveReferences = false)
    (hnext : s.next p ps tail = .error e) : ∃ g, step f = (.error (.document e), g) := by
  have houtcome := outcome_step h hunfinished
  rw [hnext] at houtcome
  generalize step f = r at houtcome ⊢
  cases houtcome with
  | refused hfailure hg =>
    rcases hfailure with rfl | ⟨text, htext⟩
    · exact ⟨_, rfl⟩
    · rw [resolved_of_not_resolve hresolve] at htext
      cases htext

/-- A run that is stopped at a tag has counted the tags up to this one. -/
theorem tags_of_refuses (h : f.Stands settings written s (front ++ p :: after) tail)
    (hunfinished : tail.Unfinished) (hresolve : settings.resolveReferences = false)
    (hrefuses : s.Refuses front p e) : f.run.2.tags = f.tags + (front.length + 1) := by
  have hread := hasRead_of_refuses h hrefuses
  obtain ⟨q, qs, heq, hnext⟩ := hrefuses.next after tail
  rw [heq] at h
  obtain ⟨g, hstep⟩ := step_of_next_error h hunfinished hresolve hnext
  rw [run_of_step_error (atEnd_of_piece h) hstep]
  rw [hstep] at hread
  rcases hread with htags | ⟨failure, hfailure, htag⟩
  · exact htags
  · cases hfailure
    rw [hrefuses.atTag] at htag
    cases htag

/-- A run that fails because of the document does so where the layout of its text does, and has written
    the lines that are laid out up to there. -/
theorem RunOutcome.layout {layout : List (List Line) × Except DocumentError Unit}
    (h : RunOutcome settings [] layout (.error (.document e), g))
    (hresolve : settings.resolveReferences = false) :
    layout.2 = .error e ∧ Line.layOutAll settings layout.1.flatten = .ok g.sink.content := by
  rw [Line.layOutAll_flatten]
  cases h with
  | refused hts hfailure hg =>
    rcases hfailure with hfailure | ⟨text, htext⟩
    · cases hfailure
      rw [hts, Sink.content, hg]
      exact ⟨rfl, rfl⟩
    · rw [resolved_of_not_resolve hresolve] at htext
      cases htext
  | @unresolved groups _ _ _ hts =>
    obtain ⟨out, hout⟩ := Line.exists_layOutAll_of_not_resolve hresolve groups.flatten
    rw [Line.layOutAll_flatten, hts] at hout
    cases hout

end Formatter

/-! ## Completed texts -/

/-- The pieces of a text that begins with some. -/
theorem Markup.ofText_append (ps : List Piece) (t : Text) :
    (ofText (ps.flatMap Piece.text ++ t)).pieces = ps ++ (ofText t).pieces ∧
      (ofText (ps.flatMap Piece.text ++ t)).tail = (ofText t).tail := by
  induction ps with
  | nil => exact ⟨rfl, rfl⟩
  | cons p ps ih =>
    rw [List.flatMap_cons, List.append_assoc, ofText_piece]
    exact ⟨congrArg (p :: ·) ih.1, ih.2⟩

theorem Text.layout_of_pieces {t : Text} (h : (Markup.ofText t).pieces ≠ []) (file : Option Text) :
    t.layout file = Stage.run (Markup.ofText t).tail { file } (Markup.ofText t).pieces := by
  rw [layout, if_neg fun hnone => h hnone.1]

/-- Lines that are laid out end in a line end. -/
theorem Line.getLast?_layOutAll {settings : Settings} {ls : List Line} {out : Text}
    (h : layOutAll settings ls = .ok out) : out = [] ∨ out.getLast? = some '\n' := by
  induction ls generalizing out with
  | nil =>
    cases h
    exact .inl rfl
  | cons l ls ih =>
    obtain ⟨t, u, -, hu, rfl⟩ := layOutAll_cons_eq_ok_iff.1 h
    rw [List.getLast?_append_cons]
    rcases ih hu with rfl | hlast
    · exact .inr rfl
    · exact .inr (by rw [List.getLast?_cons, hlast]; rfl)

/-- In front of a tag that is not finished there are only blanks if a tag is next. -/
theorem Stage.allBlank_of_tagNext {tail : Text} (h : tagNext [] tail) :
    Text.AllBlank (tail.takeWhile (· != '<')) := by
  have hblank := Text.allBlank_takeWhile tail
  cases hdrop : tail.dropWhile Text.isBlank with
  | nil =>
    rw [tagNext, List.flatMap_nil, List.nil_append, hdrop] at h
    cases h
  | cons c rest =>
    rw [tagNext, List.flatMap_nil, List.nil_append, hdrop, List.head?_cons, Option.some.injEq] at h
    subst h
    rw [← List.takeWhile_append_dropWhile (p := Text.isBlank) (l := tail), hdrop,
      Text.takeWhile_ne_append (hblank.not_mem (by decide))]
    exact hblank

/-- Some text behind `u` makes a document of it that is formatted whatever the chunks, and `written`
    is a beginning of what is written for it, up to a line end. -/
def Viable (settings : Settings) (file : Option Text) (u written : Text) : Prop :=
  ∃ t out, (∀ stream : Stream, (stream settings.chunkSize.toNat).Delivers (u ++ t) →
      ∃ counts, (formatStream stream {} settings file).result = .ok counts ∧
        (formatStream stream {} settings file).sink.content = out) ∧
    written <+: out ∧ (written = [] ∨ written.getLast? = some '\n')

section

variable {settings : Settings} {file : Option Text}
  (hsize : 1 ≤ settings.chunkSize) (hresolve : settings.resolveReferences = false)

include hsize hresolve

theorem viable_of_turns {u w more : Text} {qs : List Piece} {lines others : List Line} {t : Stage}
    (hne : qs ≠ []) (htext : qs.flatMap Piece.text = u ++ more)
    (hturns : Stage.Turns [] { file } qs (lines ++ others) t []) (ht : t.opened = [])
    (hw : Line.layOutAll settings lines = .ok w) : Viable settings file u w := by
  obtain ⟨out, hout⟩ := Line.exists_layOutAll_of_not_resolve hresolve (lines ++ others)
  refine ⟨more, out, fun stream hstream => ?_, ?_, Line.getLast?_layOutAll hw⟩
  · refine (formatStream_eq_ok_iff hsize hstream file).2 ?_
    have heq : u ++ more = qs.flatMap Piece.text ++ [] := by rw [List.append_nil, htext]
    obtain ⟨hpieces, htail⟩ := Item.markup_of_serialises heq (List.forall_mem_nil _)
    obtain ⟨hlines, hresult⟩ := Stage.run_of_turns hturns
    rw [Text.layout_of_pieces (by rwa [hpieces]), hpieces, htail, hlines, hresult, Stage.run_nil,
      List.flatten_nil, List.append_nil]
    have hblank : Text.AllBlank [] := List.forall_mem_nil _
    refine ⟨?_, hout⟩
    rw [Stage.finish, if_neg (not_not.2 hblank), if_pos ht]
  · obtain ⟨w', out', hw', -, rfl⟩ := Line.layOutAll_append_eq_ok_iff.1 hout
    rw [hw] at hw'
    cases hw'
    exact List.prefix_append _ _

/-- With a tag that is refused no text can be completed: each fails with the same error. -/
theorem formatStream_of_refuses {tail : Text} {before front after : List Piece} {p : Piece}
    {lines : List Line} {t : Stage} {e : DocumentError}
    (hturns : Stage.Turns tail { file } (before ++ (front ++ p :: after)) lines t
      (front ++ p :: after))
    (hrefuses : t.Refuses front p e) {stream : Stream} {more : Text}
    (hstream : (stream settings.chunkSize.toNat).Delivers
      ((before ++ front).flatMap Piece.text ++ p.text ++ more)) :
    (formatStream stream {} settings file).result = .error (.document e) := by
  have heq : (before ++ front).flatMap Piece.text ++ p.text ++ more =
      (before ++ (front ++ [p])).flatMap Piece.text ++ more := by simp
  obtain ⟨hpieces, htail⟩ := Markup.ofText_append (before ++ (front ++ [p])) more
  rw [heq] at hstream
  refine formatStream_eq_error hsize hstream hresolve ?_
  rw [Text.layout_of_pieces (by rw [hpieces]; simp), hpieces]
  have hsame (ps : List Piece) (tail' : Text) :
      Stage.tagNext (front ++ p :: after) tail → Stage.tagNext (front ++ p :: ps) tail' := by
    cases front with
    | nil => exact fun hnext => Stage.tagNext_cons_iff.2 (Stage.tagNext_cons_iff.1 hnext)
    | cons q front => exact fun hnext => Stage.tagNext_cons_iff.2 (Stage.tagNext_cons_iff.1 hnext)
  obtain ⟨-, hresult⟩ := Stage.run_of_turns
    (hturns.replace (hsame (Markup.ofText more).pieces (Markup.ofText _).tail))
  rw [hrefuses.run] at hresult
  simpa using hresult

end

/-! ## Failures -/

/-- Where a text fails. At a tag, which is the last one that was read, the text can be completed up to
    this tag, and with the tag it cannot. At the end of the input it can be completed up to a tag that
    is not finished. What was written before is a beginning of what is written for the completed
    text. -/
theorem Formatter.run_viable {stream : Stream} {s : Text} {settings : Settings}
    (hsize : 1 ≤ settings.chunkSize) (hresolve : settings.resolveReferences = false)
    (h : (stream settings.chunkSize.toNat).Delivers s) (file : Option Text) :
    ∃ f, start stream {} settings file = .ok f ∧
      ∀ e g, f.run = (.error (.document e), g) →
        (Failure.atTag (.document e) = true →
          ∃ before p after, (Markup.ofText s).pieces = before ++ p :: after ∧
            g.tags = before.length + 1 ∧
            Viable settings file (before.flatMap Piece.text ++ p.gap) g.sink.content ∧
            ∀ (t : Text) (stream' : Stream),
              (stream' settings.chunkSize.toNat).Delivers
                (before.flatMap Piece.text ++ p.text ++ t) →
              (formatStream stream' {} settings file).result = .error (.document e)) ∧
        (Failure.atTag (.document e) = false →
          Viable settings file
            ((Markup.ofText s).pieces.flatMap Piece.text ++
              (Markup.ofText s).tail.takeWhile (· != '<')) g.sink.content) := by
  obtain ⟨feed, hshows, hstart⟩ := start_eq_ok settings hsize h {} file
  refine ⟨_, hstart, ?_⟩
  intro e g hrun
  have houtcome := outcome_layout hshows settings file {} fun _ _ => rfl
  rw [hrun] at houtcome
  obtain ⟨hlayout, hwritten⟩ := houtcome.layout hresolve
  obtain ⟨u, rest, hturns, hstops⟩ := Text.stops_of_layout hlayout
  obtain ⟨before, hpieces, -⟩ := hturns.exists_replace
  have hnamed : Stage.Named { file } := List.forall_mem_nil _
  rcases hstops with ⟨front, p, after, rfl, hrefuses⟩ | ⟨hready, htag⟩
  · refine ⟨fun _ => ⟨before ++ front, p, after, by simp [hpieces], ?_, ?_, ?_⟩, fun htag => ?_⟩
    · have hsome : ¬ ((Markup.ofText s).pieces = [] ∧ (Markup.ofText s).tail ≠ []) := by
        simp [hpieces]
      have hstands := stands_of_start hshows settings file {} (fun _ _ => rfl) hsome
      obtain ⟨f', written, hrun', hstands', htags⟩ :=
        stands_of_turns hstands (Markup.ofText s).unfinished hresolve hturns
      have hcount := tags_of_refuses hstands' (Markup.ofText s).unfinished hresolve hrefuses
      rw [← hrun', hrun] at hcount
      rw [hpieces, List.length_append] at htags
      simp only [List.length_append, List.length_cons] at htags hcount ⊢
      omega
    · rw [hpieces] at hturns
      obtain ⟨qs, others, v, more, hne, htext, hcompleted, hv⟩ :=
        hturns.exists_completion hnamed hrefuses.ready p.gap_free Stage.tagNext_cons_iff.1
      exact viable_of_turns hsize hresolve hne htext hcompleted hv hwritten
    · intro t stream' hstream
      rw [hpieces] at hturns
      exact formatStream_of_refuses hsize hresolve hturns hrefuses hstream
    · rw [hrefuses.atTag] at htag
      cases htag
  · refine ⟨fun htag' => ?_, fun _ => ?_⟩
    · rw [htag] at htag'
      cases htag'
    · rw [hpieces, ← List.append_nil rest] at hturns
      obtain ⟨qs, others, v, more, hne, htext, hcompleted, hv⟩ :=
        hturns.exists_completion hnamed hready (Text.not_mem_takeWhile_ne '<' (Markup.ofText s).tail)
          Stage.allBlank_of_tagNext
      rw [← hpieces] at htext
      exact viable_of_turns hsize hresolve hne htext hcompleted hv hwritten

/-- A tag behind the text of an element, which only the closing tag may follow. -/
theorem Formatter.run_viable_mixed :
    let s : Text := ['<', 'r', '/', '>', '<', 'a', '>', 'x', '<', 'b', '>']
    let settings : Settings := { resolveReferences := false }
    ∃ before p after, (Markup.ofText s).pieces = before ++ p :: after ∧ before.length = 2 ∧
      Viable settings none (before.flatMap Piece.text ++ p.gap) ['<', 'r', '/', '>', '\n'] := by
  intro s settings
  let f : Formatter := { settings, cursor := { feed := ⟨some s, .ended, 11⟩ }, sink := {} }
  have hsize : 1 ≤ settings.chunkSize := by decide
  have hdelivers : (Reads.ofChunks [s]).Delivers (s ++ []) := .chunk (by decide) .ended
  obtain ⟨f', hstart, hfails⟩ := @run_viable (fun _ => _) _ settings hsize rfl hdelivers none
  have hf : start (fun _ => Reads.ofChunks [s]) {} settings none = .ok f := rfl
  rw [hf] at hstart
  cases hstart
  have hfirst : step f = (.ok (), (step f).2) := rfl
  have hsecond : step (step f).2 = (.error (.malformed (.mixedContent ['<', 'b', '>'] ['<', 'a', '>'])
      ⟨some 1, none⟩), (step (step f).2).2) := rfl
  have hrun := (run_of_step_ok (by decide) hfirst).trans (run_of_step_error (by decide) hsecond)
  obtain ⟨hviable, -⟩ := hfails _ _ hrun
  obtain ⟨before, p, after, hpieces, hcount, hbefore, -⟩ := hviable rfl
  have htags : (step (step f).2).2.tags = 3 := rfl
  have hcontent : (step (step f).2).2.sink.content = ['<', 'r', '/', '>', '\n'] := rfl
  rw [htags] at hcount
  rw [hcontent] at hbefore
  exact ⟨before, p, after, hpieces, by omega, hbefore⟩

end Reindent
