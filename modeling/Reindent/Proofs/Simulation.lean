-- SUMMARY: A formatter does, step by step, what the layout of its text says.
import Reindent.Formatter.Run
import Reindent.Proofs.Delivery
import Reindent.Proofs.Layout

/-! # Formatters and layouts

A formatter stands at a stage if its cursor shows the pieces that the stage has in front of it and its
stack, held tag and place are those of the stage. From there a step of the formatter does what
`Stage.next` says, and writes the lines of that step at once.

The cursor skips the blanks behind a tag when it has read the tag, and a stage does not. So the text
behind a tag comes in two parts here: the blanks that were skipped, and the text shown. -/

namespace Reindent

/-! ## Reading tags -/

namespace Formatter

theorem reading_eq {α : Type} {move : Attempt Cursor α} {f : Formatter} {r : Except Failure α}
    {c : Cursor} (h : move f.cursor = (r, c)) : reading move f = (r, { f with cursor := c }) := by
  simp only [reading, h]

theorem takeTag_eq (f : Formatter) (line : Nat) :
    takeTag line f =
      ((Tag.ofToken f.cursor.token (f.location (some line))
          (f.cursor.firstBreak.map Int.ofNat)).mapError .document,
        { f with
          cursor := { f.cursor with token := [], firstBreak := none }
          tags := f.tags + 1 }) :=
  rfl

/-- The token that a cursor has gathered at the `>` of a tag. -/
theorem token_of_body (body : Text) :
    Text.unbroken ('<' :: body) ++ ['>'] = Text.unbroken ('<' :: body ++ ['>']) := by
  simp [Text.unbroken, Text.isBreak]

theorem breakOffset?_of_body (body : Text) :
    Text.breakOffset? ('<' :: body) = Text.breakOffset? ('<' :: body ++ ['>']) := by
  have hnone : [('>' : Char)].findIdx? Text.isBreak = none := rfl
  simp only [Text.breakOffset?, List.findIdx?_append, hnone, Option.map_none, Option.or_none]

variable {f : Formatter} {body rest gap : Text}

theorem readTag_eq (hshows : f.cursor.feed.Shows ('<' :: (body ++ '>' :: rest)))
    (hbody : '>' ∉ body) (htoken : f.cursor.token = []) (hbreak : f.cursor.firstBreak = none) :
    ∃ feed : Feed, feed.Shows (rest.dropWhile Text.isBlank) ∧
      readTag f =
        ((Tag.ofToken (Text.unbroken ('<' :: body ++ ['>']))
            (f.location (some (f.cursor.place.pass ('<' :: body)).line))
            ((Text.breakOffset? ('<' :: body ++ ['>'])).map Int.ofNat)).mapError .document,
          { f with
            cursor :=
              { feed
                place := (f.cursor.place.pass ('<' :: body ++ ['>'])).pass
                  (rest.takeWhile Text.isBlank)
                file := f.cursor.file }
            tags := f.tags + 1 }) := by
  have hfree : '>' ∉ '<' :: body := by simp [hbody]
  obtain ⟨feed₁, hfeed₁, hscan⟩ := Cursor.scanTo_eq hshows '>'
  rw [← List.cons_append, Text.dropWhile_ne_append hfree] at hfeed₁ hscan
  rw [Text.takeWhile_ne_append hfree, if_neg (List.cons_ne_nil _ _)] at hscan
  obtain ⟨feed₂, hfeed₂, hadvance⟩ := Cursor.advance_eq
    (c := { f.cursor.absorb ('<' :: body) with feed := feed₁ }) hfeed₁ true
  refine ⟨feed₂, by simpa using hfeed₂, ?_⟩
  unfold readTag
  rw [Attempt.bind_ok (reading_eq hscan), Attempt.state_bind, Attempt.bind_ok (reading_eq hadvance)]
  simp only [takeTag_eq, Cursor.absorb_of_fresh htoken hbreak, token_of_body, breakOffset?_of_body,
    Place.pass_append, Bool.true_and]
  rfl

theorem readTag_error (hshows : f.cursor.feed.Shows ('<' :: rest)) (hrest : '>' ∉ rest) :
    ∃ g, readTag f =
      (.error (.malformed (.endOfInput ['>'])
        ⟨some (f.cursor.place.pass ('<' :: rest)).line, f.cursor.file⟩), g) ∧ g.sink = f.sink := by
  have hfree : '>' ∉ '<' :: rest := by simp [hrest]
  obtain ⟨feed, -, hscan⟩ := Cursor.scanTo_eq hshows '>'
  have hnil := Text.dropWhile_ne_eq_nil_iff.2 hfree
  have hall := List.takeWhile_eq_self_iff.2 (List.dropWhile_eq_nil_iff.1 hnil)
  rw [if_pos hnil, hall] at hscan
  exact ⟨_, Attempt.bind_error (reading_eq hscan), rfl⟩

/-- The cursor at the next `<`, with the text in front of it as its token. -/
theorem scanTo_tag_eq (hshows : f.cursor.feed.Shows (gap ++ '<' :: rest)) (hgap : '<' ∉ gap)
    (htoken : f.cursor.token = []) (hbreak : f.cursor.firstBreak = none) :
    ∃ feed : Feed, feed.Shows ('<' :: rest) ∧
      reading (Cursor.scanTo ['<']) f =
        (.ok (),
          { f with
            cursor :=
              { feed
                token := gap.unbroken
                firstBreak := gap.breakOffset?
                place := f.cursor.place.pass gap
                file := f.cursor.file } }) := by
  obtain ⟨feed, hfeed, hscan⟩ := Cursor.scanTo_eq hshows '<'
  rw [Text.dropWhile_ne_append hgap] at hfeed hscan
  rw [Text.takeWhile_ne_append hgap, if_neg (List.cons_ne_nil _ _),
    Cursor.absorb_of_fresh htoken hbreak] at hscan
  exact ⟨feed, hfeed, reading_eq hscan⟩

theorem scanTo_tag_error (hshows : f.cursor.feed.Shows rest) (hrest : '<' ∉ rest) :
    ∃ g, reading (Cursor.scanTo ['<']) f =
      (.error (.malformed (.endOfInput ['<'])
        ⟨some (f.cursor.place.pass rest).line, f.cursor.file⟩), g) ∧ g.sink = f.sink := by
  obtain ⟨feed, -, hscan⟩ := Cursor.scanTo_eq hshows '<'
  have hnil := Text.dropWhile_ne_eq_nil_iff.2 hrest
  have hall := List.takeWhile_eq_self_iff.2 (List.dropWhile_eq_nil_iff.1 hnil)
  rw [if_pos hnil, hall] at hscan
  exact ⟨_, reading_eq hscan, rfl⟩

end Formatter

/-! ## Views -/

/-- What a formatter has done and what it has in front of it, in the terms of a layout. -/
structure View where
  settings : Settings
  /-- The texts written so far. -/
  written : List Text := []
  stage : Stage
  /-- The lines laid out and not yet written. -/
  lines : List Line := []
  /-- The text passed since the place of the stage. -/
  passed : Text := []
  shown : Text

/-- The view with `rest` ahead, after the blanks at its start are skipped. -/
def View.facing (v : View) (rest : Text) : View :=
  { v with passed := rest.takeWhile Text.isBlank, shown := rest.dropWhile Text.isBlank }

/-- The view behind the tag of a piece. -/
def View.behind (v : View) (p : Piece) (rest : Text) : View :=
  { v with stage := v.stage.behind p }.facing rest

/-- The tag that a stage holds back, as a formatter holds it. -/
def Stage.heldTag (s : Stage) : Option HeldTag :=
  match s.held, s.opened with
  | true, tag :: outer => some ⟨tag, outer.length⟩
  | _, _ => none

theorem Stage.held_cases (s : Stage) :
    (∃ tag outer, s.held = true ∧ s.opened = tag :: outer ∧ s.heldTag = some ⟨tag, outer.length⟩ ∧
      s.heldLines = [⟨outer.length, tag.text, [], []⟩]) ∨
    (s.heldTag = none ∧ s.heldLines = []) := by
  unfold heldTag heldLines
  cases s.held with
  | false => exact .inr ⟨rfl, rfl⟩
  | true =>
    cases s.opened with
    | nil => exact .inr ⟨rfl, rfl⟩
    | cons tag outer => exact .inl ⟨tag, outer, rfl, rfl, rfl, rfl⟩

namespace Formatter

/-- The formatter stands where the view says. Nothing that it writes is refused. -/
structure At (f : Formatter) (v : View) : Prop where
  settings : f.settings = v.settings
  written : f.sink.written = v.written
  accepts : ∀ call t, f.sink.refuses call t = none
  shows : f.cursor.feed.Shows v.shown
  place : f.cursor.place = v.stage.place.pass v.passed
  token : f.cursor.token = []
  firstBreak : f.cursor.firstBreak = none
  file : f.cursor.file = v.stage.file
  stack : f.stack = v.stage.opened
  held : f.held = v.stage.heldTag
  out : Line.layOutAll v.settings v.lines = .ok f.out.build
  out_isEmpty : f.out.isEmpty = v.lines.isEmpty

variable {f : Formatter} {v : View} {p : Piece} {rest : Text}

theorem readTag_of_piece (h : f.At v) (hpassed : v.passed = p.gap)
    (hshown : v.shown = '<' :: (p.body ++ '>' :: rest)) :
    ∃ g, readTag f = ((v.stage.tagOf p).mapError .document, g) ∧ g.At (v.behind p rest) := by
  obtain ⟨feed, hfeed, hread⟩ := readTag_eq (hshown ▸ h.shows) p.body_free h.token h.firstBreak
  have htag : Tag.ofToken (Text.unbroken ('<' :: p.body ++ ['>']))
      (f.location (some (f.cursor.place.pass ('<' :: p.body)).line))
      ((Text.breakOffset? ('<' :: p.body ++ ['>'])).map Int.ofNat) = v.stage.tagOf p := by
    rw [location, h.file, h.place, hpassed, ← Place.pass_append]
    rfl
  have hplace : (f.cursor.place.pass ('<' :: p.body ++ ['>'])) = (v.stage.behind p).place := by
    rw [h.place, hpassed, ← Place.pass_append]
    rfl
  rw [htag] at hread
  refine ⟨_, hread, { h with shows := hfeed, place := ?_, token := rfl, firstBreak := rfl }⟩
  rw [hplace]
  rfl

/-- What was skipped in front of a tag is part of the text in front of it. -/
theorem gap_of_skipped {skipped shown gap : Text} (hskipped : '<' ∉ skipped)
    (h : skipped ++ shown = gap ++ '<' :: rest) :
    ∃ others, gap = skipped ++ others ∧ shown = others ++ '<' :: rest := by
  rcases List.append_eq_append_iff.1 h with ⟨others, hgap, hshown⟩ | ⟨extra, hextra, heq⟩
  · exact ⟨others, hgap, hshown⟩
  · cases extra with
    | nil =>
      rw [List.nil_append] at heq
      exact ⟨[], by simpa using hextra.symm, heq.symm⟩
    | cons c extra =>
      rw [List.cons_append, List.cons.injEq] at heq
      rw [hextra, ← heq.1] at hskipped
      exact absurd (by simp) hskipped

/-- Goes to the next `<`. The token taken there is the text in front of it, less its line breaks and
    the blanks that were skipped. -/
theorem scanTo_of_gap {gap : Text} (h : f.At v) (hgap : '<' ∉ gap) (hpassed : '<' ∉ v.passed)
    (heq : v.passed ++ v.shown = gap ++ '<' :: rest) :
    ∃ others g g', gap = v.passed ++ others ∧ reading (Cursor.scanTo ['<']) f = (.ok (), g) ∧
      reading Cursor.takeToken g = (.ok others.unbroken, g') ∧
      g'.At { v with passed := gap, shown := '<' :: rest } := by
  obtain ⟨others, rfl, hshown⟩ := gap_of_skipped hpassed heq
  have hfree : '<' ∉ others := fun hmem => hgap (by simp [hmem])
  obtain ⟨feed, hfeed, hscan⟩ :=
    scanTo_tag_eq (hshown ▸ h.shows) hfree h.token h.firstBreak
  refine ⟨others, _, _, rfl, hscan, rfl, ?_⟩
  have hplace : f.cursor.place.pass others = v.stage.place.pass (v.passed ++ others) := by
    rw [h.place, Place.pass_append]
  exact { h with shows := hfeed, place := hplace, token := rfl, firstBreak := rfl }

theorem nextTag_of_piece (h : f.At v) (hpassed : '<' ∉ v.passed)
    (hp : v.passed ++ v.shown = p.text ++ rest) :
    ∃ g, nextTag f = ((v.stage.tagOf p).mapError .document, g) ∧ g.At (v.behind p rest) := by
  rw [Piece.text_eq] at hp
  obtain ⟨_, f₁, f₂, -, hscan, htake, h₂⟩ := scanTo_of_gap h p.gap_free hpassed hp
  obtain ⟨g, hread, hg⟩ := readTag_of_piece h₂ rfl rfl
  refine ⟨g, ?_, hg⟩
  unfold nextTag
  rw [Attempt.bind_ok hscan, Attempt.bind_ok htake]
  exact hread

/-! ## Texts that end without a tag -/

/-- An unfinished text has no `<`, or one that is not closed. -/
theorem cut_of_unfinished {t : Text} (h : t.Unfinished) (hmem : '<' ∈ t) :
    ∃ gap inside, t = gap ++ '<' :: inside ∧ '<' ∉ gap ∧ '>' ∉ inside := by
  have hne : t.dropWhile (· != '<') ≠ [] := fun hnil => Text.dropWhile_ne_eq_nil_iff.1 hnil hmem
  obtain ⟨c, inside, hdrop⟩ := List.exists_cons_of_ne_nil hne
  have heq := (Text.eq_of_dropWhile_ne hdrop).2
  exact ⟨_, inside, heq, Text.not_mem_takeWhile_ne _ _, h _ _ heq⟩

variable {tail : Text}

/-- Without a `<` in front of it the formatter finds no tag. -/
theorem scanTo_of_tail (h : f.At v) (htail : v.passed ++ v.shown = tail) (hmem : '<' ∉ tail) :
    ∃ g, reading (Cursor.scanTo ['<']) f = (.error (.document (v.stage.cutShort tail)), g) ∧
      g.sink.written = v.written := by
  have hshown : '<' ∉ v.shown := fun hmem' => hmem (by simp [← htail, hmem'])
  obtain ⟨g, hscan, hsink⟩ := scanTo_tag_error h.shows hshown
  refine ⟨g, ?_, hsink ▸ h.written⟩
  rw [hscan, Stage.cutShort, if_neg hmem, Stage.location, ← htail, Place.pass_append, h.place, h.file]
  rfl

/-- Behind a `<` that is not closed the formatter finds no tag. -/
theorem readTag_of_tail {inside : Text} (h : f.At v) (hshown : v.shown = '<' :: inside)
    (hinside : '>' ∉ inside) :
    ∃ g, readTag f = (.error (.document (v.stage.cutShort (v.passed ++ '<' :: inside))), g) ∧
      g.sink.written = v.written := by
  obtain ⟨g, hread, hsink⟩ := readTag_error (hshown ▸ h.shows) hinside
  refine ⟨g, ?_, hsink ▸ h.written⟩
  rw [hread, Stage.cutShort, if_pos (by simp), Stage.location, Place.pass_append, h.place, h.file]
  rfl

theorem nextTag_of_tail (h : f.At v) (hpassed : '<' ∉ v.passed) (hunfinished : tail.Unfinished)
    (htail : v.passed ++ v.shown = tail) :
    ∃ g, nextTag f = (.error (.document (v.stage.cutShort tail)), g) ∧
      g.sink.written = v.written := by
  unfold nextTag
  by_cases hmem : '<' ∈ tail
  · obtain ⟨gap, inside, rfl, hgap, hinside⟩ := cut_of_unfinished hunfinished hmem
    obtain ⟨_, f₁, f₂, -, hscan, htake, h₂⟩ := scanTo_of_gap h hgap hpassed htail
    rw [Attempt.bind_ok hscan, Attempt.bind_ok htake]
    exact readTag_of_tail h₂ rfl hinside
  · obtain ⟨g, hscan, hg⟩ := scanTo_of_tail h htail hmem
    exact ⟨g, Attempt.bind_error hscan, hg⟩

/-! ## Writing lines -/

theorem At.emit {l : Line} {t : Text} (h : f.At v) (hl : l.layOut v.settings = .ok t) :
    ∃ g, Formatter.emit t f = (.ok (), g) ∧ g.At { v with lines := v.lines ++ [l] } := by
  refine ⟨_, rfl, { h with out := ?_, out_isEmpty := ?_ }⟩
  · refine Line.layOutAll_append_eq_ok_iff.2 ⟨_, t ++ ['\n'], h.out, ?_, by simp⟩
    exact Line.layOutAll_cons_eq_ok_iff.2 ⟨t, [], hl, rfl, rfl⟩
  · have hout : (f.out.appendLine t).isEmpty = false := by simp [Builder.isEmpty, Builder.appendLine]
    exact hout.trans (by simp)

theorem At.emitTag (h : f.At v) (tag : Tag) :
    ∃ g, Formatter.emitTag tag f = (.ok (), g) ∧
      g.At { v with lines := v.lines ++ [⟨v.stage.depth, tag.text, [], []⟩] } := by
  have hdepth : f.depth = v.stage.depth := by rw [depth, h.stack, Stage.depth]
  obtain ⟨g, hemit, hg⟩ := h.emit (Line.layOut_of_tag v.settings v.stage.depth tag.text)
  refine ⟨g, ?_, hg⟩
  unfold Formatter.emitTag
  rw [Attempt.state_bind, h.settings, hdepth]
  exact hemit

theorem At.release (h : f.At v) :
    ∃ g, Formatter.release f = (.ok (), g) ∧
      g.At { v with
        stage := { v.stage with held := false }
        lines := v.lines ++ v.stage.heldLines } := by
  unfold Formatter.release
  rw [Attempt.state_bind, h.held]
  obtain ⟨tag, outer, -, -, htag, hlines⟩ | ⟨htag, hlines⟩ := v.stage.held_cases
  · obtain ⟨g, hemit, hg⟩ := h.emit (Line.layOut_of_tag v.settings outer.length tag.text)
    rw [htag, hlines]
    refine ⟨{ g with held := none }, ?_, { hg with held := rfl }⟩
    simp only [HeldTag.line, h.settings]
    rw [Attempt.bind_ok hemit]
    rfl
  · rw [htag, hlines, List.append_nil]
    exact ⟨f, rfl, { h with held := h.held.trans htag }⟩

theorem At.flush (h : f.At v) :
    ∃ out g, Line.layOutAll v.settings v.lines = .ok out ∧ Formatter.flush f = (.ok (), g) ∧
      g.At { v with
        lines := []
        written := v.written ++ if v.lines = [] then [] else [out] } := by
  refine ⟨f.out.build, ?_⟩
  unfold Formatter.flush
  rw [h.out_isEmpty]
  by_cases hlines : v.lines = []
  · have hempty := h.out_isEmpty
    have hbuilt := h.out
    rw [hlines] at hempty hbuilt
    simp only [hlines, List.isEmpty_nil, if_true, List.append_nil]
    exact ⟨f, hbuilt, rfl, { h with out := hbuilt, out_isEmpty := hempty }⟩
  · simp only [List.isEmpty_iff, hlines, if_false, Sink.write, h.accepts]
    refine ⟨_, h.out, rfl, { h with written := ?_, out := rfl, out_isEmpty := rfl }⟩
    rw [← h.written]
    simp [Sink.written]

/-! ## Elements -/

variable {tag : Tag} {e : DocumentError} {lines : List Line} {t : Stage}

theorem expectClosed_of_closedBy {close : Tag} (h : tag.closedBy close = true) (f : Formatter) :
    expectClosed tag close f = (.ok (), f) := by
  simp only [expectClosed, Attempt.state_bind, if_pos h, Attempt.pure_apply]

theorem expectClosed_of_not_closedBy {close : Tag} (h : ¬ tag.closedBy close = true) (f : Formatter) :
    expectClosed tag close f =
      (.error (.mismatch tag.text close.text (f.location close.line)), f) := by
  simp only [expectClosed, Attempt.state_bind, if_neg h]
  rfl

/-- Only a closing tag of its name is fused with the tag that is held back. -/
theorem At.emitEnd {innermost : Tag} {outer : List Tag} (h : f.At v) (hkind : tag.kind = .closing)
    (hopened : v.stage.opened = innermost :: outer) (hclosed : innermost.closedBy tag = true) :
    ∃ g, Formatter.emitEnd tag { f with stack := outer } = (.ok (), g) ∧
      g.At { v with
        stage := { v.stage with opened := outer, held := false }
        lines := v.lines ++ [⟨outer.length,
          if v.stage.held then innermost.text.dropLast ++ ['/', '>'] else tag.text, [], []⟩] } := by
  have hf : At { f with stack := outer, held := none }
      { v with stage := { v.stage with opened := outer, held := false } } :=
    { h with stack := rfl, held := rfl }
  unfold Formatter.emitEnd
  rw [Attempt.state_bind]
  cases hheld : v.stage.held with
  | true =>
    have hfuse : HeldTag.fuse? f.held tag f.settings =
        some (v.settings.indentation outer.length ++ (innermost.text.dropLast ++ ['/', '>'])) := by
      simp [h.held, h.settings, Stage.heldTag, hheld, hopened, HeldTag.fuse?, hkind, hclosed,
        HeldTag.fusedLine]
    simp only [hfuse, if_true]
    exact hf.emit (Line.layOut_of_tag _ _ _)
  | false =>
    have hnone : f.held = none := by simp [h.held, Stage.heldTag, hheld]
    obtain ⟨f₁, hrelease, h₁⟩ := hf.release
    obtain ⟨g, hemit, hg⟩ := h₁.emitTag tag
    refine ⟨g, ?_, by simpa [Stage.heldLines, Stage.depth] using hg⟩
    simp only [hnone, HeldTag.fuse?]
    rw [Attempt.bind_ok hrelease]
    exact hemit

theorem At.closeElement (h : f.At v) (hlines : v.lines = []) (hkind : tag.kind = .closing)
    (hclose : v.stage.close tag = .ok (lines, t)) :
    ∃ out g, Line.layOutAll v.settings lines = .ok out ∧
      Formatter.closeElement tag f = (.ok (), g) ∧
      g.At { v with
        stage := t
        lines := []
        written := v.written ++ if lines = [] then [] else [out] } := by
  obtain ⟨innermost, outer, hopened, hclosed, rfl, rfl⟩ := Stage.of_close_eq_ok hclose
  obtain ⟨f₁, hend, h₁⟩ := h.emitEnd hkind hopened hclosed
  rw [hlines, List.nil_append] at h₁
  obtain ⟨out, g, hout, hflush, hg⟩ := h₁.flush
  refine ⟨out, g, hout, ?_, hg⟩
  unfold Formatter.closeElement
  rw [Attempt.state_bind, h.stack, hopened]
  simp only [Attempt.update_bind]
  rw [Attempt.bind_ok (expectClosed_of_closedBy hclosed _), Attempt.bind_ok hend]
  exact hflush

theorem At.closeElement_error (h : f.At v) (hclose : v.stage.close tag = .error e) :
    ∃ g, Formatter.closeElement tag f = (.error (.document e), g) ∧
      g.sink.written = v.written := by
  unfold Stage.close at hclose
  unfold Formatter.closeElement
  rw [Attempt.state_bind, h.stack]
  cases hopened : v.stage.opened with
  | nil =>
    simp only [hopened, Except.error.injEq] at hclose
    refine ⟨f, ?_, h.written⟩
    rw [← hclose, ← h.file]
    rfl
  | cons innermost outer =>
    simp only [hopened] at hclose
    split at hclose
    · cases hclose
    · rename_i hclosed
      cases hclose
      refine ⟨{ f with stack := outer }, ?_, h.written⟩
      simp only [Attempt.update_bind]
      rw [Attempt.bind_error (expectClosed_of_not_closedBy hclosed _), ← h.file]
      rfl

/-- A tag that stands alone is laid out behind the tag held back. -/
theorem At.standalone (h : f.At v) (hlines : v.lines = []) (tag : Tag) :
    ∃ out g, Line.layOutAll v.settings
        (v.stage.heldLines ++ [⟨v.stage.depth, tag.text, [], []⟩]) = .ok out ∧
      Formatter.standalone tag f = (.ok (), g) ∧
      g.At { v with
        stage := { v.stage with held := false }
        lines := []
        written := v.written ++
          if v.stage.heldLines ++ [⟨v.stage.depth, tag.text, [], []⟩] = [] then [] else [out] } := by
  obtain ⟨f₁, hrelease, h₁⟩ := h.release
  obtain ⟨f₂, hemit, h₂⟩ := h₁.emitTag tag
  rw [hlines, List.nil_append] at h₂
  obtain ⟨out, g, hout, hflush, hg⟩ := h₂.flush
  refine ⟨out, g, hout, ?_, hg⟩
  unfold Formatter.standalone
  rw [Attempt.bind_ok hrelease, Attempt.bind_ok hemit]
  exact hflush

/-! ## Elements that hold text -/

/-- What is done about an element with the text `text` once its text is resolved. -/
def leafEnd (settings : Settings) (tag : Tag) (depth : Nat) (text : Text) :
    Attempt Formatter Unit := do
  let close ← readTag
  expectTextClosed tag close
  Attempt.update fun f => { f with stack := f.stack.tail }
  emit (settings.indentation depth ++ tag.text ++ text ++ close.text)

/-- The text is resolved when it is known to end, before the tag behind it is read. -/
theorem At.leaf_of_gap {gap : Text} (h : f.At v) (hpassed : v.passed.AllBlank) (hgap : '<' ∉ gap)
    (heq : v.passed ++ v.shown = gap ++ '<' :: rest) (tag : Tag) (depth : Nat) :
    ∃ g, g.At { v with passed := gap, shown := '<' :: rest } ∧
      (∀ e, resolved v.settings gap.unbroken.strip = .error e → leaf tag depth f = (.error e, g)) ∧
      ∀ text, resolved v.settings gap.unbroken.strip = .ok text →
        leaf tag depth f = leafEnd v.settings tag depth text g := by
  obtain ⟨others, f₁, g, hothers, hscan, htake, hg⟩ :=
    scanTo_of_gap h hgap (hpassed.not_mem (by decide)) heq
  have hstrip : others.unbroken.strip = gap.unbroken.strip := by
    rw [hothers, Text.unbroken_append, Text.strip_append_of_allBlank hpassed.unbroken]
  unfold leaf
  rw [Attempt.bind_ok hscan, Attempt.bind_ok htake, Attempt.state_bind, hg.settings, hstrip]
  refine ⟨g, hg, fun e he => ?_, fun text htext => ?_⟩
  · rw [he]
    rfl
  · rw [htext]
    rfl

/-- The view at the `<` behind the text of an element, which stage `s` had in front of it. -/
def textView (v : View) (s : Stage) (tag : Tag) (p : Piece) (rest : Text) : View :=
  { v with
    stage := { s with opened := tag :: s.opened, held := false }
    passed := p.gap
    shown := '<' :: (p.body ++ '>' :: rest) }

theorem At.leafEnd {s : Stage} {close : Tag} {text : Text} (h : f.At (textView v s tag p rest))
    (hclose : s.tagOf p = .ok close) (hkind : close.kind = .closing)
    (hclosed : tag.closedBy close = true)
    (htext : resolved v.settings p.gap.unbroken.strip = .ok text) :
    ∃ g, Formatter.leafEnd v.settings tag s.depth text f = (.ok (), g) ∧
      g.At (View.facing { v with
        stage := { s.behind p with held := false }
        lines := v.lines ++ [⟨s.depth, tag.text, p.gap.unbroken.strip, close.text⟩] } rest) := by
  obtain ⟨f₁, hread, h₁⟩ := readTag_of_piece h rfl rfl
  have hread : readTag f = (.ok close, f₁) := by
    rw [hread, show (textView v s tag p rest).stage.tagOf p = .ok close from hclose]
    rfl
  have hexpect : expectTextClosed tag close f₁ = (.ok (), f₁) := by
    simp only [expectTextClosed, Attempt.state_bind, if_pos hkind]
    exact expectClosed_of_closedBy hclosed f₁
  have h₂ : At { f₁ with stack := f₁.stack.tail }
      (View.facing { v with stage := { s.behind p with held := false } } rest) :=
    { h₁ with stack := congrArg List.tail h₁.stack }
  have hline : Line.layOut v.settings ⟨s.depth, tag.text, p.gap.unbroken.strip, close.text⟩ =
      .ok (v.settings.indentation s.depth ++ tag.text ++ text ++ close.text) :=
    Line.layOut_of_resolved htext
  obtain ⟨g, hemit, hg⟩ := h₂.emit hline
  refine ⟨g, ?_, hg⟩
  unfold Formatter.leafEnd
  rw [Attempt.bind_ok hread, Attempt.bind_ok hexpect]
  exact hemit

theorem At.leafEnd_error {s : Stage} (h : f.At (textView v s tag p rest))
    (hleaf : s.leaf tag p = .error e) (text : Text) :
    ∃ g, Formatter.leafEnd v.settings tag s.depth text f = (.error (.document e), g) ∧
      g.sink.written = v.written := by
  obtain ⟨f₁, hread, h₁⟩ := readTag_of_piece h rfl rfl
  have hread : readTag f = ((s.tagOf p).mapError .document, f₁) := hread
  have hfile : f₁.cursor.file = s.file := h₁.file
  unfold Stage.leaf at hleaf
  unfold Formatter.leafEnd
  cases hclose : s.tagOf p with
  | error e' =>
    simp only [hclose, Except.error.injEq] at hleaf hread
    subst hleaf
    exact ⟨f₁, Attempt.bind_error hread, h₁.written⟩
  | ok close =>
    simp only [hclose] at hleaf hread
    rw [Attempt.bind_ok hread]
    refine ⟨f₁, Attempt.bind_error ?_, h₁.written⟩
    simp only [expectTextClosed, Attempt.state_bind]
    by_cases hkind : close.kind = .closing
    · rw [if_pos hkind]
      rw [if_neg (not_not.2 hkind)] at hleaf
      split at hleaf
      · cases hleaf
      · rename_i hclosed
        cases hleaf
        rw [expectClosed_of_not_closedBy hclosed, location, hfile]
        rfl
    · rw [if_neg hkind]
      rw [if_pos hkind] at hleaf
      cases hleaf
      rw [location, hfile]
      rfl

/-! ## Outcomes -/

variable {ps : List Piece} {settings : Settings} {written : List Text} {s : Stage}

/-- A formatter at a stage, with some pieces and a tail ahead. The blanks behind a tag have been
    skipped, so that nothing is left to read if they are all that follows. -/
structure Stands (f : Formatter) (settings : Settings) (written : List Text) (s : Stage)
    (ps : List Piece) (tail : Text) : Prop where
  ahead : ∃ passed shown, f.At { settings, written, stage := s, passed, shown } ∧
    passed.AllBlank ∧ passed ++ shown = ps.flatMap Piece.text ++ tail ∧
    (ps = [] → tail.AllBlank → shown = [])

theorem stands_of_facing
    (h : f.At (View.facing { settings, written, stage := s, shown := [] }
      (ps.flatMap Piece.text ++ tail))) : f.Stands settings written s ps tail := by
  refine ⟨_, _, h, Text.allBlank_takeWhile _, List.takeWhile_append_dropWhile, ?_⟩
  rintro rfl htail
  exact Text.allBlank_iff_dropWhile.1 htail

/-- What a step of the formatter comes to, by what the layout says of it. -/
inductive Outcome (settings : Settings) (written : List Text) (tail : Text) :
    Except DocumentError (List Line × Stage × List Piece) → Except Failure Unit × Formatter → Prop
    where
  | settled {lines : List Line} {t : Stage} {rest : List Piece} {out : Text} {g : Formatter}
      (hout : Line.layOutAll settings lines = .ok out)
      (hg : g.Stands settings (written ++ if lines = [] then [] else [out]) t rest tail) :
      Outcome settings written tail (.ok (lines, t, rest)) (.ok (), g)
  | unresolved {lines : List Line} {t : Stage} {rest : List Piece} {failure : Failure}
      {g : Formatter} (hout : Line.layOutAll settings lines = .error failure)
      (hg : g.sink.written = written) :
      Outcome settings written tail (.ok (lines, t, rest)) (.error failure, g)
  | refused {e : DocumentError} {failure : Failure} {g : Formatter}
      (hfailure : failure = .document e ∨ ∃ text, resolved settings text = .error failure)
      (hg : g.sink.written = written) :
      Outcome settings written tail (.error e) (.error failure, g)

/-! ## Opening tags -/

/-- The line of a held tag is always laid out. -/
theorem exists_layOutAll_heldLines (settings : Settings) (s : Stage) :
    ∃ out, Line.layOutAll settings s.heldLines = .ok out := by
  obtain ⟨tag, outer, -, -, -, hlines⟩ | ⟨-, hlines⟩ := s.held_cases
  · rw [hlines]
    exact ⟨_, Line.layOutAll_cons_eq_ok_iff.2 ⟨_, [], Line.layOut_of_tag _ _ _, rfl, rfl⟩⟩
  · exact ⟨[], by rw [hlines]; rfl⟩

/-- The tag is pushed after the tag held back is laid out. -/
theorem openElement_eq (h : f.At v) (hlines : v.lines = []) (tag : Tag) :
    ∃ g, openElement tag f = (holdOrRead tag v.stage.depth >>= fun _ => flush) g ∧
      g.At { v with
        stage := { v.stage with opened := tag :: v.stage.opened, held := false }
        lines := v.stage.heldLines } := by
  obtain ⟨f₁, hrelease, h₁⟩ := h.release
  rw [hlines, List.nil_append] at h₁
  have hdepth : f₁.depth = v.stage.depth := by rw [depth, h₁.stack, Stage.depth]
  refine ⟨{ f₁ with stack := tag :: f₁.stack }, ?_, { h₁ with stack := congrArg _ h₁.stack }⟩
  unfold openElement
  rw [Attempt.bind_ok hrelease, Attempt.state_bind, Attempt.update_bind, hdepth]

theorem holdOrRead_of_peek (h : f.At v) (tag : Tag) (depth : Nat) :
    holdOrRead tag depth f =
      if v.shown.head? = some '<' then (.ok (), { f with held := some ⟨tag, depth⟩ })
      else leaf tag depth f := by
  unfold holdOrRead
  rw [Attempt.state_bind, Cursor.peek_eq h.shows,
    Attempt.bind_ok (x := Attempt.lift _) (s := f) rfl]
  by_cases hpeek : v.shown.head? = some '<'
  · rw [if_pos hpeek, hpeek]
    rfl
  · rw [if_neg hpeek]
    refine congrFun ?_ f
    split
    · rename_i hpeek'
      exact absurd hpeek' hpeek
    · rfl

/-- The tag is held back if another tag is next. -/
theorem outcome_hold (h : f.At (v.facing (ps.flatMap Piece.text ++ tail))) (hlines : v.lines = [])
    (hnext : Stage.tagNext ps tail) :
    Outcome v.settings v.written tail
      (.ok (v.stage.heldLines, { v.stage with opened := tag :: v.stage.opened, held := true }, ps))
      (openElement tag f) := by
  obtain ⟨f₁, heq, h₁⟩ := openElement_eq h hlines tag
  have h₂ : At { f₁ with held := some ⟨tag, v.stage.depth⟩ }
      (View.facing { v with
        stage := { v.stage with opened := tag :: v.stage.opened, held := true }
        lines := v.stage.heldLines } (ps.flatMap Piece.text ++ tail)) :=
    { h₁ with held := rfl }
  obtain ⟨out, g, hout, hflush, hg⟩ := h₂.flush
  have hopen : openElement tag f = (.ok (), g) := by
    rw [heq, Attempt.bind_ok ((holdOrRead_of_peek h₁ tag _).trans (if_pos hnext))]
    exact hflush
  rw [hopen]
  exact .settled hout (stands_of_facing hg)

/-- The element holds text if no tag is next. -/
theorem openElement_of_text {t : Text} (h : f.At (v.facing t)) (hlines : v.lines = [])
    (hnext : ¬ (t.dropWhile Text.isBlank).head? = some '<') (tag : Tag) :
    ∃ g, openElement tag f = (leaf tag v.stage.depth >>= fun _ => flush) g ∧
      g.At (View.facing { v with
        stage := { v.stage with opened := tag :: v.stage.opened, held := false }
        lines := v.stage.heldLines } t) := by
  obtain ⟨g, heq, hg⟩ := openElement_eq h hlines tag
  have hleaf := (holdOrRead_of_peek hg tag v.stage.depth).trans (if_neg hnext)
  exact ⟨g, heq.trans (Attempt.bind_congr _ hleaf), hg⟩

/-- The references in the text of an element are resolved before the tag behind it is read. -/
theorem openElement_of_gap {gap : Text} (h : f.At (v.facing (gap ++ '<' :: rest)))
    (hlines : v.lines = []) (hgap : '<' ∉ gap)
    (hnext : ¬ ((gap ++ '<' :: rest).dropWhile Text.isBlank).head? = some '<') (tag : Tag) :
    ∃ g, g.At { v with
        stage := { v.stage with opened := tag :: v.stage.opened, held := false }
        lines := v.stage.heldLines
        passed := gap
        shown := '<' :: rest } ∧
      (∀ e, resolved v.settings gap.unbroken.strip = .error e → openElement tag f = (.error e, g)) ∧
      ∀ text, resolved v.settings gap.unbroken.strip = .ok text →
        openElement tag f = (leafEnd v.settings tag v.stage.depth text >>= fun _ => flush) g := by
  obtain ⟨f₁, hopen, h₁⟩ := openElement_of_text h hlines hnext tag
  obtain ⟨g, hg, herror, hleaf⟩ := h₁.leaf_of_gap (Text.allBlank_takeWhile _) hgap
    List.takeWhile_append_dropWhile tag v.stage.depth
  refine ⟨g, hg, fun e he => ?_, fun text htext => ?_⟩
  · rw [hopen, Attempt.bind_error (herror e he)]
  · rw [hopen]
    exact Attempt.bind_congr _ (hleaf text htext)

theorem outcome_leaf (h : f.At (v.facing ((p :: ps).flatMap Piece.text ++ tail)))
    (hlines : v.lines = []) (hnext : ¬ Stage.tagNext (p :: ps) tail) (tag : Tag) :
    Outcome v.settings v.written tail ((v.stage.leaf tag p).map fun r => (r.1, r.2, ps))
      (openElement tag f) := by
  rw [Stage.tagNext, Piece.flatMap_text_cons] at hnext
  rw [Piece.flatMap_text_cons] at h
  obtain ⟨f₂, h₂, herror, hleaf⟩ := openElement_of_gap h hlines p.gap_free hnext tag
  cases htext : resolved v.settings p.gap.unbroken.strip with
  | error failure =>
    rw [herror failure htext]
    cases hstage : v.stage.leaf tag p with
    | error e => exact .refused (.inr ⟨_, htext⟩) h₂.written
    | ok r =>
      obtain ⟨close, -, -, -, hr, -⟩ := Stage.of_leaf_eq_ok hstage
      obtain ⟨out, hout⟩ := exists_layOutAll_heldLines v.settings v.stage
      have hline : Line.layOut v.settings
          ⟨v.stage.depth, tag.text, p.gap.unbroken.strip, close.text⟩ = .error failure := by
        simp [Line.layOut, htext, Except.map]
      refine .unresolved ?_ h₂.written
      rw [hr, Line.layOutAll_append, hout]
      simp [Line.layOutAll, hline, Except.map]
  | ok text =>
    cases hstage : v.stage.leaf tag p with
    | error e =>
      obtain ⟨g, hend, hg⟩ :=
        At.leafEnd_error (v := { v with lines := v.stage.heldLines }) h₂ hstage text
      rw [hleaf text htext, Attempt.bind_error hend]
      exact .refused (.inl rfl) hg
    | ok r =>
      obtain ⟨lines, t⟩ := r
      obtain ⟨close, hclose, hkind, hclosed, rfl, rfl⟩ := Stage.of_leaf_eq_ok hstage
      obtain ⟨f₃, hend, h₃⟩ :=
        At.leafEnd (v := { v with lines := v.stage.heldLines }) h₂ hclose hkind hclosed htext
      obtain ⟨out, g, hout, hflush, hg⟩ := h₃.flush
      rw [hleaf text htext, Attempt.bind_ok hend, hflush]
      exact .settled hout (stands_of_facing hg)

/-- The text of an element that is open at the end, without a tag behind it, is not looked at. -/
theorem openElement_of_tail (h : f.At (v.facing tail)) (hlines : v.lines = [])
    (hnext : ¬ Stage.tagNext [] tail) (hmem : '<' ∉ tail) (tag : Tag) :
    ∃ g, openElement tag f = (.error (.document (v.stage.cutShort tail)), g) ∧
      g.sink.written = v.written := by
  obtain ⟨f₁, hopen, h₁⟩ := openElement_of_text h hlines hnext tag
  obtain ⟨g, hscan, hg⟩ := scanTo_of_tail h₁ List.takeWhile_append_dropWhile hmem
  have hleaf : leaf tag v.stage.depth f₁ = (.error (.document (v.stage.cutShort tail)), g) :=
    Attempt.bind_error hscan
  exact ⟨g, by rw [hopen, Attempt.bind_error hleaf], hg⟩

/-- An element that is open at the end of the text. -/
theorem outcome_of_tail (h : f.At (v.facing tail)) (hlines : v.lines = [])
    (hunfinished : tail.Unfinished) (hnext : ¬ Stage.tagNext [] tail) (tag : Tag) :
    Outcome v.settings v.written tail (.error (v.stage.cutShort tail)) (openElement tag f) := by
  by_cases hmem : '<' ∈ tail
  · obtain ⟨gap, inside, rfl, hgap, hinside⟩ := cut_of_unfinished hunfinished hmem
    obtain ⟨f₂, h₂, herror, hleaf⟩ := openElement_of_gap h hlines hgap hnext tag
    cases htext : resolved v.settings gap.unbroken.strip with
    | error failure =>
      rw [herror failure htext]
      exact .refused (.inr ⟨_, htext⟩) h₂.written
    | ok text =>
      obtain ⟨g, hread, hg⟩ := readTag_of_tail h₂ rfl hinside
      have hend : leafEnd v.settings tag v.stage.depth text f₂ = _ := Attempt.bind_error hread
      rw [hleaf text htext, Attempt.bind_error hend]
      exact .refused (.inl rfl) hg
  · obtain ⟨g, hopen, hg⟩ := openElement_of_tail h hlines hnext hmem tag
    rw [hopen]
    exact .refused (.inl rfl) hg

theorem outcome_openElement (h : f.At (v.facing (ps.flatMap Piece.text ++ tail)))
    (hlines : v.lines = []) (hunfinished : tail.Unfinished) (tag : Tag) :
    Outcome v.settings v.written tail (v.stage.openElement tag ps tail) (openElement tag f) := by
  unfold Stage.openElement
  split
  · rename_i hnext
    exact outcome_hold h hlines hnext
  · rename_i hnext
    cases ps with
    | nil => exact outcome_of_tail h hlines hunfinished hnext tag
    | cons p ps =>
      have houtcome := outcome_leaf h hlines hnext tag
      dsimp only
      cases hleaf : v.stage.leaf tag p with
      | error e =>
        rw [hleaf] at houtcome
        exact houtcome
      | ok r =>
        rw [hleaf] at houtcome
        exact houtcome

/-! ## Steps -/

theorem outcome_step (h : f.Stands settings written s (p :: ps) tail)
    (hunfinished : tail.Unfinished) :
    Outcome settings written tail (s.next p ps tail) (step f) := by
  obtain ⟨passed, shown, h, hpassed, htext, -⟩ := h
  rw [List.flatMap_cons, List.append_assoc] at htext
  obtain ⟨f₁, hnext, h₁⟩ := nextTag_of_piece h (hpassed.not_mem (by decide)) htext
  unfold step Stage.next
  cases htag : s.tagOf p with
  | error e =>
    rw [htag] at hnext
    rw [Attempt.bind_error hnext]
    exact .refused (.inl rfl) h₁.written
  | ok tag =>
    rw [htag] at hnext
    rw [Attempt.bind_ok hnext]
    unfold respond
    cases hkind : tag.kind with
    | closing =>
      simp only [hkind]
      cases hclose : (s.behind p).close tag with
      | error e =>
        obtain ⟨g, heq, hg⟩ := h₁.closeElement_error hclose
        rw [heq]
        exact .refused (.inl rfl) hg
      | ok r =>
        obtain ⟨out, g, hout, heq, hg⟩ := h₁.closeElement rfl hkind hclose
        rw [heq]
        exact .settled hout (stands_of_facing hg)
    | selfClosing =>
      obtain ⟨out, g, hout, heq, hg⟩ := h₁.standalone rfl tag
      simp only [hkind]
      rw [heq]
      exact .settled hout (stands_of_facing hg)
    | declaration =>
      obtain ⟨out, g, hout, heq, hg⟩ := h₁.standalone rfl tag
      simp only [hkind]
      rw [heq]
      exact .settled hout (stands_of_facing hg)
    | opening =>
      simp only [hkind]
      exact outcome_openElement h₁ rfl hunfinished tag

/-! ## Runs -/

/-- What a run of the formatter comes to, by the groups of lines and the result that the layout
    gives. -/
inductive RunOutcome (settings : Settings) (written : List Text) :
    List (List Line) × Except DocumentError Unit → Except Failure Unit × Formatter → Prop where
  | done {groups : List (List Line)} {ts : List Text} {g : Formatter}
      (hts : Line.writes settings groups = .ok ts) (hg : g.sink.written = written ++ ts) :
      RunOutcome settings written (groups, .ok ()) (.ok (), g)
  | refused {groups : List (List Line)} {ts : List Text} {e : DocumentError} {failure : Failure}
      {g : Formatter} (hts : Line.writes settings groups = .ok ts)
      (hfailure : failure = .document e ∨ ∃ text, resolved settings text = .error failure)
      (hg : g.sink.written = written ++ ts) :
      RunOutcome settings written (groups, .error e) (.error failure, g)
  | unresolved {groups : List (List Line)} {result : Except DocumentError Unit}
      {failure : Failure} {g : Formatter} (hts : Line.writes settings groups = .error failure) :
      RunOutcome settings written (groups, result) (.error failure, g)

/-- A step in front of a run. -/
theorem RunOutcome.cons {lines : List Line} {out : Text}
    {run : List (List Line) × Except DocumentError Unit} {r : Except Failure Unit × Formatter}
    (hout : Line.layOutAll settings lines = .ok out)
    (h : RunOutcome settings (written ++ if lines = [] then [] else [out]) run r) :
    RunOutcome settings written (lines :: run.1, run.2) r := by
  cases h with
  | done hts hg => exact .done (by simp [Line.writes, hout, hts, Except.map]; rfl) (by simp [hg])
  | refused hts hfailure hg =>
    exact .refused (by simp [Line.writes, hout, hts, Except.map]; rfl) hfailure (by simp [hg])
  | unresolved hts => exact .unresolved (by simp [Line.writes, hout, hts, Except.map])

theorem atEnd_of_piece (h : f.Stands settings written s (p :: ps) tail) :
    ¬ f.cursor.atEnd = true := by
  obtain ⟨passed, shown, h, hpassed, htext, -⟩ := h
  rw [Cursor.atEnd_eq h.shows, List.isEmpty_iff]
  rintro rfl
  rw [List.append_nil] at htext
  have hmem : '<' ∈ passed := by simp [htext, Piece.text, Piece.raw]
  exact hpassed.not_mem (by decide) hmem

/-- Behind the last tag a run comes to what the layout says of the end of the text. -/
theorem run_of_tail (h : f.Stands settings written s [] tail) (hunfinished : tail.Unfinished) :
    ∃ g, f.run = ((s.finish tail).mapError .document, g) ∧ g.sink.written = written := by
  obtain ⟨passed, shown, h, hpassed, htext, hend⟩ := h
  rw [List.flatMap_nil, List.nil_append] at htext
  unfold Stage.finish
  by_cases htail : tail.AllBlank
  · rw [if_neg (not_not.2 htail)]
    have hshown := hend rfl htail
    have hatEnd : f.cursor.atEnd = true := by rw [Cursor.atEnd_eq h.shows, hshown]; rfl
    rw [run_of_atEnd hatEnd, finish, h.stack]
    refine ⟨f, ?_, h.written⟩
    by_cases hopened : s.opened = []
    · rw [if_pos hopened, if_pos (by simp [hopened])]
      rfl
    · rw [if_neg hopened, if_neg (by simp [hopened])]
      have hlocation : f.cursor.location = s.location tail := by
        rw [← htext, hshown, List.append_nil, Cursor.location, h.place, h.file]
        rfl
      rw [hlocation]
      rfl
  · rw [if_pos htail]
    have hatEnd : ¬ f.cursor.atEnd = true := by
      rw [Cursor.atEnd_eq h.shows, List.isEmpty_iff]
      rintro rfl
      exact htail (by rwa [← htext, List.append_nil])
    obtain ⟨g, hnext, hg⟩ := nextTag_of_tail h (hpassed.not_mem (by decide)) hunfinished htext
    exact ⟨g, run_of_step_error hatEnd (Attempt.bind_error hnext), hg⟩

theorem outcome_finish (h : f.Stands settings written s [] tail) (hunfinished : tail.Unfinished) :
    RunOutcome settings written ([], s.finish tail) f.run := by
  obtain ⟨g, hrun, hg⟩ := run_of_tail h hunfinished
  rw [hrun]
  cases s.finish tail with
  | ok u => exact .done rfl (by simpa using hg)
  | error e => exact .refused rfl (.inl rfl) (by simpa using hg)

/-- The run follows the layout to its end. -/
theorem outcome_run (h : f.Stands settings written s ps tail) (hunfinished : tail.Unfinished) :
    RunOutcome settings written (s.run tail ps) f.run := by
  fun_induction Stage.run tail s ps generalizing f written with
  | case1 s => exact outcome_finish h hunfinished
  | case2 s p ps e hnext =>
    have hstep := outcome_step h hunfinished
    rw [hnext] at hstep
    cases hf : step f with
    | mk r g =>
      rw [hf] at hstep
      cases hstep with
      | refused hfailure hg =>
        rw [run_of_step_error (atEnd_of_piece h) hf]
        exact .refused rfl hfailure (by simpa using hg)
  | case3 s p ps lines t rest hnext groups result hrun ih =>
    have hstep := outcome_step h hunfinished
    rw [hnext] at hstep
    cases hf : step f with
    | mk r g =>
      rw [hf] at hstep
      cases hstep with
      | settled hout hg =>
        rw [run_of_step_ok (atEnd_of_piece h) hf]
        have hcons := RunOutcome.cons hout (ih hg)
        rwa [hrun] at hcons
      | unresolved hout hg =>
        rw [run_of_step_error (atEnd_of_piece h) hf]
        exact .unresolved (by simp [Line.writes, hout])

/-! ## Whole texts -/

/-- A formatter that begins stands in front of all pieces of the text. -/
theorem stands_of_start {feed : Feed} {t : Text} (hfeed : feed.Shows t) (settings : Settings)
    (file : Option Text) (sink : Sink) (hsink : ∀ call t, sink.refuses call t = none)
    (hsome : ¬ ((Markup.ofText t).pieces = [] ∧ (Markup.ofText t).tail ≠ [])) :
    Stands { settings, cursor := { feed, file }, sink } settings sink.written { file }
      (Markup.ofText t).pieces (Markup.ofText t).tail := by
  have hat : At { settings, cursor := { feed, file }, sink }
      { settings, written := sink.written, stage := { file }, shown := t } :=
    ⟨rfl, rfl, hsink, hfeed, rfl, rfl, rfl, rfl, rfl, rfl, rfl, rfl⟩
  have htext : (Markup.ofText t).pieces.flatMap Piece.text ++ (Markup.ofText t).tail = t :=
    Markup.text_ofText t
  refine ⟨[], t, hat, List.forall_mem_nil _, htext.symm, ?_⟩
  intro hpieces _
  have htail : (Markup.ofText t).tail = [] := by
    by_contra htail
    exact hsome ⟨hpieces, htail⟩
  rw [← htext, hpieces, htail]
  rfl

/-- A text without any tag is refused, unless there is no text. -/
theorem run_of_no_piece {feed : Feed} {t : Text} (hfeed : feed.Shows t) (settings : Settings)
    (file : Option Text) (sink : Sink) (hsink : ∀ call t, sink.refuses call t = none)
    (hnone : (Markup.ofText t).pieces = [] ∧ (Markup.ofText t).tail ≠ []) :
    ∃ g, run { settings, cursor := { feed, file }, sink } =
        (.error (.document (Stage.cutShort { file } (Markup.ofText t).tail)), g) ∧
      g.sink.written = sink.written := by
  have hat : At { settings, cursor := { feed, file }, sink }
      { settings, written := sink.written, stage := { file }, shown := t } :=
    ⟨rfl, rfl, hsink, hfeed, rfl, rfl, rfl, rfl, rfl, rfl, rfl, rfl⟩
  have htext : (Markup.ofText t).pieces.flatMap Piece.text ++ (Markup.ofText t).tail = t :=
    Markup.text_ofText t
  obtain ⟨hpieces, htail⟩ := hnone
  rw [hpieces, List.flatMap_nil, List.nil_append] at htext
  have hatEnd : ¬ Cursor.atEnd { feed, file } = true := by
    rw [Cursor.atEnd_eq hfeed, List.isEmpty_iff, ← htext]
    exact htail
  obtain ⟨g, hnext, hg⟩ :=
    nextTag_of_tail hat List.not_mem_nil (Markup.ofText t).unfinished htext.symm
  exact ⟨g, run_of_step_error hatEnd (Attempt.bind_error hnext), hg⟩

/-- A run from the start follows the layout of the text. -/
theorem outcome_layout {feed : Feed} {t : Text} (hfeed : feed.Shows t) (settings : Settings)
    (file : Option Text) (sink : Sink) (hsink : ∀ call t, sink.refuses call t = none) :
    RunOutcome settings sink.written (t.layout file)
      (run { settings, cursor := { feed, file }, sink }) := by
  by_cases hnone : (Markup.ofText t).pieces = [] ∧ (Markup.ofText t).tail ≠ []
  · obtain ⟨g, hrun, hg⟩ := run_of_no_piece hfeed settings file sink hsink hnone
    rw [Text.layout, if_pos hnone, hrun]
    exact .refused rfl (.inl rfl) (by simpa using hg)
  · rw [Text.layout, if_neg hnone]
    exact outcome_run (stands_of_start hfeed settings file sink hsink hnone)
      (Markup.ofText t).unfinished

end Formatter

/-- A stream is formatted without failure exactly if its text has a layout and the lines of it can be
    laid out, and these lines are what is written then. -/
theorem formatStream_eq_ok_iff {stream : Stream} {s out : Text} {settings : Settings}
    (hsize : 1 ≤ settings.chunkSize) (h : (stream settings.chunkSize.toNat).Delivers s)
    (file : Option Text) :
    (∃ counts, (formatStream stream {} settings file).result = .ok counts ∧
      (formatStream stream {} settings file).sink.content = out) ↔
    (s.layout file).2 = .ok () ∧ Line.layOutAll settings (s.layout file).1.flatten = .ok out := by
  obtain ⟨feed, hfeed, hstart⟩ := Formatter.start_eq_ok settings hsize h {} file
  have houtcome := Formatter.outcome_layout hfeed settings file {} fun _ _ => rfl
  simp only [formatStream, hstart]
  generalize Formatter.run _ = r at houtcome ⊢
  generalize s.layout file = layout at houtcome ⊢
  rw [Line.layOutAll_flatten]
  cases houtcome with
  | done hts hg =>
    rename_i ts g
    have hwritten : g.sink.written = ts := hg
    simp [hts, hwritten, Except.map, Sink.content]
  | refused hts hfailure hg => simp
  | unresolved hts => simp [hts, Except.map]

/-- Without references to resolve, a stream fails with what is wrong with its text. -/
theorem formatStream_eq_error {stream : Stream} {s : Text} {settings : Settings}
    (hsize : 1 ≤ settings.chunkSize) (h : (stream settings.chunkSize.toNat).Delivers s)
    (hresolve : settings.resolveReferences = false) {file : Option Text} {e : DocumentError}
    (he : (s.layout file).2 = .error e) :
    (formatStream stream {} settings file).result = .error (.document e) := by
  obtain ⟨feed, hfeed, hstart⟩ := Formatter.start_eq_ok settings hsize h {} file
  have houtcome := Formatter.outcome_layout hfeed settings file {} fun _ _ => rfl
  have hlines := Line.exists_layOutAll_of_not_resolve hresolve (s.layout file).1.flatten
  simp only [formatStream, hstart]
  generalize Formatter.run _ = r at houtcome ⊢
  generalize s.layout file = layout at houtcome he hlines
  rw [Line.layOutAll_flatten] at hlines
  cases houtcome with
  | done hts hg => cases he
  | refused hts hfailure hg =>
    cases he
    rcases hfailure with rfl | ⟨text, htext⟩
    · rfl
    · simp [Formatter.resolved, hresolve] at htext
  | unresolved hts => simp [hts, Except.map] at hlines

end Reindent
