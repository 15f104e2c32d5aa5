-- SUMMARY: What a run that succeeds has counted: the characters, tags and lines of its text.
import Reindent.Proofs.FileFormatting
import Reindent.Proofs.Position
import Reindent.Proofs.Reformatting
import Reindent.Proofs.TagCount

/-! # Counts of a run

A run that succeeds has been given all characters of its text, has counted each tag once, and has
counted each line of the layout when it laid it out: `counts_of_formatText`. The lines are those of
the text that is returned, as long as nothing in a line ends it early: `count_of_formatText`. -/

namespace Reindent

/-! ## Characters -/

namespace Formatter

theorem accounts_step {f : Formatter} {n : Nat} (h : f.cursor.feed.Accounts n) :
    (step f).2.cursor.feed.Accounts n :=
  cursor_step (P := fun c => c.feed.Accounts n) (fun target _ h => Cursor.accounts_scanTo h target)
    (fun _ h => Cursor.accounts_advance h true) (fun _ h => h) h

/-- A run that succeeds ends where its source does, so it has been given the whole text. -/
theorem delivered_of_run {f g : Formatter} {n : Nat} (h : f.cursor.feed.Accounts n)
    (hrun : f.run = (.ok (), g)) : g.cursor.feed.delivered = n := by
  induction f using run.induct with
  | case1 f hend =>
    have hsame := finish_snd f
    rw [← run_of_atEnd hend, hrun] at hsame
    cases hsame
    unfold Feed.Accounts at h
    rwa [Option.isNone_iff_eq_none.1 hend] at h
  | case2 f hend f' hstep ih =>
    have hstep' := accounts_step h
    rw [hstep] at hstep'
    rw [run_of_step_ok hend hstep] at hrun
    exact ih hstep' hrun
  | case3 f hend e f' hstep =>
    rw [run_of_step_error hend hstep] at hrun
    cases hrun

end Formatter

/-! ## Lines -/

namespace Attempt

variable {σ α β : Type} {part : σ → Nat} {m n : Nat} {s : σ}

/-- If the attempt succeeds, it has added `n` to a part of the state. -/
def Adds (part : σ → Nat) (n : Nat) (s : σ) (r : Except Failure α × σ) : Prop :=
  ∀ a s', r = (.ok a, s') → part s' = part s + n

theorem Keeps.adds {x : Attempt σ α} (h : Keeps part x) (s : σ) : Adds part 0 s (x s) := by
  intro a s' hx
  have hs := h s
  rwa [hx] at hs

theorem Adds.bind {x : Attempt σ α} {k : α → Attempt σ β} (hx : Adds part m s (x s))
    (hk : ∀ a s', x s = (.ok a, s') → Adds part n s' (k a s')) :
    Adds part (m + n) s ((x >>= k) s) := by
  intro b s'' h
  obtain ⟨a, s', ha, hb⟩ := bind_eq_ok_iff.1 h
  rw [hk a s' ha b s'' hb, hx a s' ha, Nat.add_assoc]

/-- What keeps the part may stand in front. -/
theorem Adds.of_bind {x : Attempt σ α} {k : α → Attempt σ β} (hx : Keeps part x)
    (hk : ∀ a s', x s = (.ok a, s') → Adds part n s' (k a s')) : Adds part n s ((x >>= k) s) := by
  have h := (hx.adds s).bind hk
  rwa [Nat.zero_add] at h

end Attempt

namespace Formatter

variable {f g : Formatter}

theorem keeps_lines_reading {α : Type} (move : Attempt Cursor α) : (reading move).Keeps lines :=
  fun _ => rfl

theorem keeps_lines_readTag : readTag.Keeps lines :=
  .bind (keeps_lines_reading _) fun _ => .bind .state fun _ =>
    .bind (keeps_lines_reading _) fun _ f => by rw [takeTag_eq]

theorem keeps_lines_nextTag : nextTag.Keeps lines :=
  .bind (keeps_lines_reading _) fun _ => .bind (keeps_lines_reading _) fun _ => keeps_lines_readTag

theorem keeps_lines_flush : flush.Keeps lines := by
  intro f
  obtain ⟨_, _, _, _, hflush, -⟩ := flush_eq f
  rw [hflush]

theorem keeps_lines_expectClosed (tag close : Tag) : (expectClosed tag close).Keeps lines := by
  apply Attempt.Keeps.bind .state
  intro f
  split
  · exact .pure _
  · exact .fail _

theorem keeps_lines_expectTextClosed (tag close : Tag) :
    (expectTextClosed tag close).Keeps lines := by
  apply Attempt.Keeps.bind .state
  intro f
  split
  · exact keeps_lines_expectClosed _ _
  · exact .fail _

theorem adds_emit (line : Text) (f : Formatter) : Attempt.Adds lines 1 f (emit line f) := by
  intro a g h
  cases h
  rfl

theorem adds_emitTag (tag : Tag) (f : Formatter) : Attempt.Adds lines 1 f (emitTag tag f) :=
  .of_bind .state fun _ g _ => adds_emit _ g

theorem adds_release (f : Formatter) :
    Attempt.Adds lines f.held.toList.length f (release f) := by
  unfold release
  rw [Attempt.state_bind]
  cases f.held with
  | none => exact Attempt.Keeps.adds (.pure ()) f
  | some held =>
    intro a g h
    cases h
    rfl

/-- The end of an element is one line: it is fused with the tag held back, or none is. -/
theorem adds_emitEnd {tag : Tag} (f : Formatter) (hkind : tag.kind = .closing)
    (hheld : ∀ held, f.held = some held → held.tag.closedBy tag = true) :
    Attempt.Adds lines 1 f (emitEnd tag f) := by
  unfold emitEnd
  rw [Attempt.state_bind]
  cases hf : f.held with
  | none =>
    have hadds := (adds_release f).bind fun _ g _ => adds_emitTag tag g
    rwa [hf] at hadds
  | some held =>
    rw [HeldTag.fuse?]
    simp only [hkind, hheld held hf, and_self, if_true]
    exact Attempt.Adds.of_bind (.update fun _ => rfl) fun _ g _ => adds_emit _ g

theorem adds_leaf (tag : Tag) (depth : Nat) (f : Formatter) :
    Attempt.Adds lines 1 f (leaf tag depth f) := by
  refine .of_bind (keeps_lines_reading _) fun _ g _ => ?_
  refine .of_bind (keeps_lines_reading _) fun raw g _ => ?_
  rw [Attempt.state_bind]
  refine .of_bind (fun _ => rfl) fun text g _ => .of_bind keeps_lines_readTag fun close g _ => ?_
  refine .of_bind (keeps_lines_expectTextClosed _ _) fun _ g _ => ?_
  exact .of_bind (.update fun _ => rfl) fun _ g _ => adds_emit _ g

theorem adds_holdOrRead (tag : Tag) (depth : Nat) (f : Formatter) :
    Attempt.Adds lines (if f.cursor.peek = .ok (some '<') then 0 else 1) f
      (holdOrRead tag depth f) := by
  unfold holdOrRead
  rw [Attempt.state_bind]
  refine .of_bind (fun _ => rfl) ?_
  intro next g hnext
  obtain ⟨hpeek, rfl⟩ := Prod.mk.inj hnext
  by_cases htag : next = some '<'
  · subst htag
    rw [if_pos hpeek]
    intro a g h
    cases h
    rfl
  · rw [if_neg (by rw [hpeek]; simpa using htag)]
    split
    · exact absurd rfl htag
    · exact adds_leaf tag depth f

theorem adds_standalone (tag : Tag) (f : Formatter) :
    Attempt.Adds lines (f.held.toList.length + 1) f (standalone tag f) :=
  (adds_release f).bind fun _ g _ =>
    (adds_emitTag tag g).bind fun _ g' _ => keeps_lines_flush.adds g'

theorem adds_openElement (tag : Tag) (f : Formatter) :
    Attempt.Adds lines
      (f.held.toList.length + if f.cursor.peek = .ok (some '<') then 0 else 1) f
      (openElement tag f) := by
  obtain ⟨g, hrelease, hcursor, -⟩ := release_eq f
  refine (adds_release f).bind ?_
  intro _ g' hg'
  rw [hrelease] at hg'
  cases hg'
  rw [Attempt.state_bind, Attempt.update_bind, ← hcursor]
  exact (adds_holdOrRead tag g.depth { g with stack := tag :: g.stack }).bind fun _ g' _ =>
    keeps_lines_flush.adds g'

variable {settings : Settings} {written : List Text} {s t : Stage} {p : Piece}
  {ps rest : List Piece} {tail : Text} {laidOut : List Line}

theorem length_heldTag (s : Stage) : s.heldTag.toList.length = s.heldLines.length := by
  rcases s.held_cases with ⟨tag, outer, -, -, htag, hlines⟩ | ⟨htag, hlines⟩
  · rw [htag, hlines]
    rfl
  · rw [htag, hlines]
    rfl

/-- A tag that is held back is the innermost open one. -/
theorem tag_of_heldTag {held : HeldTag} {innermost : Tag} {outer : List Tag}
    (h : s.heldTag = some held) (hopened : s.opened = innermost :: outer) :
    held.tag = innermost := by
  unfold Stage.heldTag at h
  rw [hopened] at h
  cases hheld : s.held with
  | false => simp [hheld] at h
  | true =>
    simp only [hheld, Option.some.injEq] at h
    rw [← h]

theorem adds_closeElement {tag innermost : Tag} {outer : List Tag} (hkind : tag.kind = .closing)
    (hstack : f.stack = innermost :: outer) (hclosed : innermost.closedBy tag = true)
    (hheld : ∀ held, f.held = some held → held.tag = innermost) :
    Attempt.Adds lines 1 f (closeElement tag f) := by
  unfold closeElement
  rw [Attempt.state_bind, hstack]
  dsimp only
  rw [Attempt.update_bind, Attempt.bind_ok (expectClosed_of_closedBy hclosed _)]
  refine (adds_emitEnd { f with stack := outer } hkind ?_).bind fun _ g _ =>
    keeps_lines_flush.adds g
  intro held hf
  rw [hheld held hf]
  exact hclosed

/-- A step that succeeds counts the lines that it has settled. -/
theorem lines_of_turn (h : f.Stands settings written s (p :: ps) tail)
    (hturn : Stage.Turn tail s (p :: ps) laidOut t rest) (hstep : step f = (.ok (), g)) :
    g.lines = f.lines + laidOut.length := by
  obtain ⟨passed, shown, h, hpassed, htext, -⟩ := h
  rw [List.flatMap_cons, List.append_assoc] at htext
  obtain ⟨f₁, hnext, hf₁⟩ := nextTag_of_piece h (hpassed.not_mem (by decide)) htext
  have hlines : f₁.lines = f.lines := by simpa [hnext] using keeps_lines_nextTag f
  have hheld : f₁.held.toList.length = s.heldLines.length := by
    rw [hf₁.held]
    exact length_heldTag s
  have hrespond (tag : Tag) (htag : s.tagOf p = .ok tag) : respond tag f₁ = (.ok (), g) := by
    simp only [htag] at hnext
    rw [← hstep, step, Attempt.bind_ok hnext]
  rw [← hlines]
  cases hturn with
  | close htag hkind hopened hclosed =>
    have hclose := hrespond _ htag
    rw [respond, hkind] at hclose
    refine adds_closeElement hkind (hf₁.stack.trans hopened) hclosed (fun held hf => ?_) _ _ hclose
    exact tag_of_heldTag (hf₁.held.symm.trans hf) hopened
  | standalone htag halone =>
    rename_i tag
    have halone' : respond tag f₁ = standalone tag f₁ := by
      unfold Tag.isStandalone at halone
      unfold respond
      cases hkind : tag.kind <;> simp_all
    rw [adds_standalone tag f₁ _ _ (halone' ▸ hrespond tag htag), hheld, List.length_append]
    rfl
  | hold htag hkind hnext =>
    have hopen := hrespond _ htag
    rw [respond, hkind] at hopen
    rw [adds_openElement _ f₁ _ _ hopen, hheld, if_pos ((peek_eq_iff_tagNext hf₁.shows).2 hnext)]
    rfl
  | leaf htag hkind hnext =>
    have hopen := hrespond _ htag
    rw [respond, hkind] at hopen
    rw [adds_openElement _ f₁ _ _ hopen, hheld,
      if_neg fun hpeek => hnext ((peek_eq_iff_tagNext hf₁.shows).1 hpeek), List.length_append]
    rfl

/-! ## Runs -/

/-- A run that succeeds behind the last tag has nothing left to read. -/
theorem run_eq_self (h : f.Stands settings written s [] tail) (hunfinished : tail.Unfinished)
    (hrun : f.run = (.ok (), g)) : g = f := by
  obtain ⟨g', hfinish, -⟩ := run_of_tail h hunfinished
  have htail : tail.AllBlank := by
    by_contra htail
    rw [hrun, Stage.finish, if_pos htail] at hfinish
    cases hfinish
  obtain ⟨passed, shown, h, -, -, hend⟩ := h
  have hatEnd : f.cursor.atEnd = true := by
    rw [Cursor.atEnd_eq h.shows, hend rfl htail]
    rfl
  have hsame := finish_snd f
  rwa [← run_of_atEnd hatEnd, hrun] at hsame

/-- A run that succeeds has counted the tags that were in front of it, and the lines of them. -/
theorem counts_of_run (h : f.Stands settings written s ps tail) (hunfinished : tail.Unfinished)
    (hrun : f.run = (.ok (), g)) :
    g.tags = f.tags + ps.length ∧ g.lines = f.lines + (s.run tail ps).1.flatten.length := by
  fun_induction Stage.run tail s ps generalizing f written with
  | case1 s =>
    obtain rfl := run_eq_self h hunfinished hrun
    exact ⟨rfl, rfl⟩
  | case2 s p ps e hnext =>
    have houtcome := outcome_step h hunfinished
    rw [hnext] at houtcome
    generalize hstep : step f = r at houtcome
    cases houtcome with
    | refused =>
      rw [run_of_step_error (atEnd_of_piece h) hstep] at hrun
      cases hrun
  | case3 s p ps lines t rest hnext groups result hrest ih =>
    have houtcome := outcome_step h hunfinished
    rw [hnext] at houtcome
    generalize hstep : step f = r at houtcome
    cases houtcome with
    | settled hout hg =>
      rw [run_of_step_ok (atEnd_of_piece h) hstep] at hrun
      have htags := tags_of_turn h (Stage.turn_of_next hnext) hstep
      have hlines := lines_of_turn h (Stage.turn_of_next hnext) hstep
      obtain ⟨htags', hlines'⟩ := ih hg hrun
      rw [hrest] at hlines'
      dsimp only at hlines' ⊢
      rw [List.flatten_cons, List.length_append]
      omega
    | unresolved =>
      rw [run_of_step_error (atEnd_of_piece h) hstep] at hrun
      cases hrun

end Formatter

/-! ## Texts -/

/-- The lines that a text is laid out in. -/
def Text.lines (t : Text) : List Line :=
  (t.layout none).1.flatten

/-- A formatter that begins has all of the text before it, and nothing of it counted. -/
theorem Formatter.start_accounts {stream : Stream} {s : Text} (settings : Settings)
    (hsize : 1 ≤ settings.chunkSize) (h : (stream settings.chunkSize.toNat).Delivers s)
    (sink : Sink) (file : Option Text) :
    ∃ feed : Feed, feed.Shows s ∧ feed.Accounts s.length ∧
      start stream sink settings file = .ok { settings, cursor := { feed, file }, sink } := by
  obtain ⟨feed, hrefill, hshows⟩ := Feed.refill_shows h 0
  have haccounts := Feed.refill_accounts h
  rw [hrefill] at haccounts
  have hcursor : Cursor.start stream settings.chunkSize file = .ok { feed, file } := by
    rw [Cursor.start, if_neg (by omega), hrefill]
  refine ⟨feed, hshows, haccounts, ?_⟩
  simp only [start, hcursor]
  rfl

/-- What is counted of a stream that is formatted. -/
theorem counts_of_formatStream {stream : Stream} {s : Text} {settings : Settings} {counts : Counts}
    (hsize : 1 ≤ settings.chunkSize) (h : (stream settings.chunkSize.toNat).Delivers s)
    (hok : (formatStream stream {} settings none).result = .ok counts) :
    counts = ⟨s.length, (Markup.ofText s).pieces.length, s.lines.length⟩ := by
  obtain ⟨hlayout, -⟩ := (formatStream_eq_ok_iff hsize h none).1 ⟨counts, hok, rfl⟩
  obtain ⟨feed, hshows, haccounts, hstart⟩ := Formatter.start_accounts settings hsize h {} none
  have hsome : ¬ ((Markup.ofText s).pieces = [] ∧ (Markup.ofText s).tail ≠ []) := by
    intro hnone
    rw [Text.layout, if_pos hnone] at hlayout
    cases hlayout
  have hstands := Formatter.stands_of_start hshows settings none {} (fun _ _ => rfl) hsome
  simp only [formatStream, hstart] at hok
  split at hok
  · rename_i g hrun
    obtain ⟨htags, hlines⟩ := Formatter.counts_of_run hstands (Markup.ofText s).unfinished hrun
    have hdelivered := Formatter.delivered_of_run haccounts hrun
    cases hok
    rw [Formatter.counts, hdelivered, htags, hlines, Text.lines, Text.layout_eq_run hlayout]
    simp
  · cases hok

/-- A text that is formatted has its characters, its tags and its lines counted, and what is
    returned are the lines. -/
theorem counts_of_formatText {settings : Settings} {source out : Text} {counts : Counts}
    (h : formatText settings source = .ok (out, counts)) :
    counts = ⟨source.length, (Markup.ofText source).pieces.length, source.lines.length⟩ ∧
      Line.layOutAll settings source.lines = .ok out := by
  obtain ⟨⟨hsize, hcount⟩, -⟩ := Item.formattedText_iff.1 ⟨counts, h⟩
  have hdelivers := Reads.delivers_counted hcount
    (Reads.delivers_ofText (by omega : 0 < settings.chunkSize.toNat) source)
  obtain ⟨hresult, hcontent⟩ := formatText_eq_ok_iff.1 h
  exact ⟨counts_of_formatStream hsize hdelivers hresult,
    ((formatStream_eq_ok_iff hsize hdelivers none).1 ⟨counts, hresult, hcontent⟩).2⟩

/-! ## Line ends in what is returned -/

/-- A text without line breaks. -/
def Text.OneLine (t : Text) : Prop :=
  ∀ c ∈ t, Text.isBreak c = false

namespace Text

variable {s t : Text}

instance (t : Text) : Decidable t.OneLine :=
  List.decidableBAll (Text.isBreak · = false) t

theorem OneLine.append (hs : s.OneLine) (ht : t.OneLine) : (s ++ t).OneLine :=
  List.forall_mem_append.2 ⟨hs, ht⟩

theorem OneLine.times (h : t.OneLine) (n : Int) : (t.times n).OneLine := by
  intro c hc
  rw [times_eq, List.mem_flatten] at hc
  obtain ⟨u, hu, hc⟩ := hc
  rw [List.eq_of_mem_replicate hu] at hc
  exact h c hc

theorem OneLine.not_mem {c : Char} (h : t.OneLine) (hc : isBreak c = true) : c ∉ t := by
  intro hmem
  rw [h c hmem] at hc
  cases hc

theorem oneLine_strip_unbroken (t : Text) : t.unbroken.strip.OneLine :=
  fun _ hc => (mem_unbroken_iff.1 (mem_of_mem_strip hc)).2

end Text

theorem Tag.ReadsBack.oneLine {tag : Tag} (h : tag.ReadsBack) : tag.text.OneLine := by
  obtain ⟨body, -, hbody, htext, -⟩ := h
  rw [htext]
  have hopen : Text.OneLine ['<'] := by decide
  have hclose : Text.OneLine ['>'] := by decide
  exact (hopen.append hbody).append hclose

/-- No part of the line ends it, and its text is that in front of a tag. -/
structure Line.DrawnFrom (ps : List Piece) (l : Line) : Prop where
  before : l.before.OneLine
  text : l.text = [] ∨ ∃ p ∈ ps, l.text = p.gap.unbroken.strip
  after : l.after.OneLine

namespace Line

variable {ps qs : List Piece} {l : Line}

theorem DrawnFrom.mono (h : l.DrawnFrom ps) (hsub : ps ⊆ qs) : l.DrawnFrom qs :=
  { h with text := h.text.imp_right fun ⟨p, hp, htext⟩ => ⟨p, hsub hp, htext⟩ }

theorem drawnFrom_tag {text : Text} (h : text.OneLine) (depth : Nat) :
    DrawnFrom ps ⟨depth, text, [], []⟩ :=
  ⟨h, .inl rfl, List.forall_mem_nil _⟩

end Line

/-- The lines of a document are drawn from the pieces that spell it. -/
theorem Item.Spelled.drawnFrom {behindOpen : Bool} {items : List Item} {ps : List Piece}
    (h : Spelled behindOpen items ps) (depth : Nat) :
    ∀ l ∈ linesAll depth items, l.DrawnFrom ps := by
  induction h generalizing depth with
  | nil => simp
  | standalone _ htag _ _ ih =>
    rw [linesAll_cons, lines, List.singleton_append, List.forall_mem_cons]
    exact ⟨Line.drawnFrom_tag (Tag.readsBack_of_tag htag).oneLine depth,
      fun l hl => (ih depth l hl).mono (List.subset_cons_self _ _)⟩
  | @element _ tags children _ _ q inner ps _ hopening _ _ hclosing _ ihchildren ih =>
    have hopen := (Tag.readsBack_of_tag hopening).oneLine
    have hclose := (Tag.readsBack_of_tag hclosing).oneLine
    have hinner : inner ⊆ inner ++ q :: ps := List.subset_append_left _ _
    have hps : ps ⊆ inner ++ q :: ps :=
      List.subset_append_of_subset_right _ (List.subset_cons_self _ _)
    rw [linesAll_cons, List.forall_mem_append]
    refine ⟨?_, fun l hl => (ih depth l hl).mono (List.subset_cons_of_subset _ hps)⟩
    rw [lines, Line.around]
    split
    · -- The fused tag is the opening one up to its `>`.
      have hfused : Text.OneLine (tags.opening.text.dropLast ++ ['/', '>']) :=
        Text.OneLine.append (fun c hc => hopen c (List.dropLast_subset _ hc)) (by decide)
      exact List.forall_mem_singleton.2 (Line.drawnFrom_tag hfused depth)
    · rw [List.forall_mem_cons, List.forall_mem_append, List.forall_mem_singleton]
      exact ⟨Line.drawnFrom_tag hopen depth,
        fun l hl => (ihchildren _ l hl).mono (List.subset_cons_of_subset _ hinner),
        Line.drawnFrom_tag hclose depth⟩
  | leaf _ hopening _ hclosing _ ih =>
    rw [linesAll_cons, lines, List.singleton_append, List.forall_mem_cons]
    refine ⟨⟨(Tag.readsBack_of_tag hopening).oneLine, .inr ⟨_, by simp, rfl⟩,
      (Tag.readsBack_of_tag hclosing).oneLine⟩, fun l hl => (ih depth l hl).mono ?_⟩
    exact List.subset_cons_of_subset _ (List.subset_cons_self _ _)

/-- Lines that hold no line break and no reference are counted by their line ends. -/
theorem Line.count_layOutAll {settings : Settings} {ls : List Line} {out : Text}
    (hindent : settings.indent.OneLine)
    (hls : ∀ l ∈ ls, l.before.OneLine ∧ l.text.OneLine ∧ l.after.OneLine ∧
      Formatter.resolved settings l.text = .ok l.text)
    (h : layOutAll settings ls = .ok out) : out.count '\n' = ls.length ∧ '\r' ∉ out := by
  induction ls generalizing out with
  | nil =>
    cases h
    exact ⟨rfl, List.not_mem_nil⟩
  | cons l ls ih =>
    obtain ⟨t, u, ht, hu, rfl⟩ := layOutAll_cons_eq_ok_iff.1 h
    rw [List.forall_mem_cons] at hls
    obtain ⟨⟨hbefore, htext, hafter, hresolved⟩, hrest⟩ := hls
    obtain ⟨hcount, hreturn⟩ := ih hrest hu
    rw [layOut_of_resolved hresolved] at ht
    cases ht
    have hline := (((hindent.times l.depth).append hbefore).append htext).append hafter
    rw [Settings.indentation, List.count_append, List.count_cons_self, hcount,
      List.count_eq_zero_of_not_mem (hline.not_mem (by decide))]
    refine ⟨by simp, ?_⟩
    rw [List.mem_append, List.mem_cons]
    rintro (hmem | hmem | hmem)
    · exact hline.not_mem (by decide) hmem
    · cases hmem
    · exact hreturn hmem

/-- What is returned has as many line ends as lines were counted, if the indent has no line breaks
    and no references are resolved. -/
theorem count_of_formatText {settings : Settings} {source out : Text} {counts : Counts}
    (hindent : settings.indent.OneLine)
    (hkeep : settings.resolveReferences = false ∨ '&' ∉ source)
    (h : formatText settings source = .ok (out, counts)) :
    source.lines.length = out.count '\n' ∧ '\r' ∉ out := by
  obtain ⟨-, items, hitems, hout⟩ := Item.formattedText_iff.1 ⟨counts, h⟩
  obtain ⟨-, hlines⟩ := (Item.layout_eq_ok_iff none).2 ⟨items, hitems, rfl⟩
  obtain ⟨ps, tail, hsource, hspelled, -, -⟩ := hitems
  have hkept : ∀ l ∈ Item.linesAll 0 items, l.before.OneLine ∧ l.text.OneLine ∧ l.after.OneLine ∧
      Formatter.resolved settings l.text = .ok l.text := by
    intro l hl
    have hdrawn := hspelled.drawnFrom 0 l hl
    rcases hdrawn.text with htext | ⟨p, hp, htext⟩
    · rw [htext, Formatter.resolved_nil]
      exact ⟨hdrawn.before, List.forall_mem_nil _, hdrawn.after, rfl⟩
    · rw [htext]
      exact ⟨hdrawn.before, Text.oneLine_strip_unbroken _, hdrawn.after,
        Item.resolved_gap hsource hkeep hp⟩
  obtain ⟨hcount, hreturn⟩ := Line.count_layOutAll hindent hkept hout
  exact ⟨by rw [Text.lines, hlines, hcount], hreturn⟩

end Reindent
