-- SUMMARY: What holds of a formatter between two steps: its open tags, the tag it holds, its lines.
import Reindent.Proofs.Counts
import Reindent.Proofs.Diagnostics

/-! # Between two steps

A formatter keeps the innermost open tag twice as long as it holds it back: on its stack, and as the
tag held. Closing, standing alone and opening each change the two in another order. Between two steps
they agree: the stack holds the tags that stay open among those read so far, and the tag held, if
there is one, is the last of them and on top of the stack.

That is so of a stage of the layout, step by step (`Stage.Turn.records`). A formatter whose streams
have not failed yet does what one does whose source goes on and whose sink takes everything
(`Midway.step`), and that one stands at a stage. `between_steps` puts it together. -/

namespace Reindent

/-! ## Tags in their places -/

/-- The tags of the pieces, each with the line that it ends on. -/
inductive ReadAs (file : Option Text) : List Piece → List Tag → Prop where
  | nil : ReadAs file [] []
  | concat {ps : List Piece} {p : Piece} {tags : List Tag} {tag : Tag} (h : ReadAs file ps tags)
      (htag : p.tag (Text.endLine (ps.flatMap Piece.text ++ (p.gap ++ '<' :: p.body)) file) =
        .ok tag) :
      ReadAs file (ps ++ [p]) (tags ++ [tag])

theorem ReadAs.length_eq {file : Option Text} {ps : List Piece} {tags : List Tag}
    (h : ReadAs file ps tags) : tags.length = ps.length := by
  induction h with
  | nil => rfl
  | concat h htag ih => rw [List.length_append, List.length_append, ih]; rfl

namespace Stage

variable {tail : Text} {file : Option Text} {s t : Stage} {ps rest before : List Piece} {p : Piece}
  {lines : List Line} {tags : List Tag} {tag : Tag}

/-- The stage behind the pieces `ps` of a text, which were read as `tags`. -/
structure Records (s : Stage) (file : Option Text) (ps : List Piece) (tags : List Tag) : Prop where
  read : ReadAs file ps tags
  opened : Tag.LeavesOpen tags s.opened
  latest : s.held = true → tags.getLast? = s.opened.head?
  place : s.place = Place.pass {} (ps.flatMap Piece.text)
  file : s.file = file

theorem records_start (file : Option Text) : Records { file } file [] [] :=
  ⟨.nil, .none .nil, nofun, rfl, rfl⟩

/-- A tag further, with the tags that are open then. -/
theorem Records.concat (h : s.Records file before tags) (htag : s.tagOf p = .ok tag)
    {opened : List Tag} {held : Bool} (hopened : Tag.LeavesOpen (tags ++ [tag]) opened)
    (hheld : held = true → opened.head? = some tag) :
    Records { s.behind p with opened, held } file (before ++ [p]) (tags ++ [tag]) where
  read := by
    refine h.read.concat ?_
    rw [Text.endLine, ← Place.line_pass_start, Place.pass_append, ← h.place, ← h.file]
    exact htag
  opened := hopened
  latest hh := by rw [hheld hh, List.getLast?_concat]
  place := by simp [behind, h.place, Place.pass_append]
  file := h.file

theorem Records.opening (h : s.Records file before tags) (htag : s.tagOf p = .ok tag)
    (hkind : tag.kind = .opening) (held : Bool) :
    Records { s.behind p with opened := tag :: s.opened, held } file (before ++ [p])
      (tags ++ [tag]) :=
  h.concat htag (h.opened.concat_opening hkind) fun _ => rfl

theorem Records.closing (h : s.Records file before tags) (htag : s.tagOf p = .ok tag)
    (hkind : tag.kind = .closing) {innermost : Tag} {outer : List Tag}
    (hopened : s.opened = innermost :: outer) (hclosed : innermost.closedBy tag = true) :
    Records { s.behind p with opened := outer, held := false } file (before ++ [p])
      (tags ++ [tag]) := by
  have hleaves := h.opened
  rw [hopened] at hleaves
  exact h.concat htag (hleaves.concat_closing hkind (beq_iff_eq.1 hclosed)) nofun

/-- One step further. -/
theorem Turn.records (hturn : Turn tail s ps lines t rest) (h : s.Records file before tags) :
    ∃ front others, ps = front ++ rest ∧ t.Records file (before ++ front) others := by
  cases hturn with
  | close htag hkind hopened hclosed =>
    exact ⟨[_], _, rfl, h.closing htag hkind hopened hclosed⟩
  | standalone htag halone =>
    exact ⟨[_], _, rfl, h.concat htag (h.opened.concat_alone halone) nofun⟩
  | hold htag hkind => exact ⟨[_], _, rfl, h.opening htag hkind true⟩
  | leaf htag hkind _ hclose hclosing hclosed =>
    have hleaf := (h.opening htag hkind false).closing hclose hclosing rfl hclosed
    rw [List.append_assoc] at hleaf
    exact ⟨[_, _], _, rfl, hleaf⟩

end Stage

/-- One group more, and what is written for it. -/
theorem Line.writes_concat {settings : Settings} {groups : List (List Line)} {ts : List Text}
    {lines : List Line} {out : Text} (h : writes settings groups = .ok ts)
    (hout : layOutAll settings lines = .ok out) :
    writes settings (groups ++ [lines]) = .ok (ts ++ if lines = [] then [] else [out]) := by
  induction groups generalizing ts with
  | nil =>
    cases h
    simp [writes, hout, Except.map]
  | cons group groups ih =>
    obtain ⟨t, us, hgroup, hgroups, rfl⟩ := writes_cons_eq_ok_iff.1 h
    exact writes_cons_eq_ok_iff.2 ⟨t, _, hgroup, ih hgroups, List.append_assoc _ _ _⟩

namespace Formatter

variable {f g : Formatter}

/-! ## What a step leaves behind -/

/-- Reading tags changes nothing but the cursor and the number of tags. -/
theorem keeps_readTag {γ : Type} {part : Formatter → γ}
    (h : ∀ f cursor tags, part { f with cursor, tags } = part f) : readTag.Keeps part := by
  have hreading {α : Type} (move : Attempt Cursor α) : (reading move).Keeps part :=
    fun f => h f _ f.tags
  refine .bind (hreading _) fun _ => .bind .state fun _ => .bind (hreading _) fun _ f => ?_
  rw [takeTag_eq]
  exact h f _ _

theorem keeps_nextTag {γ : Type} {part : Formatter → γ}
    (h : ∀ f cursor tags, part { f with cursor, tags } = part f) : nextTag.Keeps part := by
  have hreading {α : Type} (move : Attempt Cursor α) : (reading move).Keeps part :=
    fun f => h f _ f.tags
  exact .bind (hreading _) fun _ => .bind (hreading _) fun _ => keeps_readTag h

theorem keeps_held_expectClosed (tag close : Tag) : (expectClosed tag close).Keeps held := by
  apply Attempt.Keeps.bind .state
  intro f
  split
  · exact .pure _
  · exact .fail _

theorem keeps_held_leaf (tag : Tag) (depth : Nat) : (leaf tag depth).Keeps held := by
  refine .bind (fun _ => rfl) fun _ => .bind (fun _ => rfl) fun raw => .bind .state fun f => ?_
  refine .bind (fun _ => rfl) fun text => .bind (keeps_readTag fun _ _ _ => rfl) fun close => ?_
  refine .bind (.bind .state fun f => ?_) fun _ => .bind (.update fun _ => rfl) fun _ => ?_
  · split
    · exact keeps_held_expectClosed _ _
    · exact .fail _
  · exact .update fun _ => rfl

theorem held_emitEnd (tag : Tag) (f : Formatter) : (emitEnd tag f).2.held = none := by
  unfold emitEnd
  rw [Attempt.state_bind]
  cases HeldTag.fuse? f.held tag f.settings with
  | some line => rfl
  | none =>
    obtain ⟨g, hrelease, -, -, hheld⟩ := release_eq f
    dsimp only
    rw [Attempt.bind_ok hrelease]
    exact hheld

/-- A tag is only held as long as the next tag is under the cursor. -/
def HoldsAtTag (f : Formatter) : Prop :=
  f.held = none ∨ f.cursor.peek = .ok (some '<')

theorem holdsAtTag_holdOrRead {tag : Tag} {depth : Nat} (hheld : f.held = none)
    (h : holdOrRead tag depth f = (.ok (), g)) : g.HoldsAtTag := by
  unfold holdOrRead at h
  rw [Attempt.state_bind] at h
  obtain ⟨next, f', hlift, h⟩ := Attempt.bind_eq_ok_iff.1 h
  obtain ⟨hpeek, rfl⟩ := Prod.mk.inj hlift
  split at h
  · cases h
    exact .inr hpeek
  · have hkept := keeps_held_leaf tag depth f
    rw [h, hheld] at hkept
    exact .inl hkept

theorem holdsAtTag_layOut {tag : Tag} (h : layOut tag f = (.ok (), g)) : g.HoldsAtTag := by
  have halone (h : (release >>= fun _ => emitTag tag) f = (.ok (), g)) : g.HoldsAtTag := by
    obtain ⟨f', hrelease, -, -, hheld⟩ := release_eq f
    rw [Attempt.bind_ok hrelease] at h
    cases h
    exact .inl hheld
  unfold layOut at h
  cases hkind : tag.kind with
  | closing =>
    simp only [hkind, Attempt.state_bind] at h
    cases hstack : f.stack with
    | nil =>
      rw [hstack] at h
      cases h
    | cons opened outer =>
      rw [hstack] at h
      dsimp only at h
      rw [Attempt.update_bind] at h
      obtain ⟨_, f', -, hend⟩ := Attempt.bind_eq_ok_iff.1 h
      have hheld := held_emitEnd tag f'
      rw [hend] at hheld
      exact .inl hheld
  | selfClosing =>
    simp only [hkind] at h
    exact halone h
  | declaration =>
    simp only [hkind] at h
    exact halone h
  | opening =>
    simp only [hkind] at h
    obtain ⟨f', hrelease, -, -, hheld⟩ := release_eq f
    rw [Attempt.bind_ok hrelease, Attempt.state_bind, Attempt.update_bind] at h
    exact holdsAtTag_holdOrRead (f := { f' with stack := tag :: f'.stack }) hheld h

theorem of_flush_eq_ok (h : flush f = (.ok (), g)) :
    g.out = {} ∧ g.held = f.held ∧ g.cursor = f.cursor := by
  by_cases hempty : f.out.isEmpty = true
  · rw [flush_of_empty hempty] at h
    cases h
    exact ⟨congrArg Builder.mk (List.isEmpty_iff.1 hempty), rfl, rfl⟩
  · cases hrefuses : f.sink.refuses f.sink.calls f.out.build with
    | none =>
      rw [flush_of_taken hempty hrefuses] at h
      cases h
      exact ⟨rfl, rfl, rfl⟩
    | some fault =>
      rw [flush_of_refused hempty hrefuses] at h
      cases h

/-- A step that succeeds has written its lines, and holds no tag unless another one is next. -/
theorem of_step_eq_ok (h : step f = (.ok (), g)) : g.out = {} ∧ g.HoldsAtTag := by
  rw [step_eq] at h
  obtain ⟨_, f', hprepare, hflush⟩ := Attempt.bind_eq_ok_iff.1 h
  obtain ⟨tag, f'', -, hlayOut⟩ := Attempt.bind_eq_ok_iff.1 hprepare
  obtain ⟨hout, hheld, hcursor⟩ := of_flush_eq_ok hflush
  have hholds := holdsAtTag_layOut hlayOut
  rw [HoldsAtTag, ← hheld, ← hcursor] at hholds
  exact ⟨hout, hholds⟩

theorem of_start_eq_ok {stream : Stream} {sink : Sink} {settings : Settings} {file : Option Text}
    (h : start stream sink settings file = .ok f) : f.out = {} ∧ f.HoldsAtTag := by
  unfold start at h
  cases hcursor : Cursor.start stream settings.chunkSize file with
  | error e =>
    rw [hcursor] at h
    cases h
  | ok cursor =>
    rw [hcursor] at h
    cases h
    exact ⟨rfl, .inl rfl⟩

/-! ## Streams that have not failed yet -/

/-- The formatter with a sink that takes everything. -/
def unrefused (file : Option Text) (f : Formatter) : Formatter :=
  f.redirect file (Sink.refusing fun _ => none)

/-- A step that succeeds does so whatever the sink might have refused. -/
theorem step_unrefused (file : Option Text) (h : step f = (.ok (), g)) :
    step (f.unrefused file) = (.ok (), g.unrefused file) := by
  rw [step_eq] at h ⊢
  obtain ⟨_, f', hprepare, hflush⟩ := Attempt.bind_eq_ok_iff.1 h
  have hsame := carries_prepare file (Sink.refusing fun _ => none) f
  rw [hprepare] at hsame
  refine Attempt.bind_eq_ok_iff.2 ⟨_, _, hsame, ?_⟩
  by_cases hempty : f'.out.isEmpty = true
  · rw [flush_of_empty hempty] at hflush
    cases hflush
    exact flush_of_empty (f := g.unrefused file) hempty
  · cases hrefuses : f'.sink.refuses f'.sink.calls f'.out.build with
    | none =>
      rw [flush_of_taken hempty hrefuses] at hflush
      cases hflush
      exact flush_of_taken (f := f'.unrefused file) hempty rfl
    | some fault =>
      rw [flush_of_refused hempty hrefuses] at hflush
      cases hflush

/-- The states between the steps of a run. -/
inductive Reaches (f : Formatter) : Formatter → Prop where
  | start : Reaches f f
  | next {g g' : Formatter} (hreached : Reaches f g) (hmore : ¬ g.cursor.atEnd = true)
      (hstep : step g = (.ok (), g')) : Reaches f g'

/-- A formatter between two steps that is at `stage`, behind the pieces `before` of the text `s`, which
    were read as `tags` and laid out in `groups`. Its own streams may fail later. So the stage is that
    of another formatter, which it lags behind and whose source and sink do not fail. -/
structure Midway (s : Text) (file : Option Text) (settings : Settings) (base : List Text)
    (g : Formatter) (stage : Stage) (before rest : List Piece) (tags : List Tag)
    (groups : List (List Line)) (writes : List Text) : Prop where
  pieces : (Markup.ofText s).pieces = before ++ rest
  records : stage.Records file before tags
  layout : (s.layout file).1 = groups ++ (stage.run (Markup.ofText s).tail rest).1
  written : Line.writes settings groups = .ok writes
  count : g.tags = before.length
  lines : g.lines = groups.flatten.length
  shadow : ∃ dest g' passed shown, Lags [] dest (g.unrefused file) g' ∧
    g'.At { settings, written := base ++ writes, stage, passed, shown } ∧ passed.AllBlank ∧
    passed ++ shown = rest.flatMap Piece.text ++ (Markup.ofText s).tail

variable {s : Text} {file : Option Text} {settings : Settings} {base writes : List Text}
  {stage : Stage} {before rest : List Piece} {tags : List Tag} {groups : List (List Line)}

/-- One step further. -/
theorem Midway.step (h : Midway s file settings base f stage before rest tags groups writes)
    (hstep : step f = (.ok (), g)) :
    ∃ stage' before' rest' tags' groups' writes',
      Midway s file settings base g stage' before' rest' tags' groups' writes' := by
  obtain ⟨dest, f', passed, shown, hlags, hat, hpassed, htext⟩ := h.shadow
  have hunfinished := (Markup.ofText s).unfinished
  have hfollows := follows_step hlags
  rw [step_unrefused file hstep] at hfollows
  generalize hstep' : Formatter.step f' = q at hfollows
  cases hfollows with
  | @agreed _ _ g' hlags' =>
    obtain ⟨dest', hlags'⟩ := hlags'
    cases rest with
    | nil =>
      -- Behind the last piece no step succeeds.
      obtain ⟨g'', hnext, -⟩ := nextTag_of_tail hat (hpassed.not_mem (by decide)) hunfinished htext
      rw [Formatter.step, Attempt.bind_error hnext] at hstep'
      cases hstep'
    | cons p ps =>
      have hstands : f'.Stands settings (base ++ writes) stage (p :: ps) (Markup.ofText s).tail :=
        ⟨passed, shown, hat, hpassed, htext, fun h => absurd h (List.cons_ne_nil _ _)⟩
      have houtcome := outcome_step hstands hunfinished
      rw [hstep'] at houtcome
      generalize hnext : stage.next p ps (Markup.ofText s).tail = next at houtcome
      cases houtcome with
      | @settled lines stage' rest' out _ hout hg' =>
        have hturn := Stage.turn_of_next hnext
        obtain ⟨front, tags', hps, hrecords⟩ := hturn.records h.records
        have htags : g.tags + rest'.length = f.tags + (p :: ps).length := by
          have hcount := tags_of_turn hstands hturn hstep'
          rw [← hlags.tags, ← hlags'.tags] at hcount
          exact hcount
        have hlines : g.lines = f.lines + lines.length := by
          have hcount := lines_of_turn hstands hturn hstep'
          rw [← hlags.lines, ← hlags'.lines] at hcount
          exact hcount
        obtain ⟨passed', shown', hat', hpassed', htext', -⟩ := hg'
        refine ⟨stage', before ++ front, rest', tags', groups ++ [lines],
          writes ++ if lines = [] then [] else [out], ?_⟩
        exact
          { pieces := by rw [h.pieces, hps, List.append_assoc]
            records := hrecords
            layout := by
              rw [h.layout, Stage.run_of_turn hturn, List.append_assoc]
              rfl
            written := Line.writes_concat h.written hout
            count := by
              rw [hps, List.length_append, h.count] at htags
              rw [List.length_append]
              omega
            lines := by simpa [← h.lines] using hlines
            shadow :=
              ⟨dest', g', passed', shown', hlags', by rwa [← List.append_assoc], hpassed', htext'⟩ }

theorem Reaches.midway (hreaches : Reaches f g)
    (h : Midway s file settings base f stage before rest tags groups writes) :
    ∃ stage' before' rest' tags' groups' writes',
      Midway s file settings base g stage' before' rest' tags' groups' writes' := by
  induction hreaches with
  | start => exact ⟨_, _, _, _, _, _, h⟩
  | next _ _ hstep ih =>
    obtain ⟨_, _, _, _, _, _, h⟩ := ih
    exact h.step hstep

/-- A formatter that begins is in front of the first piece. -/
theorem midway_of_start {stream : Stream} {sink : Sink}
    (h : (stream settings.chunkSize.toNat).Yields s)
    (hstart : start stream sink settings file = .ok f) :
    Midway s file settings sink.written f { file } [] (Markup.ofText s).pieces [] [] [] := by
  have hsize : 1 ≤ settings.chunkSize := by
    by_contra hsmall
    rw [start, Cursor.start, if_pos (by omega)] at hstart
    cases hstart
  rcases start_of_yields settings hsize h sink file with
    ⟨feed, hfeed, hstart'⟩ | ⟨fault, hstart'⟩
  · rw [hstart] at hstart'
    cases hstart'
    have hpos : 0 < settings.chunkSize.toNat := by omega
    have hdelivers := Reads.delivers_ofText hpos s
    obtain ⟨feed', hshows, -⟩ := Formatter.start_eq_ok settings hsize hdelivers {} file
    have hcursor : Cursor.Lags [] { feed, file } { feed := feed', file } :=
      ⟨hfeed.imp_right fun hreaches => ⟨s, hreaches, by rwa [List.append_nil], rfl⟩, rfl, rfl, rfl⟩
    let dest : Sink := sink.refusing fun _ => none
    have hlayout : (s.layout file).1 =
        (Stage.run (Markup.ofText s).tail { file } (Markup.ofText s).pieces).1 := by
      by_cases hnone : (Markup.ofText s).pieces = [] ∧ (Markup.ofText s).tail ≠ []
      · rw [Text.layout, if_pos hnone, hnone.1, Stage.run_nil]
      · rw [Text.layout, if_neg hnone]
    exact
      { pieces := rfl
        records := Stage.records_start file
        layout := hlayout
        written := rfl
        count := rfl
        lines := rfl
        shadow :=
          ⟨dest, { settings, cursor := { feed := feed', file }, sink := dest }, [], s,
            ⟨hcursor, rfl, rfl, rfl, rfl, rfl, rfl, rfl, rfl⟩,
            ⟨rfl, (List.append_nil _).symm, fun _ _ => rfl, hshows, rfl, rfl, rfl, rfl, rfl, rfl,
              rfl, rfl⟩,
            List.forall_mem_nil _, (Markup.text_ofText s).symm⟩ }
  · rw [hstart] at hstart'
    cases hstart'

/-- A tag that is held is the innermost open one. -/
theorem Midway.held (h : Midway s file settings base g stage before rest tags groups writes)
    {held : HeldTag} (hheld : g.held = some held) :
    ∃ outer, g.stack = held.tag :: outer ∧ held.depth = outer.length ∧
      tags.getLast? = some held.tag := by
  obtain ⟨dest, g', passed, shown, hlags, hat, -⟩ := h.shadow
  have hstage : stage.heldTag = some held := by
    rw [← hat.held, ← hlags.held]
    exact hheld
  have hstack : g.stack = stage.opened := hlags.stack.trans hat.stack
  obtain ⟨tag, outer, hholds, hopened, htag, -⟩ | ⟨hnone, -⟩ := stage.held_cases
  · rw [hstage] at htag
    cases htag
    exact ⟨outer, hstack.trans hopened, rfl, by rw [h.records.latest hholds, hopened]; rfl⟩
  · rw [hnone] at hstage
    cases hstage

/-- A closing tag that matches is fused with the tag held, if there is one. -/
theorem fuse?_of_closedBy {close opened : Tag} {outer : List Tag}
    (hheld : ∀ held, g.held = some held → g.stack.head? = some held.tag)
    (hkind : close.kind = .closing) (hstack : g.stack = opened :: outer)
    (hclosed : opened.closedBy close = true) :
    HeldTag.fuse? g.held close g.settings = g.held.map (·.fusedLine g.settings) := by
  cases hg : g.held with
  | none => rfl
  | some held =>
    have htop := hheld held hg
    rw [hstack, List.head?_cons, Option.some.injEq] at htop
    rw [HeldTag.fuse?]
    simp only [hkind, ← htop, hclosed, and_self, if_true, Option.map_some]

/-- Between two steps of the first run of a formatter, whatever the chunks of its source and as long
    as its streams have not failed: all lines laid out have been written and counted, the stack holds
    the tags that stay open among those read, and a tag that is held is the last of them, on top of
    the stack, with another tag right behind it. So a closing tag that matches is always fused with
    the tag held. -/
theorem between_steps {stream : Stream} {s : Text} {settings : Settings}
    (hyields : (stream settings.chunkSize.toNat).Yields s) (sink : Sink) (file : Option Text)
    {f g : Formatter} (hstart : start stream sink settings file = .ok f) (hreaches : Reaches f g) :
    g.out = {} ∧
    (∃ before rest tags, (Markup.ofText s).pieces = before ++ rest ∧ ReadAs file before tags ∧
      g.tags = tags.length ∧ (∀ opened, Tag.LeavesOpen tags opened ↔ opened = g.stack) ∧
      ∀ held, g.held = some held →
        g.stack.head? = some held.tag ∧ held.depth = (g.stack.length : Int) - 1 ∧
        tags.getLast? = some held.tag ∧ g.cursor.peek = .ok (some '<')) ∧
    (∃ groups writes, groups <+: (s.layout file).1 ∧ Line.writes settings groups = .ok writes ∧
      g.sink.written = sink.written ++ writes ∧ g.lines = groups.flatten.length) ∧
    ∀ close g' opened outer, nextTag g = (.ok close, g') → close.kind = .closing →
      g'.stack = opened :: outer → opened.closedBy close = true →
      HeldTag.fuse? g'.held close g'.settings = g'.held.map (·.fusedLine g'.settings) := by
  have hleft : g.out = {} ∧ g.HoldsAtTag := by
    cases hreaches with
    | start => exact of_start_eq_ok hstart
    | next _ _ hstep => exact of_step_eq_ok hstep
  obtain ⟨stage, before, rest, tags, groups, writes, h⟩ :=
    hreaches.midway (midway_of_start hyields hstart)
  obtain ⟨dest, shadow, passed, shown, hlags, hat, -⟩ := h.shadow
  have hstack : g.stack = stage.opened := hlags.stack.trans hat.stack
  have hwritten : g.sink.written = sink.written ++ writes := by
    have hsame : (g.unrefused file).sink.written = g.sink.written := rfl
    rw [← hsame, hlags.sink, ← hlags.sink', hat.written]
  have hheld (held : HeldTag) (hg : g.held = some held) :
      g.stack.head? = some held.tag ∧ held.depth = (g.stack.length : Int) - 1 ∧
        tags.getLast? = some held.tag ∧ g.cursor.peek = .ok (some '<') := by
    obtain ⟨outer, htop, hdepth, hlatest⟩ := h.held hg
    refine ⟨by rw [htop]; rfl, ?_, hlatest, hleft.2.resolve_left (by rw [hg]; nofun)⟩
    rw [htop, hdepth, List.length_cons]
    omega
  refine ⟨hleft.1, ⟨before, rest, tags, h.pieces, h.records.read, ?_, fun opened => ?_, hheld⟩,
    ⟨groups, writes, ⟨_, h.layout.symm⟩, h.written, hwritten, h.lines⟩, ?_⟩
  · rw [h.count, h.records.read.length_eq]
  · rw [hstack]
    exact h.records.opened.iff_eq opened
  · intro close g' opened outer hnext hkind hstack' hclosed
    have hheld' : nextTag.Keeps Formatter.held := keeps_nextTag fun _ _ _ => rfl
    have hstacks : nextTag.Keeps Formatter.stack := keeps_nextTag fun _ _ _ => rfl
    have hkept := hheld' g
    have hkept' := hstacks g
    rw [hnext] at hkept hkept'
    refine fuse?_of_closedBy (fun held hg => ?_) hkind hstack' hclosed
    rw [hkept']
    exact (hheld held (hkept.symm.trans hg)).1

/-- Two tags are open and the second one is held. The source fails later, behind the tag that closes
    it. -/
theorem between_steps_nested :
    let stream : Stream := fun _ => .text ['<', 'a', '>', '\n', '<', 'b']
      (.text ['>'] (.text ['<', '/', 'b', '>', '<'] (.broken (.device "gone"))))
    let a : Tag := ⟨['<', 'a', '>'], .opening, ['a'], some 1⟩
    let b : Tag := ⟨['<', 'b', '>'], .opening, ['b'], some 2⟩
    let close : Tag := ⟨['<', '/', 'b', '>'], .closing, ['b'], some 2⟩
    ∃ f g g', start stream {} {} none = .ok f ∧ Reaches f g ∧ g.stack = [b, a] ∧
      g.held = some ⟨b, 1⟩ ∧ g.cursor.peek = .ok (some '<') ∧ nextTag g = (.ok close, g') ∧
      HeldTag.fuse? g'.held close g'.settings = g'.held.map (·.fusedLine g'.settings) := by
  intro stream a b close
  let f : Formatter :=
    { settings := {}
      cursor :=
        { feed := ⟨some ['<', 'a', '>', '\n', '<', 'b'],
            .text ['>'] (.text ['<', '/', 'b', '>', '<'] (.broken (.device "gone"))), 6⟩ }
      sink := {} }
  have hyields : (stream 4096).Yields _ :=
    .chunk (by decide) (.chunk (by decide) (.chunk (by decide) (.broken _)))
  let f₁ : Formatter := (step f).2
  let f₂ : Formatter := (step f₁).2
  let f₃ : Formatter := (nextTag f₂).2
  have hfirst : step f = (.ok (), f₁) := Prod.ext (by decide +kernel) rfl
  have hsecond : step f₁ = (.ok (), f₂) := Prod.ext (by decide +kernel) rfl
  have hreaches : Reaches f f₂ :=
    .next (.next .start (by decide) hfirst) (by decide +kernel) hsecond
  have hnext : nextTag f₂ = (.ok close, f₃) := Prod.ext (by decide +kernel) rfl
  have hstack : f₂.stack = [b, a] ∧ f₃.stack = [b, a] := by decide +kernel
  have hb : f₂.held = some ⟨b, 1⟩ := by decide +kernel
  obtain ⟨-, ⟨_, _, _, -, -, -, -, hheld⟩, -, hfused⟩ :=
    @between_steps stream _ {} hyields {} none f f₂ rfl hreaches
  exact ⟨f, f₂, f₃, rfl, hreaches, hstack.1, hb, (hheld _ hb).2.2.2, hnext,
    hfused close f₃ b [a] hnext rfl hstack.2 rfl⟩

end Formatter

end Reindent
