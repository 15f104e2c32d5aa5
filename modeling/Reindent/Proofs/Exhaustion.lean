-- SUMMARY: Every call and every run comes to an end, and the end of a source is final.
import Reindent.Proofs.Answers
import Reindent.Proofs.CursorSafety
import Reindent.Proofs.Destination

/-! # Exhaustion

A source may go on for ever. What reads from it has come to an end when it has heard finitely many
answers and its outcome does not depend on the others. Every attempt of a formatter hears some answers
and no more: that goes through sequences (`AttendsAt.bind`), so it holds of a step, and of a run because
each step that succeeds passes the end of a tag (`loops_run`). A source that brings text in finitely many
reads only therefore lets every call come to an end, and behind its empty chunk nothing is heard any
more: `demands_finish`. -/

namespace Reindent

theorem Feed.suffix_of_cutWhile? {p : Char → Bool} {t before after : Text}
    (h : cutWhile? p t = some (before, after)) : after <:+ t := by
  rw [cutWhile?_eq] at h
  split at h
  · cases h
  · cases h
    exact List.dropWhile_suffix p

theorem Cursor.peek_of_atEnd {c : Cursor} (h : c.atEnd = true) : c.peek = .ok none := by
  rw [peek, Option.isNone_iff_eq_none.1 h]

namespace Formatter

variable {α β : Type} {f g : Formatter} {log others : List Answer} {m n : Nat}

/-- The formatter with other reads to come. -/
def withReads (f : Formatter) (reads : Reads) : Formatter :=
  { f with cursor := { f.cursor with feed := { f.cursor.feed with reads } } }

/-- The text in the window. -/
def ahead (f : Formatter) : Text :=
  f.cursor.feed.ahead

@[simp] theorem ahead_withReads (f : Formatter) (reads : Reads) : (f.withReads reads).ahead = f.ahead :=
  rfl

/-! ## What an attempt hears -/

/-- The attempt hears `log` and no more, and comes to `r`, whatever the source would answer after that.
    If it succeeds it has passed the ends of at least `n` tags. -/
structure Hears (n : Nat) (x : Attempt Formatter α) (f : Formatter) (log : List Answer)
    (r : Except Failure α × Formatter) : Prop where
  outcome {reads rest : Reads} : reads.Gives log rest →
    x (f.withReads reads) = (r.1, r.2.withReads rest)
  course : Course (∃ e, r.1 = .error e) f.cursor.atEnd log r.2.cursor.atEnd
  ahead : r.2.ahead <:+ f.ahead ++ log.flatMap Answer.text
  tagEnds {a : α} : r.1 = .ok a →
    n + r.2.ahead.count '>' ≤ (f.ahead ++ log.flatMap Answer.text).count '>'
  delivered : r.2.cursor.feed.delivered =
    f.cursor.feed.delivered + (log.flatMap Answer.text).length
  place : f.cursor.atEnd = true → r.2.cursor.place = f.cursor.place

namespace Hears

variable {x : Attempt Formatter α} {k : α → Attempt Formatter β} {r : Except Failure α × Formatter}

/-- What the attempt comes to with the reads that the formatter has. -/
theorem eq {rest : Reads} (h : Hears n x f log r) (hgives : f.cursor.feed.reads.Gives log rest) :
    x f = (r.1, r.2.withReads rest) :=
  h.outcome hgives

/-- The reads that the formatter has make no difference. -/
theorem of_withReads {reads : Reads} (h : Hears n x (f.withReads reads) log r) : Hears n x f log r :=
  { h with }

theorem weaken (h : Hears n x f log r) (hle : m ≤ n) : Hears m x f log r :=
  { h with tagEnds := fun hok => (Nat.add_le_add_right hle _).trans (h.tagEnds hok) }

/-- What does not read hears nothing. -/
theorem of_still (houtcome : ∀ reads, x (f.withReads reads) = (r.1, r.2.withReads reads))
    (hfeed : r.2.cursor.feed = f.cursor.feed) (hplace : r.2.cursor.place = f.cursor.place) :
    Hears 0 x f [] r := by
  have hahead : r.2.ahead = f.ahead := congrArg Feed.ahead hfeed
  have hatEnd : r.2.cursor.atEnd = f.cursor.atEnd :=
    congrArg (fun feed : Feed => feed.window.isNone) hfeed
  exact
    { outcome := by
        rintro reads _ rfl
        exact houtcome reads
      course := hatEnd ▸ .nil _
      ahead := by simp [hahead]
      tagEnds := fun _ => by simp [hahead]
      delivered := by simp [hfeed]
      place := fun _ => hplace }

theorem bind_error {e : Failure} (h : Hears n x f log (.error e, g)) :
    Hears m (x >>= k) f log (.error e, g) where
  outcome hgives := Attempt.bind_error (h.outcome hgives)
  course := h.course.imp fun _ => ⟨e, rfl⟩
  ahead := h.ahead
  tagEnds := nofun
  delivered := h.delivered
  place := h.place

theorem bind_ok {a : α} {q : Except Failure β × Formatter} (h : Hears m x f log (.ok a, g))
    (hk : Hears n (k a) g others q) : Hears (m + n) (x >>= k) f (log ++ others) q where
  outcome hgives := by
    obtain ⟨mid, hlog, hothers⟩ := Reads.gives_append.1 hgives
    rw [Attempt.bind_ok (h.outcome hlog)]
    exact hk.outcome hothers
  course := (h.course.imp fun ⟨e, he⟩ => by cases he).append hk.course
  ahead := by
    obtain ⟨passed, hpassed⟩ := h.ahead
    refine hk.ahead.trans ⟨passed, ?_⟩
    rw [List.flatMap_append, ← List.append_assoc, ← List.append_assoc, ← hpassed]
  tagEnds hok := by
    have hfirst := h.tagEnds rfl
    have hrest := hk.tagEnds hok
    simp only [List.count_append, List.flatMap_append] at hfirst hrest ⊢
    omega
  delivered := by
    have hfirst : g.cursor.feed.delivered = _ := h.delivered
    rw [hk.delivered, hfirst, List.flatMap_append, List.length_append, Nat.add_assoc]
  place hend := by
    have hmid : g.cursor.atEnd = true := (hend ▸ h.course).eq_nil.2
    exact (hk.place hmid).trans (h.place hend)

end Hears

/-- The attempt comes to an end, having heard some of the reads that the formatter has. -/
def AttendsAt (n : Nat) (x : Attempt Formatter α) (f : Formatter) : Prop :=
  ∃ log rest r, f.cursor.feed.reads.Gives log rest ∧ Hears n x f log r

/-- The attempt comes to an end from every state. -/
def Attends (n : Nat) (x : Attempt Formatter α) : Prop :=
  ∀ f, AttendsAt n x f

namespace AttendsAt

variable {x : Attempt Formatter α} {k : α → Attempt Formatter β}

theorem bind_add (hx : AttendsAt m x f) (hk : ∀ a g, x f = (.ok a, g) → AttendsAt n (k a) g) :
    AttendsAt (m + n) (x >>= k) f := by
  obtain ⟨log, mid, ⟨result, g⟩, hgives, hhears⟩ := hx
  cases result with
  | error e => exact ⟨log, mid, _, hgives, hhears.bind_error⟩
  | ok a =>
    obtain ⟨others, rest, r, hgives', hk⟩ := hk a _ (hhears.eq hgives)
    exact ⟨log ++ others, rest, r, Reads.gives_append.2 ⟨mid, hgives, hgives'⟩,
      hhears.bind_ok hk.of_withReads⟩

theorem bind (hx : AttendsAt 0 x f) (hk : ∀ a g, x f = (.ok a, g) → AttendsAt n (k a) g) :
    AttendsAt n (x >>= k) f :=
  Nat.zero_add n ▸ hx.bind_add hk

/-- What follows may look at the state, but not at the reads to come. -/
theorem state_bind {k : Formatter → Attempt Formatter β} (hk : ∀ reads, k (f.withReads reads) = k f)
    (h : AttendsAt n (k f) f) : AttendsAt n (Attempt.state >>= k) f := by
  obtain ⟨log, rest, r, hgives, hhears⟩ := h
  refine ⟨log, rest, r, hgives, { hhears with outcome := fun hgives' => ?_ }⟩
  rw [Attempt.state_bind, hk]
  exact hhears.outcome hgives'

theorem weaken (h : AttendsAt n x f) (hle : m ≤ n) : AttendsAt m x f := by
  obtain ⟨log, rest, r, hgives, hhears⟩ := h
  exact ⟨log, rest, r, hgives, hhears.weaken hle⟩

theorem of_still {r : Except Failure α × Formatter}
    (houtcome : ∀ reads, x (f.withReads reads) = (r.1, r.2.withReads reads))
    (hfeed : r.2.cursor.feed = f.cursor.feed) (hplace : r.2.cursor.place = f.cursor.place) :
    AttendsAt 0 x f :=
  ⟨[], _, r, Reads.gives_nil _, .of_still houtcome hfeed hplace⟩

end AttendsAt

namespace Attends

theorem bind {x : Attempt Formatter α} {k : α → Attempt Formatter β} (hx : Attends 0 x)
    (hk : ∀ a, Attends n (k a)) : Attends n (x >>= k) :=
  fun f => (hx f).bind fun a g _ => hk a g

theorem lift (r : Except Failure α) : Attends 0 (Attempt.lift r : Attempt Formatter α) :=
  fun f => .of_still (r := (r, f)) (fun _ => rfl) rfl rfl

theorem update (u : Formatter → Formatter)
    (hsame : ∀ f reads, u (f.withReads reads) = (u f).withReads reads := by exact fun _ _ => rfl)
    (hcursor : ∀ f, (u f).cursor = f.cursor := by exact fun _ => rfl) :
    Attends 0 (Attempt.update u) :=
  fun f => .of_still (r := (.ok (), u f)) (fun reads => congrArg (Prod.mk _) (hsame f reads))
    (congrArg Cursor.feed (hcursor f)) (congrArg Cursor.place (hcursor f))

end Attends

/-! ## Moves of the cursor -/

/-- What a move comes to when it has landed, if it comes to `atEnd` at the end of the text. -/
def landed (atEnd : Except Failure Unit) : Feed.Landing → Except Failure Unit
  | .found => .ok ()
  | .ended => atEnd
  | .failed fault => .error (.ofRead fault)

/-- A move that passes text of the window, and what comes behind it, hears what the passage hears. -/
theorem Hears.of_passage {x : Attempt Formatter Unit} {c : Cursor}
    (atEnd : Except Failure Unit) {cut : Text → Option (Text × Text)} {keep : Text → Text}
    {window passed : Text} {landing : Feed.Landing}
    (h : Feed.Passage cut keep window f.cursor.feed.delivered log passed landing c.feed)
    (hmore : f.cursor.atEnd = false) (hwindow : window <:+ f.ahead)
    (htagEnds : n + window.count '>' ≤ f.ahead.count '>')
    (houtcome : ∀ {reads rest : Reads}, reads.Gives log rest →
      x (f.withReads reads) = (landed atEnd landing, { f with cursor := c }.withReads rest)) :
    Hears n x f log (landed atEnd landing, { f with cursor := c }) where
  outcome := houtcome
  course := by
    rw [hmore]
    refine h.course.imp ?_
    rintro ⟨fault, rfl⟩
    exact ⟨_, rfl⟩
  ahead := by
    obtain ⟨front, hfront⟩ := hwindow
    refine h.ahead.trans ⟨front, ?_⟩
    rw [← List.append_assoc, hfront]
  tagEnds _ := by
    have hcount := h.ahead.sublist.count_le '>'
    rw [List.count_append] at hcount ⊢
    exact (Nat.add_le_add_left hcount n).trans (by omega)
  delivered := h.delivered
  place hend := by simp [hmore] at hend

theorem attends_scanTo (target : Text) : Attends 0 (reading (Cursor.scanTo target)) := by
  intro f
  cases hwindow : f.cursor.feed.window with
  | none =>
    refine .of_still (r := (.error (.malformed (.endOfInput target) f.cursor.location), f)) ?_ rfl rfl
    intro reads
    simp only [reading, withReads, Cursor.scanTo, hwindow]
    rfl
  | some window =>
    obtain ⟨log, rest, passed, landing, feed, hgives, hpassage⟩ :=
      Feed.exists_passage (Text.cut? target) id (fun hcut => ⟨_, Text.append_of_cut? hcut⟩)
        (fun t => List.suffix_rfl) window f.cursor.feed.delivered f.cursor.feed.reads
    have hahead : f.ahead = window := by rw [ahead, Feed.ahead, hwindow, Option.getD_some]
    let c : Cursor := { f.cursor.absorb passed with feed }
    refine ⟨log, rest, _, hgives, .of_passage (c := c)
      (.error (.malformed (.endOfInput target) c.location)) hpassage ?_ ?_ ?_ ?_⟩
    · rw [Cursor.atEnd, hwindow]
      rfl
    · rw [hahead]
    · rw [hahead, Nat.zero_add]
    · intro reads rest hgives
      simp only [reading, withReads, Cursor.scanTo, hwindow, Feed.seek, hpassage.outcome hgives]
      cases landing <;> rfl

/-- To move on from the end of a tag is to pass it. -/
theorem attendsAt_advance (skipBlanks : Bool) {char : Char} {window : Text}
    (hwindow : f.cursor.feed.window = some (char :: window)) :
    AttendsAt ([char].count '>') (reading (Cursor.advance skipBlanks)) f := by
  obtain ⟨log, rest, passed, landing, feed, hgives, hpassage⟩ :=
    Feed.exists_passage (Feed.cutWhile? (skipBlanks && Text.isBlank ·)) (fun _ => [])
      Feed.suffix_of_cutWhile? (fun t => List.nil_suffix) window f.cursor.feed.delivered
      f.cursor.feed.reads
  have hahead : f.ahead = [char] ++ window := by
    rw [ahead, Feed.ahead, hwindow, Option.getD_some]
    rfl
  let c : Cursor :=
    { f.cursor with
      feed
      token := f.cursor.token ++ [char]
      place := (f.cursor.place.step char).pass passed }
  refine ⟨log, rest, _, hgives, .of_passage (c := c) (.ok ()) hpassage ?_ ?_ ?_ ?_⟩
  · rw [Cursor.atEnd, hwindow]
    rfl
  · rw [hahead]
    exact List.suffix_append _ _
  · rw [hahead, List.count_append]
  · intro reads rest hgives
    simp only [reading, withReads, Cursor.advance, hwindow, Feed.skip, hpassage.outcome hgives]
    cases landing <;> rfl

theorem attends_advance (skipBlanks : Bool) : Attends 0 (reading (Cursor.advance skipBlanks)) := by
  intro f
  match hwindow : f.cursor.feed.window with
  | none =>
    refine .of_still (r := (.ok (), f)) (fun reads => ?_) rfl rfl
    simp only [reading, withReads, Cursor.advance, hwindow]
  | some [] =>
    refine .of_still (r := (.error .pastEnd, f)) (fun reads => ?_) rfl rfl
    simp only [reading, withReads, Cursor.advance, hwindow]
  | some (char :: window) => exact (attendsAt_advance skipBlanks hwindow).weaken (Nat.zero_le _)

theorem attends_takeToken : Attends 0 (reading Cursor.takeToken) :=
  fun f => .of_still (r := reading Cursor.takeToken f) (fun _ => rfl) rfl rfl

/-! ## Steps -/

theorem attends_takeTag (line : Nat) : Attends 0 (takeTag line) := by
  intro f
  refine .of_still (r := takeTag line f) (fun reads => ?_) ?_ ?_
  · rw [takeTag_eq, takeTag_eq]
    rfl
  · rw [takeTag_eq]
  · rw [takeTag_eq]

/-- A tag that was read has its end behind the reader. -/
theorem attends_readTag : Attends 1 readTag := by
  intro f
  refine (attends_scanTo ['>'] f).bind fun _ g hscan => ?_
  refine .state_bind (fun _ => rfl) ?_
  obtain ⟨window, hwindow⟩ := Cursor.window_of_scanTo (reading_eq_ok hscan)
  exact (attendsAt_advance true hwindow).bind_add fun _ g' _ => attends_takeTag _ g'

theorem attends_nextTag : Attends 1 nextTag :=
  .bind (attends_scanTo _) fun _ => .bind attends_takeToken fun _ => attends_readTag

theorem attends_emit (line : Text) : Attends 0 (emit line) :=
  .update _

theorem attends_emitTag (tag : Tag) : Attends 0 (emitTag tag) :=
  fun f => .state_bind (fun _ => rfl) (attends_emit _ f)

theorem attends_release : Attends 0 release := by
  intro f
  refine .state_bind (fun _ => rfl) ?_
  cases f.held with
  | none => exact Attends.lift _ f
  | some held =>
    exact Attends.bind (attends_emit _) (fun _ => .update _) f

theorem attends_flush : Attends 0 flush := by
  intro f
  obtain ⟨_, _, _, _, hflush, -⟩ := flush_eq f
  refine .of_still (r := flush f) (fun reads => ?_) (by rw [hflush]) (by rw [hflush])
  by_cases hempty : f.out.isEmpty = true
  · rw [flush_of_empty hempty]
    exact flush_of_empty (f := f.withReads reads) hempty
  · cases hrefuses : f.sink.refuses f.sink.calls f.out.build with
    | none =>
      rw [flush_of_taken hempty hrefuses]
      exact flush_of_taken (f := f.withReads reads) hempty hrefuses
    | some fault =>
      rw [flush_of_refused hempty hrefuses]
      exact flush_of_refused (f := f.withReads reads) hempty hrefuses

theorem attends_expectClosed (tag close : Tag) : Attends 0 (expectClosed tag close) := by
  intro f
  refine .state_bind (fun _ => rfl) ?_
  split
  · exact Attends.lift _ f
  · exact Attends.lift _ f

theorem attends_emitEnd (tag : Tag) : Attends 0 (emitEnd tag) := by
  intro f
  refine .state_bind (fun _ => rfl) ?_
  cases HeldTag.fuse? f.held tag f.settings with
  | some line =>
    exact Attends.bind (.update _) (fun _ => attends_emit _) f
  | none => exact Attends.bind attends_release (fun _ => attends_emitTag _) f

theorem attends_closeElement (tag : Tag) : Attends 0 (closeElement tag) := by
  intro f
  refine .state_bind (fun _ => rfl) ?_
  cases f.stack with
  | nil => exact Attends.lift _ f
  | cons opened outer =>
    exact Attends.bind (.update _)
      (fun _ => .bind (attends_expectClosed _ _) fun _ => .bind (attends_emitEnd _) fun _ =>
        attends_flush) f

theorem attends_standalone (tag : Tag) : Attends 0 (standalone tag) :=
  .bind attends_release fun _ => .bind (attends_emitTag _) fun _ => attends_flush

theorem attends_expectTextClosed (tag close : Tag) : Attends 0 (expectTextClosed tag close) := by
  intro f
  refine .state_bind (fun _ => rfl) ?_
  split
  · exact attends_expectClosed _ _ f
  · exact Attends.lift _ f

theorem attends_leaf (tag : Tag) (depth : Nat) : Attends 0 (leaf tag depth) := by
  refine .bind (attends_scanTo _) fun _ => .bind attends_takeToken fun raw f => ?_
  refine .state_bind (fun _ => rfl) ((Attends.lift _ f).bind fun text g _ => ?_)
  refine AttendsAt.bind ((attends_readTag g).weaken (Nat.zero_le 1)) fun close g' _ => ?_
  exact Attends.bind (attends_expectTextClosed _ _)
    (fun _ => .bind (.update _) fun _ => attends_emit _) g'

theorem attends_holdOrRead (tag : Tag) (depth : Nat) : Attends 0 (holdOrRead tag depth) := by
  intro f
  refine .state_bind (fun _ => rfl) ((Attends.lift _ f).bind fun next g _ => ?_)
  split
  · exact (Attends.update _) g
  · exact attends_leaf tag depth g

theorem attends_openElement (tag : Tag) : Attends 0 (openElement tag) := by
  refine .bind attends_release fun _ f => .state_bind (fun _ => rfl) ?_
  exact Attends.bind (.update _)
    (fun _ => .bind (attends_holdOrRead _ _) fun _ => attends_flush) f

theorem attends_respond (tag : Tag) : Attends 0 (respond tag) := by
  unfold respond
  cases tag.kind with
  | closing => exact attends_closeElement tag
  | selfClosing => exact attends_standalone tag
  | declaration => exact attends_standalone tag
  | opening => exact attends_openElement tag

/-- A step that succeeds passes the end of a tag. -/
theorem attends_step : Attends 1 step :=
  fun f => (attends_nextTag f).bind_add fun tag g _ => attends_respond tag g

/-! ## Runs -/

/-- The loop of a run, turn by turn: `k` steps are completed, and then the loop is over, at the end of
    the text or with a step that fails. -/
inductive Loops : Formatter → Nat → Except Failure Unit × Formatter → Prop where
  | ended {f : Formatter} (hend : f.cursor.atEnd = true) : Loops f 0 (finish f)
  | failed {f g : Formatter} {e : Failure} (hmore : ¬ f.cursor.atEnd = true)
      (hstep : step f = (.error e, g)) : Loops f 0 (.error e, g)
  | turn {f g : Formatter} {k : Nat} {r : Except Failure Unit × Formatter}
      (hmore : ¬ f.cursor.atEnd = true) (hstep : step f = (.ok (), g)) (h : Loops g k r) :
      Loops f (k + 1) r

theorem Loops.run_eq {k : Nat} {r : Except Failure Unit × Formatter} (h : Loops f k r) :
    f.run = r := by
  induction h with
  | ended hend => exact run_of_atEnd hend
  | failed hmore hstep => exact run_of_step_error hmore hstep
  | turn hmore hstep h ih => rw [run_of_step_ok hmore hstep, ih]

/-- In front of the end of the text, a run is a step and another run. -/
theorem run_of_more (hmore : ¬ f.cursor.atEnd = true) :
    f.run = (step >>= fun _ => (run : Attempt Formatter Unit)) f := by
  cases hstep : step f with
  | mk result g =>
    cases result with
    | ok => exact (run_of_step_ok hmore hstep).trans (Attempt.bind_ok (k := fun _ => run) hstep).symm
    | error e => exact (run_of_step_error hmore hstep).trans (Attempt.bind_error hstep).symm

theorem Hears.run {r : Except Failure Unit × Formatter} (hmore : ¬ f.cursor.atEnd = true)
    (h : Hears n (step >>= fun _ => (Formatter.run : Attempt Formatter Unit)) f log r) :
    Hears n Formatter.run f log r :=
  { h with
    outcome := fun {reads _} hgives =>
      (run_of_more (f := f.withReads reads) hmore).trans (h.outcome hgives) }

/-- A run comes to an end, and completes no more steps than there are ends of tags in what it has
    passed. -/
theorem loops_run (f : Formatter) :
    ∃ log rest k r, f.cursor.feed.reads.Gives log rest ∧ Hears 0 run f log r ∧
      (∀ {reads rest : Reads}, reads.Gives log rest →
        Loops (f.withReads reads) k (r.1, r.2.withReads rest)) ∧
      k + r.2.ahead.count '>' ≤ (f.ahead ++ log.flatMap Answer.text).count '>' := by
  induction f using run.induct with
  | case1 f hend =>
    have hfinish (reads : Reads) :
        finish (f.withReads reads) = ((finish f).1, (finish f).2.withReads reads) := by
      unfold finish
      cases hstack : f.stack.isEmpty <;> simp [withReads, hstack, Cursor.location]
    have hsame := finish_snd f
    refine ⟨[], _, 0, finish f, Reads.gives_nil _, .of_still (fun reads => ?_) ?_ ?_, ?_, ?_⟩
    · rw [← hfinish]
      exact run_of_atEnd (f := f.withReads reads) hend
    · rw [hsame]
    · rw [hsame]
    · rintro reads _ rfl
      rw [← hfinish]
      exact .ended (f := f.withReads reads) hend
    · rw [hsame]
      simp
  | case2 f hend f' hstep ih =>
    obtain ⟨log, mid, ⟨result, g⟩, hgives, hhears⟩ := attends_step f
    have heq := hhears.eq hgives
    rw [hstep] at heq
    cases heq
    obtain ⟨others, rest, k, r, hgives', hrun, hloops, hcount⟩ := ih
    refine ⟨log ++ others, rest, k + 1, r, Reads.gives_append.2 ⟨mid, hgives, hgives'⟩,
      .run hend ((hhears.bind_ok hrun.of_withReads).weaken (Nat.zero_le _)), ?_, ?_⟩
    · intro reads rest hgives
      obtain ⟨mid, hlog, hothers⟩ := Reads.gives_append.1 hgives
      exact .turn (f := f.withReads reads) hend (hhears.outcome hlog) (hloops hothers)
    · have hpassed := hhears.tagEnds rfl
      simp only [ahead_withReads, List.count_append, List.flatMap_append] at hpassed hcount ⊢
      omega
  | case3 f hend e f' hstep =>
    obtain ⟨log, rest, ⟨result, g⟩, hgives, hhears⟩ := attends_step f
    have heq := hhears.eq hgives
    rw [hstep] at heq
    cases heq
    refine ⟨log, rest, 0, _, hgives, .run hend hhears.bind_error, ?_, ?_⟩
    · intro reads rest hgives
      exact .failed (f := f.withReads reads) hend (hhears.outcome hgives)
    · simpa using hhears.ahead.sublist.count_le '>'

/-! ## Demands -/

/-- What can be demanded of a formatter: something of its cursor, or a run. -/
inductive Demand where
  | ask (request : Cursor.Request)
  | run
  deriving DecidableEq, Repr

/-- Meets a demand, and gives the text that was asked for, if any was. -/
def meet : Demand → Attempt Formatter (Option Text)
  | .ask request => reading (Cursor.ask request)
  | .run => do
    let _ ← (run : Attempt Formatter Unit)
    return none

theorem reading_bind (x : Attempt Cursor α) (k : α → Attempt Cursor β) :
    reading (x >>= k) = reading x >>= fun a => reading (k a) := by
  funext f
  cases h : x f.cursor with
  | mk r c =>
    cases r with
    | ok a =>
      have hx : reading x f = (.ok a, { f with cursor := c }) := by rw [reading, h]
      rw [Attempt.bind_ok hx, reading, Attempt.bind_ok h]
      rfl
    | error e =>
      have hx : reading x f = (.error e, { f with cursor := c }) := by rw [reading, h]
      rw [Attempt.bind_error hx, reading, Attempt.bind_error h]

theorem attends_run : Attends 0 run := by
  intro f
  obtain ⟨log, rest, -, r, hgives, hhears, -⟩ := loops_run f
  exact ⟨log, rest, r, hgives, hhears⟩

theorem attends_meet (demand : Demand) : Attends 0 (meet demand) := by
  cases demand with
  | ask request =>
    cases request with
    | peek =>
      exact fun f => .of_still (r := (f.cursor.peek.map fun next => some next.toList, f)) (fun _ => rfl)
        rfl rfl
    | scanTo target =>
      rw [meet, Cursor.ask, reading_bind]
      exact .bind (attends_scanTo target) fun _ => .lift (.ok none)
    | advance skipBlanks =>
      rw [meet, Cursor.ask, reading_bind]
      exact .bind (attends_advance skipBlanks) fun _ => .lift (.ok none)
    | takeToken =>
      rw [meet, Cursor.ask, reading_bind]
      exact .bind attends_takeToken fun token => .lift (.ok (some token))
  | run => exact .bind attends_run fun _ => .lift (.ok none)

/-! ## Sources that bring text in finitely many reads -/

variable {source : Source} {i : Nat}

/-- The formatter has heard the first `i` answers of a source. An empty chunk can only be the last of
    them, and its window is what is left of their text. -/
structure HasHeard (source : Source) (i : Nat) (f : Formatter) : Prop where
  ended {j : Nat} : j < i → source j = .ok [] → i = j + 1 ∧ f.cursor.atEnd = true
  ahead : f.ahead <:+ source.delivered i

theorem HasHeard.hears {x : Attempt Formatter α} {r : Except Failure α × Formatter}
    (h : HasHeard source i f) (hx : Hears n x f (source.answers i m) r) :
    HasHeard source (i + m) r.2 where
  ended {j} hj hempty := by
    have hcourse := hx.course
    by_cases hji : j < i
    · obtain ⟨hi, hend⟩ := h.ended hji hempty
      rw [hend] at hcourse
      obtain ⟨hnil, hend'⟩ := hcourse.eq_nil
      have hm : m = 0 := by simpa using congrArg List.length hnil
      exact ⟨by omega, hend'⟩
    · have hmem : source j ∈ source.answers i m := Source.mem_answers (not_lt.1 hji) hj
      rw [hempty] at hmem
      obtain ⟨hend, front, hfront, hchunks⟩ := hcourse.eq_concat hmem
      refine ⟨Source.eq_of_not_mem hfront (not_lt.1 hji) hj fun hmem' => ?_, hend⟩
      rw [hempty] at hmem'
      exact Answer.not_isChunk_empty (hchunks _ hmem')
  ahead := by
    obtain ⟨passed, hpassed⟩ := h.ahead
    refine hx.ahead.trans ⟨passed, ?_⟩
    rw [Source.delivered_add, ← hpassed, List.append_assoc]

/-- There are reads that answer all that one call can hear of the source. -/
theorem HasHeard.exists_reads (hfinite : source.chunks.Finite) (h : HasHeard source i f) :
    ∃ reads : Reads, ∀ {log rest failed after}, reads.Gives log rest →
      Course failed f.cursor.atEnd log after → log = source.answers i log.length := by
  apply Source.exists_reads hfinite
  intro hmore j hj hempty
  rw [(h.ended hj hempty).2] at hmore
  cases hmore

/-- A call comes to an end after finitely many reads. -/
theorem HasHeard.exists_hears {x : Attempt Formatter α} (hfinite : source.chunks.Finite)
    (h : HasHeard source i f) (hx : Attends n x) : ∃ m r, Hears n x f (source.answers i m) r := by
  obtain ⟨reads, hreads⟩ := h.exists_reads hfinite
  obtain ⟨log, rest, r, hgives, hhears⟩ := hx (f.withReads reads)
  rw [hreads hgives hhears.course] at hhears
  exact ⟨_, r, hhears.of_withReads⟩

/-- The loop of a run is over after finitely many reads, and its steps are no more than the ends of tags
    that the source has delivered by then. -/
theorem HasHeard.exists_loops (hfinite : source.chunks.Finite) (h : HasHeard source i f) :
    ∃ (m k : Nat) (r : Except Failure Unit × Formatter),
      (∀ {reads rest : Reads}, reads.Gives (source.answers i m) rest →
        Loops (f.withReads reads) k (r.1, r.2.withReads rest)) ∧
      k ≤ (source.delivered (i + m)).count '>' := by
  obtain ⟨reads, hreads⟩ := h.exists_reads hfinite
  obtain ⟨log, rest, k, r, hgives, hhears, hloops, hcount⟩ := loops_run (f.withReads reads)
  have hlog := hreads hgives hhears.course
  rw [hlog] at hloops hcount
  refine ⟨log.length, k, r, hloops, ?_⟩
  have hahead : f.ahead.count '>' ≤ (source.delivered i).count '>' := h.ahead.sublist.count_le '>'
  rw [ahead_withReads, List.count_append] at hcount
  rw [Source.delivered_add, List.count_append]
  omega

/-- Any number of demands is met after finitely many reads. -/
theorem HasHeard.exists_inTurn (hfinite : source.chunks.Finite) (h : HasHeard source i f)
    (demands : List Demand) :
    ∃ (m : Nat) (answers : List (Except Failure (Option Text))) (g : Formatter),
      (∀ {reads rest : Reads}, reads.Gives (source.answers i m) rest →
        Attempt.inTurn meet demands (f.withReads reads) = (answers, g.withReads rest)) ∧
      HasHeard source (i + m) g := by
  induction demands generalizing f i with
  | nil =>
    refine ⟨0, [], f, ?_, h⟩
    rintro reads _ rfl
    rfl
  | cons demand demands ih =>
    obtain ⟨m, r, hhears⟩ := h.exists_hears hfinite (attends_meet demand)
    obtain ⟨m', answers, g, hturns, hg⟩ := ih (h.hears hhears)
    refine ⟨m + m', r.1 :: answers, g, fun {reads rest} hgives => ?_, by rwa [← Nat.add_assoc]⟩
    rw [Source.answers_add] at hgives
    obtain ⟨mid, hfirst, hothers⟩ := Reads.gives_append.1 hgives
    rw [Attempt.inTurn, hhears.outcome hfirst]
    dsimp only
    rw [hturns hothers]

/-! ## The end of a source -/

/-- At the end of the text nothing is read any more, whatever is demanded, and the cursor stays where it
    is. -/
theorem inTurn_of_atEnd (hend : f.cursor.atEnd = true) (demands : List Demand) :
    ∃ (answers : List (Except Failure (Option Text))) (g : Formatter),
      (∀ reads, Attempt.inTurn meet demands (f.withReads reads) = (answers, g.withReads reads)) ∧
        g.cursor.atEnd = true ∧ g.cursor.feed.delivered = f.cursor.feed.delivered ∧
        g.cursor.place = f.cursor.place := by
  induction demands generalizing f with
  | nil => exact ⟨[], f, fun _ => rfl, hend, rfl, rfl⟩
  | cons demand demands ih =>
    obtain ⟨log, rest, r, -, hhears⟩ := attends_meet demand f
    have hcourse := hhears.course
    rw [hend] at hcourse
    obtain ⟨rfl, hend'⟩ := hcourse.eq_nil
    obtain ⟨answers, g, hturns, hg, hdelivered, hplace⟩ := ih hend'
    refine ⟨r.1 :: answers, g, fun reads => ?_, hg, hdelivered.trans hhears.delivered,
      hplace.trans (hhears.place hend)⟩
    rw [Attempt.inTurn, hhears.outcome (Reads.gives_nil reads)]
    dsimp only
    rw [hturns]

/-! ## Beginning -/

section

variable {stream : Stream} {settings : Settings} {rest : Reads}

theorem start_of_fault (hsize : 1 ≤ settings.chunkSize) {fault : Fault}
    (h : (stream settings.chunkSize.toNat).Gives [.error fault] rest) (sink : Sink)
    (file : Option Text) : start stream sink settings file = .error (.ofRead fault) := by
  have hcursor : Cursor.start stream settings.chunkSize file = .error (.ofRead fault) := by
    rw [Cursor.start, if_neg (by omega), Feed.refill_of_fault h.next_eq]
  rw [start, hcursor]
  rfl

/-- The formatter that has read one chunk. -/
def begun (settings : Settings) (chunk : Text) (sink : Sink) (file : Option Text) : Formatter :=
  { settings
    cursor :=
      { feed := ⟨if chunk = [] then none else some chunk, .ended, chunk.length⟩
        file }
    sink }

theorem start_of_chunk (hsize : 1 ≤ settings.chunkSize) {chunk : Text}
    (h : (stream settings.chunkSize.toNat).Gives [.ok chunk] rest) (sink : Sink)
    (file : Option Text) :
    start stream sink settings file = .ok ((begun settings chunk sink file).withReads rest) := by
  have hcursor : Cursor.start stream settings.chunkSize file =
      .ok ((begun settings chunk sink file).withReads rest).cursor := by
    rw [Cursor.start, if_neg (by omega), Feed.refill_of_chunk h.next_eq, Nat.zero_add]
    rfl
  rw [start, hcursor]
  rfl

/-- A formatter that begins has heard one answer. -/
theorem hasHeard_begun {chunk : Text} (h : source 0 = .ok chunk) (settings : Settings) (sink : Sink)
    (file : Option Text) : HasHeard source 1 (begun settings chunk sink file) where
  ended {j} hj hempty := by
    obtain rfl : j = 0 := by omega
    rw [h] at hempty
    cases hempty
    exact ⟨rfl, rfl⟩
  ahead := by
    have hdelivered : source.delivered 1 = chunk := by
      simp [Source.delivered, Source.answers, h, Answer.text]
    rw [hdelivered, ahead, Feed.ahead, begun]
    by_cases hchunk : chunk = []
    · simp [hchunk]
    · simp [hchunk]

end

/-- Whatever is demanded of a formatter, of its cursor or of itself, it comes to an end after `n` reads,
    if the source brings text in finitely many reads only: the outcome is the same whatever the source
    would answer after these, and that is left unread. The empty chunk is the last answer heard, and
    from then on the cursor stays at the end, with what it has read and its line as they are. A run
    completes no more steps than there are ends of tags in what the source has delivered. -/
theorem demands_finish {source : Source} (hfinite : source.chunks.Finite) {settings : Settings}
    (hsize : 1 ≤ settings.chunkSize) (sink : Sink) (file : Option Text) :
    (∀ fault, source 0 = .error fault → ∀ (stream : Stream) (rest : Reads),
      (stream settings.chunkSize.toNat).Gives (source.answers 0 1) rest →
        start stream sink settings file = .error (.ofRead fault)) ∧
    ∀ chunk, source 0 = .ok chunk → ∀ demands,
      ∃ (n : Nat) (answers : List (Except Failure (Option Text))) (g : Formatter),
        (∀ (stream : Stream) (rest : Reads),
          (stream settings.chunkSize.toNat).Gives (source.answers 0 n) rest →
            ∃ f, start stream sink settings file = .ok f ∧
              Attempt.inTurn meet demands f = (answers, g.withReads rest)) ∧
        (∀ i, source i = .ok [] → n ≤ i + 1) ∧
        (∀ i < n, source i = .ok [] → ∀ more,
          ∃ (answers' : List (Except Failure (Option Text))) (g' : Formatter),
            (∀ reads, Attempt.inTurn meet more (g.withReads reads) = (answers', g'.withReads reads)) ∧
            g'.cursor.atEnd = true ∧ g'.cursor.peek = .ok none ∧
            g'.cursor.feed.delivered = g.cursor.feed.delivered ∧
            g'.cursor.place.line = g.cursor.place.line) ∧
        ∃ (m k : Nat) (r : Except Failure Unit × Formatter),
          (∀ reads rest, reads.Gives (source.answers n m) rest →
            (g.withReads reads).run = (r.1, r.2.withReads rest) ∧
              Loops (g.withReads reads) k (r.1, r.2.withReads rest)) ∧
          k ≤ (source.delivered (n + m)).count '>' := by
  have hone : source.answers 0 1 = [source 0] := rfl
  refine ⟨fun fault hfirst stream rest hgives => ?_, fun chunk hfirst demands => ?_⟩
  · rw [hone, hfirst] at hgives
    exact start_of_fault hsize hgives sink file
  · obtain ⟨m, answers, g, hturns, hg⟩ :=
      (hasHeard_begun hfirst settings sink file).exists_inTurn hfinite demands
    refine ⟨1 + m, answers, g, fun stream rest hgives => ?_, fun i hempty => ?_,
      fun i hi hempty more => ?_, ?_⟩
    · rw [Source.answers_add, hone, hfirst] at hgives
      obtain ⟨mid, hbegin, hothers⟩ := Reads.gives_append.1 hgives
      exact ⟨_, start_of_chunk hsize hbegin sink file, hturns hothers⟩
    · by_contra hle
      have := (hg.ended (j := i) (by omega) hempty).1
      omega
    · obtain ⟨answers', g', hmore, hend, hdelivered, hplace⟩ :=
        inTurn_of_atEnd (hg.ended hi hempty).2 more
      exact ⟨answers', g', hmore, hend, Cursor.peek_of_atEnd hend, hdelivered, congrArg Place.line hplace⟩
    · obtain ⟨m', k, r, hloops, hcount⟩ := hg.exists_loops hfinite
      exact ⟨m', k, r, fun reads rest hgives => ⟨(hloops hgives).run_eq, hloops hgives⟩, hcount⟩

/-- A source that fails once and ends, and would go on behind its end: nothing of that is ever read. -/
theorem demands_finish_revived :
    let source : Source := fun
      | 0 => .ok ['<', 'a', '>']
      | 1 => .error (.device "gone")
      | 2 => .ok []
      | _ => .ok ['>']
    source.chunks.Finite ∧ ∀ demands,
      ∃ n ≤ 3, ∃ (answers : List (Except Failure (Option Text))) (g : Formatter),
        ∀ (stream : Stream) (rest : Reads), (stream 4096).Gives (source.answers 0 n) rest →
          ∃ f, start stream {} {} none = .ok f ∧
            Attempt.inTurn meet demands f = (answers, g.withReads rest) := by
  intro source
  have hfinite : source.chunks.Finite := by
    refine (Set.finite_singleton 0).subset fun i hi => ?_
    match i, hi with
    | 0, _ => rfl
    | 1, hi => exact absurd hi.1 (Answer.not_isChunk_fault _)
    | 2, hi => exact absurd hi.1 Answer.not_isChunk_empty
    | i + 3, hi => exact absurd rfl (hi.2 2 (by omega))
  refine ⟨hfinite, fun demands => ?_⟩
  have hsize : 1 ≤ Settings.chunkSize {} := by decide
  obtain ⟨n, answers, g, hmet, hlast, -⟩ :=
    (demands_finish hfinite hsize {} none).2 ['<', 'a', '>'] rfl demands
  exact ⟨n, hlast 2 rfl, answers, g, hmet⟩

end Formatter

end Reindent
