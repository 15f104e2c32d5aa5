-- SUMMARY: A formatter whose source stops early has written a beginning of what it would have written.
import Reindent.Proofs.Delivery
import Reindent.Proofs.Lockstep

/-! # Streaming

A source may stop at any character of a text: in a tag, in blanks that are skipped, or behind an
opening tag, where the next character decides what becomes of it. A formatter that reads from such a
source lags behind one that reads the whole text. The two take the same steps until the first one has
nothing more to read, and nothing is written on the strength of a text that was cut: `run_of_lags`. -/

namespace Reindent

/-- The failure is about a tag that was read to its end. -/
def Failure.atTag : Failure → Bool
  | .document ⟨.mismatch _ _, _⟩ => true
  | .document ⟨.malformed (.brokenTag _), _⟩ => true
  | .document ⟨.malformed (.strayClose _), _⟩ => true
  | .document ⟨.malformed (.mixedContent _ _), _⟩ => true
  | _ => false

@[simp] theorem Failure.atTag_ofRead (fault : Fault) : (Failure.ofRead fault).atTag = false := by
  cases fault <;> rfl

/-! ## Sources that stop -/

/-- The reads give `t` in chunks that are not empty. Then they end or fail, and no reader goes on
    after that. -/
inductive Reads.Yields : Reads → Text → Prop where
  | ended : Yields .ended []
  | stop (next : Reads) : Yields (.text [] next) []
  | broken (fault : Fault) : Yields (.broken fault) []
  | fault (fault : Fault) (next : Reads) : Yields (.fault fault next) []
  | chunk {chunk : Text} {next : Reads} {t : Text} (hne : chunk ≠ []) (h : Yields next t) :
      Yields (.text chunk next) (chunk ++ t)

namespace Feed

/-- There is something in front of the reader, and it is `t` up to where the source stops. -/
def Reaches (f : Feed) (t : Text) : Prop :=
  ∃ window others, f.window = some window ∧ window ≠ [] ∧ f.reads.Yields others ∧ t = window ++ others

theorem Reaches.ne_nil {f : Feed} {t : Text} (h : f.Reaches t) : t ≠ [] := by
  obtain ⟨window, others, -, hne, -, rfl⟩ := h
  simp [hne]

/-- A reader that begins can see what its source yields, unless that is nothing. -/
theorem refill_reaches {reads : Reads} {t : Text} (h : reads.Yields t) (delivered : Nat) :
    (∃ feed, refill ⟨none, reads, delivered⟩ = (.ok (), feed) ∧
      (feed.window = none ∨ feed.Reaches t)) ∨
    ∃ fault feed, refill ⟨none, reads, delivered⟩ = (.error fault, feed) := by
  cases h with
  | ended => exact .inl ⟨_, rfl, .inl rfl⟩
  | stop next => exact .inl ⟨_, rfl, .inl rfl⟩
  | broken fault => exact .inr ⟨_, _, rfl⟩
  | fault fault next => exact .inr ⟨_, _, rfl⟩
  | chunk hne h =>
    refine .inl ⟨_, by simp [refill, hne]; rfl, .inr ?_⟩
    exact ⟨_, _, rfl, hne, h, rfl⟩

/-- Where a passage through what a source yields may end: at its place, or where the source stops. -/
inductive Passed (p : Char → Bool) (t : Text) : Text × Landing × Feed → Prop where
  | found {feed : Feed} (h : feed.Reaches (t.dropWhile p)) : Passed p t (t.takeWhile p, .found, feed)
  | ended {passed : Text} {feed : Feed} (h : feed.window = none) : Passed p t (passed, .ended, feed)
  | failed (passed : Text) (fault : Fault) (feed : Feed) : Passed p t (passed, .failed fault, feed)

theorem passed_of_ends {p : Char → Bool} {window others : Text} {reads : Reads}
    (hw : window.dropWhile p ≠ []) (h : reads.Yields others) (keep : Text → Text) (delivered : Nat) :
    Passed p (window ++ others) (pass (cutWhile? p) keep window delivered reads) := by
  rw [pass_of_ends hw, ← takeWhile_append_of_ends hw others]
  apply Passed.found
  exact ⟨_, _, rfl, hw, h, dropWhile_append_of_ends hw others⟩

/-- A window that is passed whole leads to the next chunk, or to where the source stops. -/
theorem Passed.cons {p : Char → Bool} {window t : Text} (hw : window.dropWhile p = [])
    {passed : Text} {landing : Landing} {feed : Feed} (h : Passed p t (passed, landing, feed)) :
    Passed p (window ++ t) (window ++ passed, landing, feed) := by
  have hall := List.dropWhile_eq_nil_iff.1 hw
  cases h with
  | found h =>
    rw [← List.takeWhile_append_of_pos hall]
    apply Passed.found
    rwa [List.dropWhile_append_of_pos hall]
  | ended h => exact .ended h
  | failed passed fault feed => exact .failed _ _ _

theorem pass_of_yields {reads : Reads} {others : Text} (h : reads.Yields others)
    (p : Char → Bool) (keep : Text → Text) (window : Text) (delivered : Nat) :
    Passed p (window ++ others) (pass (cutWhile? p) keep window delivered reads) := by
  induction h generalizing window delivered with
  | ended =>
    by_cases hw : window.dropWhile p = []
    · simpa [pass, cutWhile?_eq, hw] using Passed.ended rfl
    · exact passed_of_ends hw .ended keep delivered
  | stop next =>
    by_cases hw : window.dropWhile p = []
    · simpa [pass, cutWhile?_eq, hw] using Passed.ended rfl
    · exact passed_of_ends hw (.stop next) keep delivered
  | broken fault =>
    by_cases hw : window.dropWhile p = []
    · simpa [pass, cutWhile?_eq, hw] using Passed.failed _ _ _
    · exact passed_of_ends hw (.broken fault) keep delivered
  | fault fault next =>
    by_cases hw : window.dropWhile p = []
    · simpa [pass, cutWhile?_eq, hw] using Passed.failed _ _ _
    · exact passed_of_ends hw (.fault fault next) keep delivered
  | @chunk chunk next others hne h ih =>
    by_cases hw : window.dropWhile p = []
    · rw [pass]
      simp only [cutWhile?_eq, hw, if_true, List.isEmpty_iff, hne, if_false]
      exact (ih chunk _).cons hw
    · exact passed_of_ends hw (.chunk hne h) keep delivered

end Feed

/-! ## Cursors -/

namespace Cursor

variable {t : Text} {c d : Cursor}

/-- The first cursor is where the second one is, and `t` more is in front of the second one; or the
    first one has come to the end of what it can read. -/
structure Lags (t : Text) (c d : Cursor) : Prop where
  ahead : c.feed.window = none ∨
    ∃ u, c.feed.Reaches u ∧ d.feed.Shows (u ++ t) ∧ c.place = d.place
  token : c.token = d.token
  firstBreak : c.firstBreak = d.firstBreak
  file : c.file = d.file

/-- In front of its end the first cursor is in the same place as the second one. -/
theorem Lags.of_atEnd_eq_false (h : c.Lags t d) (hmore : c.atEnd = false) :
    ∃ u, c.feed.Reaches u ∧ d.feed.Shows (u ++ t) ∧ c.place = d.place := by
  rcases h.ahead with hnone | hahead
  · rw [Cursor.atEnd, hnone] at hmore
    cases hmore
  · exact hahead

theorem Lags.not_atEnd (h : c.Lags t d) (hmore : ¬ c.atEnd = true) : ¬ d.atEnd = true := by
  obtain ⟨u, hreaches, hshows, -⟩ := h.of_atEnd_eq_false (eq_false_of_ne_true hmore)
  rw [atEnd_eq hshows, List.isEmpty_iff, List.append_eq_nil_iff]
  exact fun hnil => hreaches.ne_nil hnil.1

theorem peek_of_reaches {u : Text} (h : c.feed.Reaches u) : c.peek = .ok u.head? := by
  obtain ⟨window, others, hwindow, hne, -, rfl⟩ := h
  rw [Cursor.peek, hwindow]
  cases window with
  | nil => exact absurd rfl hne
  | cons char rest => rfl

theorem scanTo_of_end (h : c.feed.window = none) (target : Char) :
    scanTo [target] c = (.error (.malformed (.endOfInput [target]) c.location), c) := by
  rw [scanTo, h]

theorem follows_scanTo (h : c.Lags t d) (target : Char) :
    Attempt.Follows (Lags t) (fun e _ => e.atTag = false) (scanTo [target] c)
      (scanTo [target] d) := by
  rcases h.ahead with hnone | ⟨u, hreaches, hshows, hplace⟩
  · rw [scanTo_of_end hnone]
    exact .fellOut rfl
  · obtain ⟨window, others, hwindow, -, hothers, rfl⟩ := hreaches
    have hpassed := Feed.pass_of_yields hothers (· != target) id window c.feed.delivered
    have hseek : Feed.seek [target] window c.feed.delivered c.feed.reads = _ :=
      congrArg (Feed.pass · id window c.feed.delivered c.feed.reads)
        (funext (Feed.cut?_singleton target))
    rw [← hseek] at hpassed
    rw [scanTo, hwindow]
    dsimp only
    generalize Feed.seek [target] window c.feed.delivered c.feed.reads = passage at hpassed ⊢
    cases hpassed with
    | found hfeed =>
      have hends := hfeed.ne_nil
      obtain ⟨feed', hfeed', heq⟩ := scanTo_eq hshows target
      rw [Feed.dropWhile_append_of_ends hends] at hfeed'
      rw [heq, Feed.takeWhile_append_of_ends hends, Feed.dropWhile_append_of_ends hends,
        if_neg (by simp [hends])]
      apply Attempt.Follows.agreed
      exact
        { ahead := .inr ⟨_, hfeed, hfeed', by simp [absorb, hplace]⟩
          token := by simp [absorb, h.token]
          firstBreak := by simp [absorb, h.token, h.firstBreak]
          file := h.file }
    | ended hnone => exact .fellOut rfl
    | failed passed fault feed => exact .fellOut (Failure.atTag_ofRead fault)

theorem follows_advance (h : c.Lags t d) (hmore : c.atEnd = false) (skipBlanks : Bool) :
    Attempt.Follows (Lags t) (fun e _ => e.atTag = false) (advance skipBlanks c)
      (advance skipBlanks d) := by
  obtain ⟨u, ⟨window, others, hwindow, hne, hothers, rfl⟩, hshows, hplace⟩ :=
    h.of_atEnd_eq_false hmore
  cases window with
  | nil => exact absurd rfl hne
  | cons char rest =>
    have hpassed := Feed.pass_of_yields hothers (skipBlanks && Text.isBlank ·) (fun _ => []) rest
      c.feed.delivered
    change Feed.Passed _ _ (Feed.skip _ _ _ _) at hpassed
    have hshows' : d.feed.Shows (char :: ((rest ++ others) ++ t)) := hshows
    obtain ⟨feed', hfeed', heq⟩ := advance_eq hshows' skipBlanks
    rw [heq, advance, hwindow]
    dsimp only
    generalize Feed.skip _ rest c.feed.delivered c.feed.reads = passage at hpassed ⊢
    cases hpassed with
    | found hfeed =>
      have hends := hfeed.ne_nil
      rw [Feed.dropWhile_append_of_ends hends] at hfeed'
      apply Attempt.Follows.agreed
      exact
        { ahead := .inr ⟨_, hfeed, hfeed', by rw [Feed.takeWhile_append_of_ends hends, hplace]⟩
          token := congrArg (· ++ [char]) h.token
          firstBreak := h.firstBreak
          file := h.file }
    | ended hnone =>
      apply Attempt.Follows.agreed
      exact ⟨.inl hnone, congrArg (· ++ [char]) h.token, h.firstBreak, h.file⟩
    | failed passed fault feed => exact .fellOut (Failure.atTag_ofRead fault)

theorem follows_takeToken (h : c.Lags t d) :
    Attempt.Follows (Lags t) (fun e _ => e.atTag = false) (takeToken c) (takeToken d) := by
  rw [takeToken, takeToken, h.token]
  exact .agreed _ ⟨h.ahead, rfl, rfl, h.file⟩

end Cursor

/-! ## Formatters -/

namespace Formatter

variable {t : Text} {dest : Sink} {f g : Formatter}

/-- The first formatter is where the second one is, except that its source stops in front of `t`. What
    they have written is in `dest`. -/
structure Lags (t : Text) (dest : Sink) (f g : Formatter) : Prop where
  cursor : f.cursor.Lags t g.cursor
  sink : f.sink = dest
  sink' : g.sink = dest
  settings : f.settings = g.settings
  stack : f.stack = g.stack
  held : f.held = g.held
  out : f.out = g.out
  tags : f.tags = g.tags
  lines : f.lines = g.lines

/-- The first formatter falls out without having written anything, and not because of a tag. -/
def FellOut (dest : Sink) (e : Failure) (f : Formatter) : Prop :=
  e.atTag = false ∧ f.sink = dest

theorem follows_reading {α : Type} {move : Attempt Cursor α} (hfg : Lags t dest f g)
    (h : Attempt.Follows (Cursor.Lags t) (fun e _ => e.atTag = false) (move f.cursor)
      (move g.cursor)) :
    Attempt.Follows (Lags t dest) (FellOut dest) (reading move f) (reading move g) := by
  unfold reading
  generalize move f.cursor = p at h
  generalize move g.cursor = q at h
  cases h with
  | agreed r hcursor => exact .agreed r { hfg with cursor := hcursor }
  | fellOut he => exact .fellOut ⟨he, hfg.sink⟩

/-- The two see the same character, and where the first one sees none it does not find a tag. -/
theorem Lags.peek (h : Lags t dest f g) : f.cursor.peek = g.cursor.peek ∨
    f.cursor.peek = .ok none ∧
      ∃ e f', reading (Cursor.scanTo ['<']) f = (.error e, f') ∧ FellOut dest e f' := by
  rcases h.cursor.ahead with hnone | ⟨u, hreaches, hshows, -⟩
  · have hscan : reading (Cursor.scanTo ['<']) f =
        (.error (.malformed (.endOfInput ['<']) f.cursor.location), f) := by
      rw [reading, Cursor.scanTo_of_end hnone]
    exact .inr ⟨by rw [Cursor.peek, hnone], _, _, hscan, rfl, h.sink⟩
  · refine .inl ?_
    obtain ⟨char, rest, rfl⟩ := List.exists_cons_of_ne_nil hreaches.ne_nil
    rw [Cursor.peek_of_reaches hreaches, Cursor.peek_eq hshows]
    rfl

theorem lockstep_lags (t : Text) (dest : Sink) : Lockstep (Lags t dest) (FellOut dest) where
  indent h := congrArg Settings.indent h.settings
  resolveReferences h := congrArg Settings.resolveReferences h.settings
  stack h := h.stack
  held h := h.held
  file h := h.cursor.file
  setStack _ h := { h with stack := rfl }
  setHeld _ h := { h with held := rfl }
  addLine line h :=
    { h with out := congrArg (·.appendLine line) h.out, lines := congrArg (· + 1) h.lines }
  countTag h := { h with tags := congrArg (· + 1) h.tags }
  firstBreak h := h.cursor.firstBreak
  scanTo target _ _ h := follows_reading h (Cursor.follows_scanTo h.cursor target)
  takeToken _ _ h := follows_reading h (Cursor.follows_takeToken h.cursor)
  place h hmore := by
    obtain ⟨u, -, -, hplace⟩ := h.cursor.of_atEnd_eq_false hmore
    exact hplace
  advance h hmore := follows_reading h (Cursor.follows_advance h.cursor hmore true)
  peek h := h.peek

/-- The two write the same to the same sink. -/
theorem follows_flush (h : Lags t dest f g) {E : Failure → Formatter → Prop} :
    Attempt.Follows (fun f g => ∃ dest', Lags t dest' f g) E (flush f) (flush g) := by
  unfold flush
  rw [h.out, h.sink, h.sink']
  split
  · exact .agreed _ ⟨dest, h⟩
  · split
    · exact .agreed _ ⟨_, { h with sink := rfl, sink' := rfl, out := rfl }⟩
    · exact .agreed _ ⟨_, { h with sink := rfl, sink' := rfl, out := rfl }⟩

theorem follows_step (h : Lags t dest f g) :
    Attempt.Follows (fun f g => ∃ dest', Lags t dest' f g) (FellOut dest) (step f) (step g) := by
  have hpaired := (lockstep_lags t dest).step h
  generalize step f = p at hpaired ⊢
  generalize step g = q at hpaired ⊢
  cases hpaired with
  | fellOut hE => exact .fellOut hE
  | failed e h' => exact .agreed _ ⟨dest, h'⟩
  | writing h' => exact follows_flush h'

/-! ## What is written stays -/

/-- The formatter has written nothing since `dest`. -/
theorem lockstep_self (dest : Sink) :
    Lockstep (fun f g => f = g ∧ f.sink = dest) (fun _ _ => False) where
  indent h := by rw [h.1]
  resolveReferences h := by rw [h.1]
  stack h := by rw [h.1]
  held h := by rw [h.1]
  file h := by rw [h.1]
  setStack _ h := ⟨by rw [h.1], h.2⟩
  setHeld _ h := ⟨by rw [h.1], h.2⟩
  addLine _ h := ⟨by rw [h.1], h.2⟩
  countTag h := ⟨by rw [h.1], h.2⟩
  firstBreak h := by rw [h.1]
  scanTo target := .of_agree fun f g h => ⟨by rw [h.1], by rw [h.1], h.2⟩
  takeToken := .of_agree fun f g h => ⟨by rw [h.1], by rw [h.1], h.2⟩
  place h _ := by rw [h.1]
  advance h _ := by
    obtain ⟨rfl, hsink⟩ := h
    exact .agreed _ ⟨rfl, hsink⟩
  peek h := .inl (by rw [h.1])

theorem written_flush (f : Formatter) : f.sink.written <+: (flush f).2.sink.written := by
  obtain ⟨_, sink, out, writes, hflush, hsink, -⟩ := flush_eq f
  rw [hflush]
  exact ⟨writes, hsink.symm⟩

theorem written_step (f : Formatter) : f.sink.written <+: (step f).2.sink.written := by
  have hgrows : ∀ {p q}, Tandem.Paired (fun f' g => f' = g ∧ f'.sink = f.sink)
      (fun _ _ => False) p q → f.sink.written <+: p.2.sink.written := by
    intro p q hpaired
    cases hpaired with
    | fellOut hfalse => exact hfalse.elim
    | failed e h => exact h.2 ▸ List.prefix_refl _
    | writing h => exact h.2 ▸ written_flush _
  exact hgrows ((lockstep_self f.sink).step ⟨rfl, rfl⟩)

/-- No run takes back what was written. -/
theorem written_run (f : Formatter) : f.sink.written <+: f.run.2.sink.written := by
  induction f using run.induct with
  | case1 f hend =>
    have hsame : f.run.2 = f := by rw [run_of_atEnd hend, finish_snd]
    exact hsame.symm ▸ List.prefix_refl _
  | case2 f hend f' hstep ih =>
    rw [run_of_step_ok hend hstep]
    have := written_step f
    rw [hstep] at this
    exact this.trans ih
  | case3 f hend e f' hstep =>
    rw [run_of_step_error hend hstep]
    have := written_step f
    rwa [hstep] at this

/-! ## Runs -/

/-- The end of the text is not a tag. -/
theorem atTag_finish {e : Failure} (h : (finish f).1 = .error e) : e.atTag = false := by
  unfold finish at h
  split at h
  · cases h
  · cases h
    rfl

/-- The formatter whose source stops early has written a beginning of what the other one writes. If it
    was stopped by a tag, then so is the other one. -/
theorem run_of_lags (h : Lags t dest f g) :
    f.run.2.sink.written <+: g.run.2.sink.written ∧
      ∀ e : Failure, e.atTag = true → f.run.1 = .error e →
        g.run.1 = .error e ∧ g.run.2.sink.written = f.run.2.sink.written := by
  induction f using run.induct generalizing g dest with
  | case1 f hend =>
    rw [run_of_atEnd hend, finish_snd, h.sink, ← h.sink']
    refine ⟨written_run g, ?_⟩
    intro e htag he
    rw [atTag_finish he] at htag
    cases htag
  | case2 f hend f' hstep ih =>
    have hend' := h.cursor.not_atEnd hend
    have hfollows := follows_step h
    rw [hstep] at hfollows
    generalize hstep' : step g = q at hfollows
    cases hfollows with
    | agreed _ hlags =>
      obtain ⟨dest', hlags⟩ := hlags
      rw [run_of_step_ok hend hstep, run_of_step_ok hend' hstep']
      exact ih hlags
  | case3 f hend e f' hstep =>
    have hend' := h.cursor.not_atEnd hend
    have hfollows := follows_step h
    rw [hstep] at hfollows
    rw [run_of_step_error hend hstep]
    generalize hstep' : step g = q at hfollows
    cases hfollows with
    | agreed _ hlags =>
      obtain ⟨dest', hlags⟩ := hlags
      rw [run_of_step_error hend' hstep', hlags.sink, hlags.sink']
      exact ⟨List.prefix_refl _, fun _ _ he => ⟨he, rfl⟩⟩
    | fellOut hfell =>
      obtain ⟨htag, hsink⟩ := hfell
      dsimp only
      rw [hsink, ← h.sink']
      refine ⟨written_run g, ?_⟩
      intro e' htag' he
      cases he
      rw [htag] at htag'
      cases htag'

/-- A formatter whose source stops begins in front of what the source yields, or does not begin. -/
theorem start_of_yields {stream : Stream} {s : Text} (settings : Settings)
    (hsize : 1 ≤ settings.chunkSize) (h : (stream settings.chunkSize.toNat).Yields s)
    (sink : Sink) (file : Option Text) :
    (∃ feed : Feed, (feed.window = none ∨ feed.Reaches s) ∧
      start stream sink settings file = .ok { settings, cursor := { feed, file }, sink }) ∨
    ∃ fault, start stream sink settings file = .error (.ofRead fault) := by
  rcases Feed.refill_reaches h 0 with ⟨feed, hrefill, hfeed⟩ | ⟨fault, feed, hrefill⟩
  · have hcursor : Cursor.start stream settings.chunkSize file = .ok { feed, file } := by
      rw [Cursor.start, if_neg (by omega), hrefill]
    exact .inl ⟨feed, hfeed, by rw [start, hcursor]; rfl⟩
  · have hcursor : Cursor.start stream settings.chunkSize file = .error (.ofRead fault) := by
      rw [Cursor.start, if_neg (by omega), hrefill]
    exact .inr ⟨fault, by rw [start, hcursor]; rfl⟩

end Formatter

theorem formatStream_of_start {stream : Stream} {sink : Sink} {settings : Settings}
    {file : Option Text} {f : Formatter} (h : Formatter.start stream sink settings file = .ok f) :
    (formatStream stream sink settings file).sink = f.run.2.sink ∧
      ∀ e, (formatStream stream sink settings file).result = .error e ↔ f.run.1 = .error e := by
  rw [formatStream, h]
  dsimp only
  split
  · rename_i heq
    simp [heq]
  · rename_i heq
    simp [heq]

/-- What is written for a text of which the source gives only a beginning, be it that it ends there or
    that it fails, is a beginning of what is written for the whole text. If the beginning fails at a
    tag, then the whole text fails there in the same way, and no more is written for it. -/
theorem formatStream_prefix {stream stream' : Stream} {s t : Text} {settings : Settings}
    (hsize : 1 ≤ settings.chunkSize) (h : (stream settings.chunkSize.toNat).Yields s)
    (h' : (stream' settings.chunkSize.toNat).Delivers (s ++ t)) (sink : Sink)
    (file : Option Text) :
    (formatStream stream sink settings file).sink.written <+:
        (formatStream stream' sink settings file).sink.written ∧
      ∀ e : Failure, e.atTag = true →
        (formatStream stream sink settings file).result = .error e →
        (formatStream stream' sink settings file).result = .error e ∧
          (formatStream stream' sink settings file).sink.written =
            (formatStream stream sink settings file).sink.written := by
  obtain ⟨feed', hshows, hstart'⟩ := Formatter.start_eq_ok settings hsize h' sink file
  obtain ⟨hsink', hresult'⟩ := formatStream_of_start hstart'
  simp only [hsink', hresult']
  rcases Formatter.start_of_yields settings hsize h sink file with
    ⟨feed, hfeed, hstart⟩ | ⟨fault, hstart⟩
  · obtain ⟨hsink, hresult⟩ := formatStream_of_start hstart
    simp only [hsink, hresult]
    have hcursor : Cursor.Lags t { feed, file } { feed := feed', file } :=
      ⟨hfeed.imp_right fun hreaches => ⟨s, hreaches, hshows, rfl⟩, rfl, rfl, rfl⟩
    have hlags : Formatter.Lags t sink { settings, cursor := { feed, file }, sink }
        { settings, cursor := { feed := feed', file }, sink } :=
      ⟨hcursor, rfl, rfl, rfl, rfl, rfl, rfl, rfl, rfl⟩
    exact Formatter.run_of_lags hlags
  · rw [formatStream, hstart]
    dsimp only
    have hgrows := Formatter.written_run { settings, cursor := { feed := feed', file }, sink }
    refine ⟨hgrows, ?_⟩
    intro e htag he
    cases he
    rw [Failure.atTag_ofRead] at htag
    cases htag

/-- A closing tag without an opening tag stops a source that fails right behind it and one that goes
    on. -/
theorem formatStream_prefix_stray :
    let s : Text := ['<', 'a', '/', '>', '<', '/', 'b', '>', '<']
    let cut : Stream := fun _ => .text s (.broken (.device "gone"))
    let whole : Stream := Reads.ofText (s ++ ['c', '/', '>'])
    let failure : Failure := .malformed (.strayClose ['<', '/', 'b', '>']) ⟨some 1, none⟩
    (formatStream cut {} {} none).result = .error failure ∧
      (formatStream whole {} {} none).result = .error failure ∧
      (formatStream whole {} {} none).sink.written = [['<', 'a', '/', '>', '\n']] := by
  intro s cut whole failure
  let f : Formatter :=
    { settings := {}, cursor := { feed := ⟨some s, .broken (.device "gone"), 9⟩ }, sink := {} }
  have hcut : (cut 4096).Yields (s ++ []) := .chunk (by decide) (.broken _)
  have hpos : 0 < 4096 := by decide
  have hwhole : (whole 4096).Delivers (s ++ ['c', '/', '>']) := Reads.delivers_ofText hpos _
  have hsize : 1 ≤ Settings.chunkSize {} := by decide
  have hfirst : f.step = (.ok (), f.step.2) := rfl
  have hsecond : f.step.2.step = (.error failure, f.step.2.step.2) := rfl
  have hrun := (Formatter.run_of_step_ok (by decide) hfirst).trans
    (Formatter.run_of_step_error (by decide) hsecond)
  have hstart : Formatter.start cut {} {} none = .ok f := rfl
  obtain ⟨hsink, hresult⟩ := formatStream_of_start hstart
  rw [hrun] at hsink hresult
  obtain ⟨-, hstops⟩ := formatStream_prefix hsize hcut hwhole {} none
  obtain ⟨hresult', hwritten⟩ := hstops failure rfl ((hresult failure).2 rfl)
  exact ⟨(hresult failure).2 rfl, hresult', hwritten.trans (by rw [hsink]; rfl)⟩

end Reindent
