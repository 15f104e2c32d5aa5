-- SUMMARY: How a source is cut into chunks makes no difference to what a formatter does.
import Reindent.Proofs.Delivery
import Reindent.Proofs.Lockstep

/-! # Chunking

Two formatters are alike if they have the same text in front of them, cut into chunks in any two
ways, and do not differ otherwise. Each operation of the formatter keeps them alike and gives the
same result on both, so all their runs do. -/

namespace Reindent

/-! ## Cursors -/

namespace Cursor

/-- The cursors differ at most in the chunks that the text in front of them comes in. -/
structure Alike (c d : Cursor) : Prop where
  ahead : ∃ t, c.feed.Shows t ∧ d.feed.Shows t
  token : c.token = d.token
  firstBreak : c.firstBreak = d.firstBreak
  place : c.place = d.place
  file : c.file = d.file

namespace Alike

variable {c d : Cursor}

theorem atEnd (h : c.Alike d) : c.atEnd = d.atEnd := by
  obtain ⟨t, hc, hd⟩ := h.ahead
  rw [atEnd_eq hc, atEnd_eq hd]

theorem peek (h : c.Alike d) : c.peek = d.peek := by
  obtain ⟨t, hc, hd⟩ := h.ahead
  rw [peek_eq hc, peek_eq hd]

theorem location (h : c.Alike d) : c.location = d.location := by
  rw [Cursor.location, Cursor.location, h.place, h.file]

theorem absorb (h : c.Alike d) (passed : Text) : (c.absorb passed).Alike (d.absorb passed) where
  ahead := h.ahead
  token := by simp [Cursor.absorb, h.token]
  firstBreak := by simp [Cursor.absorb, h.token, h.firstBreak]
  place := by simp [Cursor.absorb, h.place]
  file := h.file

end Alike

theorem agree_scanTo (target : Char) : (scanTo [target]).Agree Alike (scanTo [target]) := by
  intro c d h
  obtain ⟨t, hc, hd⟩ := h.ahead
  obtain ⟨feed, hfeed, heq⟩ := scanTo_eq hc target
  obtain ⟨feed', hfeed', heq'⟩ := scanTo_eq hd target
  have hpast := h.absorb (t.takeWhile (· != target))
  rw [heq, heq', hpast.location]
  exact ⟨rfl, ⟨_, hfeed, hfeed'⟩, hpast.token, hpast.firstBreak, hpast.place, hpast.file⟩

theorem agree_advance (skipBlanks : Bool) :
    (advance skipBlanks).Agree Alike (advance skipBlanks) := by
  intro c d h
  obtain ⟨t, hc, hd⟩ := h.ahead
  cases t with
  | nil =>
    rw [advance_end hc, advance_end hd]
    exact ⟨rfl, h⟩
  | cons char t =>
    obtain ⟨feed, hfeed, heq⟩ := advance_eq hc skipBlanks
    obtain ⟨feed', hfeed', heq'⟩ := advance_eq hd skipBlanks
    rw [heq, heq']
    exact ⟨rfl, ⟨_, hfeed, hfeed'⟩, by simp [h.token], h.firstBreak, by simp [h.place], h.file⟩

theorem agree_takeToken : takeToken.Agree Alike takeToken :=
  fun _ _ h => ⟨congrArg Except.ok h.token, h.ahead, rfl, rfl, h.place, h.file⟩

end Cursor

/-! ## Formatters -/

namespace Formatter

/-- The formatters differ at most in the chunks that the text in front of them comes in, and in the
    chunk size they were told to ask for. -/
structure Alike (f g : Formatter) : Prop where
  cursor : f.cursor.Alike g.cursor
  indent : f.settings.indent = g.settings.indent
  resolveReferences : f.settings.resolveReferences = g.settings.resolveReferences
  sink : f.sink = g.sink
  stack : f.stack = g.stack
  held : f.held = g.held
  out : f.out = g.out
  tags : f.tags = g.tags
  lines : f.lines = g.lines

namespace Alike

variable {f g : Formatter}

theorem depth (h : f.Alike g) : f.depth = g.depth :=
  congrArg List.length h.stack

end Alike

/-! ### Steps and runs -/

theorem agree_reading {α : Type} {move : Attempt Cursor α} (h : move.Agree Cursor.Alike move) :
    (reading move).Agree Alike (reading move) :=
  fun f g hfg => ⟨(h f.cursor g.cursor hfg.cursor).1,
    { hfg with cursor := (h f.cursor g.cursor hfg.cursor).2 }⟩

/-- Formatters that are alike do the same in front of writing, and neither falls out of step. -/
theorem lockstep_alike : Lockstep Alike (fun _ _ => False) where
  indent h := h.indent
  resolveReferences h := h.resolveReferences
  stack h := h.stack
  held h := h.held
  file h := h.cursor.file
  setStack _ h := { h with stack := rfl }
  setHeld _ h := { h with held := rfl }
  addLine line h :=
    { h with out := congrArg (·.appendLine line) h.out, lines := congrArg (· + 1) h.lines }
  countTag h := { h with tags := congrArg (· + 1) h.tags }
  firstBreak h := h.cursor.firstBreak
  scanTo target := .of_agree (agree_reading (Cursor.agree_scanTo target))
  takeToken := .of_agree (agree_reading Cursor.agree_takeToken)
  place h _ := h.cursor.place
  advance h _ := Attempt.KeepsUp.of_agree (agree_reading (Cursor.agree_advance true)) _ _ h
  peek h := .inl h.cursor.peek

theorem agree_flush : flush.Agree Alike flush := by
  intro f g h
  unfold flush
  rw [h.out, h.sink]
  split
  · exact ⟨rfl, h⟩
  · split
    · exact ⟨rfl, { h with sink := rfl, out := rfl }⟩
    · exact ⟨rfl, { h with sink := rfl, out := rfl }⟩

theorem agree_step : step.Agree Alike step := by
  intro f g h
  have hpaired := lockstep_alike.step h
  generalize f.step = p at hpaired ⊢
  generalize g.step = q at hpaired ⊢
  cases hpaired with
  | fellOut hfalse => exact hfalse.elim
  | failed e h' => exact ⟨rfl, h'⟩
  | writing h' => exact agree_flush _ _ h'

theorem agree_finish : finish.Agree Alike finish := by
  intro f g h
  unfold finish
  rw [h.stack, h.cursor.location]
  split <;> exact ⟨rfl, h⟩

/-- What one step keeps, a whole run keeps. -/
theorem agree_run : Attempt.Agree Alike run run := by
  intro f
  induction f using run.induct with
  | case1 f hend =>
    intro g h
    rw [run_of_atEnd hend, run_of_atEnd (h.cursor.atEnd ▸ hend)]
    exact agree_finish f g h
  | case2 f hend f' hstep ih =>
    intro g h
    obtain ⟨hres, halike⟩ := agree_step f g h
    rw [hstep] at hres halike
    have hstep' : g.step = (.ok (), g.step.2) := Prod.ext hres.symm rfl
    rw [run_of_step_ok hend hstep, run_of_step_ok (h.cursor.atEnd ▸ hend) hstep']
    exact ih _ halike
  | case3 f hend e f' hstep =>
    intro g h
    obtain ⟨hres, halike⟩ := agree_step f g h
    rw [hstep] at hres halike
    have hstep' : g.step = (.error e, g.step.2) := Prod.ext hres.symm rfl
    rw [run_of_step_error hend hstep, run_of_step_error (h.cursor.atEnd ▸ hend) hstep']
    exact ⟨rfl, halike⟩

/-! ## Runs in a row -/

/-- What is seen of one run. -/
structure RunRecord where
  result : Except Failure Unit
  /-- What this run has written. -/
  writes : List Text
  depth : Nat
  tags : Nat
  lines : Nat

/-- What is seen of `n` runs in a row, each of which goes on where the one before it succeeded or
    failed. -/
def records : Nat → Formatter → List RunRecord
  | 0, _ => []
  | n + 1, f =>
    let (result, g) := f.run
    ⟨result, g.sink.written.drop f.sink.written.length, g.depth, g.tags, g.lines⟩ :: records n g

theorem records_eq_of_alike {f g : Formatter} (h : f.Alike g) (n : Nat) :
    f.records n = g.records n := by
  induction n generalizing f g with
  | zero => rfl
  | succ n ih =>
    obtain ⟨hres, hafter⟩ := agree_run f g h
    simp only [records, List.cons.injEq, RunRecord.mk.injEq]
    exact ⟨⟨hres, by rw [hafter.sink, h.sink], hafter.depth, hafter.tags, hafter.lines⟩, ih hafter⟩

/-- Formatters that are given the same text, in whatever chunks and whatever chunk size they ask for,
    cannot be told apart by any number of runs. -/
theorem records_eq_of_delivers {s : Text} {stream stream' : Stream} {size size' : Int}
    (hsize : 1 ≤ size) (hsize' : 1 ≤ size') (h : (stream size.toNat).Delivers s)
    (h' : (stream' size'.toNat).Delivers s) (settings : Settings) (sink : Sink)
    (file : Option Text) :
    ∃ f g, start stream sink { settings with chunkSize := size } file = .ok f ∧
      start stream' sink { settings with chunkSize := size' } file = .ok g ∧
      ∀ n, f.records n = g.records n := by
  obtain ⟨feed, hfeed, hf⟩ :=
    start_eq_ok { settings with chunkSize := size } hsize h sink file
  obtain ⟨feed', hfeed', hg⟩ :=
    start_eq_ok { settings with chunkSize := size' } hsize' h' sink file
  refine ⟨_, _, hf, hg, fun n => records_eq_of_alike ?_ n⟩
  have hcursor : Cursor.Alike { feed, file } { feed := feed', file } :=
    ⟨⟨s, hfeed, hfeed'⟩, rfl, rfl, rfl, rfl⟩
  exact ⟨hcursor, rfl, rfl, rfl, rfl, rfl, rfl, rfl, rfl⟩

/-- A `\r\n` inside a name, cut in two or read whole. -/
theorem records_eq_of_cut_break :
    ∃ f g,
      start (fun _ => .ofChunks [['<', 'a', '\r'], ['\n', 'b', '>', ' '], ['<', '/', 'a', '>']])
        {} { chunkSize := 3 } none = .ok f ∧
      start (Reads.ofText ['<', 'a', '\r', '\n', 'b', '>', ' ', '<', '/', 'a', '>'])
        {} { chunkSize := 7 } none = .ok g ∧
      ∀ n, f.records n = g.records n :=
  records_eq_of_delivers (by decide) (by decide) (Reads.delivers_ofChunks (by decide))
    (Reads.delivers_ofText (by decide) _) {} {} none

end Formatter

end Reindent
