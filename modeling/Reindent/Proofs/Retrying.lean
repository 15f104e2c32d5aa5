-- SUMMARY: Writes that fail lose nothing, repeat nothing and change no order, however often a run is tried again.
import Reindent.Proofs.Lockstep

/-! # Retrying

A write that fails leaves its lines in the output buffer, and the step it belongs to is not undone: a
later run goes on behind it. So a formatter whose writes fail now and then is abreast of one whose
writes never fail. The two are in the same place of the document, and what the first one has written
and still has to write makes up what the second one has written and still has to write. -/

namespace Reindent.Formatter

variable {f g : Formatter}

/-! ## Abreast -/

/-- The formatters differ at most in how much of the same output they have written. -/
structure Abreast (f g : Formatter) : Prop where
  settings : f.settings = g.settings
  cursor : f.cursor = g.cursor
  stack : f.stack = g.stack
  held : f.held = g.held
  tags : f.tags = g.tags
  lines : f.lines = g.lines
  output : f.sink.content ++ f.out.build = g.sink.content ++ g.out.build

theorem agree_reading_abreast {α : Type} (move : Attempt Cursor α) :
    (reading move).Agree Abreast (reading move) := by
  intro f g h
  unfold reading
  rw [h.cursor]
  exact ⟨rfl, { h with cursor := rfl }⟩

theorem lockstep_abreast : Lockstep Abreast (fun _ _ => False) where
  indent h := congrArg Settings.indent h.settings
  resolveReferences h := congrArg Settings.resolveReferences h.settings
  stack h := h.stack
  held h := h.held
  file h := congrArg Cursor.file h.cursor
  setStack _ h := { h with stack := rfl }
  setHeld _ h := { h with held := rfl }
  addLine line h :=
    { h with
      lines := congrArg (· + 1) h.lines
      output := by simp only [Builder.build_appendLine, ← List.append_assoc, h.output] }
  countTag h := { h with tags := congrArg (· + 1) h.tags }
  firstBreak h := congrArg Cursor.firstBreak h.cursor
  scanTo _ := .of_agree (agree_reading_abreast _)
  takeToken := .of_agree (agree_reading_abreast _)
  place h _ := congrArg Cursor.place h.cursor
  advance h _ := Attempt.KeepsUp.of_agree (agree_reading_abreast _) _ _ h
  peek h := .inl (congrArg Cursor.peek h.cursor)

/-! ## Writing -/

/-- Formatters that are abreast stay so, whether their writes succeed or fail. -/
theorem Abreast.flush (h : Abreast f g) : Abreast (flush f).2 (flush g).2 := by
  have hkept {f : Formatter} {sink : Sink} {out : Builder} {writes : List Text}
      (hsink : sink.written = f.sink.written ++ writes)
      (hout : writes.flatten ++ out.build = f.out.build) :
      sink.content ++ out.build = f.sink.content ++ f.out.build := by
    rw [Sink.content, hsink, List.flatten_append, List.append_assoc, hout, Sink.content]
  obtain ⟨_, sink, out, writes, hf, hsink, hout, -⟩ := flush_eq f
  obtain ⟨_, sink', out', writes', hg, hsink', hout', -⟩ := flush_eq g
  rw [hf, hg]
  exact { h with output := by rw [hkept hsink hout, hkept hsink' hout', h.output] }

/-- Formatters that are abreast stay so in every step. If the second one succeeds, it has written all it
    had to, and the first one can fail in writing only. -/
theorem Abreast.step (h : Abreast f g) :
    Abreast (step f).2 (step g).2 ∧
      ((step g).1 = .ok () → (step g).2.out.build = [] ∧
        ((step f).1 = .ok () ∨ ∃ fault, (step f).1 = .error (.ofWrite fault))) := by
  have hpaired := lockstep_abreast.step h
  generalize Formatter.step f = p at hpaired ⊢
  generalize Formatter.step g = q at hpaired ⊢
  cases hpaired with
  | fellOut hfalse => exact hfalse.elim
  | failed e h' => exact ⟨h', fun hok => by cases hok⟩
  | @writing f' g' h' =>
    refine ⟨h'.flush, ?_⟩
    intro hok
    obtain ⟨result, sink, out, _, hf, -, -, hresult⟩ := flush_eq f'
    obtain ⟨result', sink', out', _, hg, -, -, hresult'⟩ := flush_eq g'
    rw [hg] at hok ⊢
    rw [hf]
    dsimp only at hok ⊢
    subst hok
    refine ⟨?_, hresult.imp_left fun hresult => hresult.1⟩
    rcases hresult' with hresult' | ⟨fault, hfault⟩
    · exact hresult'.2
    · cases hfault

/-! ## Runs -/

/-- A run that succeeds succeeds in each of its steps. -/
theorem step_of_run_ok (hmore : ¬ g.cursor.atEnd = true) (hrun : g.run.1 = .ok ()) :
    (Formatter.step g).1 = .ok () ∧ (Formatter.step g).2.run.1 = .ok () := by
  cases hstep : Formatter.step g with
  | mk result g' =>
    cases result with
    | ok =>
      rw [run_of_step_ok hmore hstep] at hrun
      exact ⟨rfl, hrun⟩
    | error e =>
      rw [run_of_step_error hmore hstep] at hrun
      cases hrun

theorem Abreast.not_atEnd (h : Abreast f g) (hmore : ¬ f.cursor.atEnd = true) :
    ¬ g.cursor.atEnd = true :=
  h.cursor ▸ hmore

/-- Where the second formatter succeeds, a run of the first one can fail in writing only. -/
theorem Abreast.run (h : Abreast f g) (hrun : g.run.1 = .ok ()) :
    f.run.1 = .ok () ∨ ∃ fault, f.run.1 = .error (.ofWrite fault) := by
  induction f using run.induct generalizing g with
  | case1 f hend =>
    rw [run_of_atEnd (h.cursor ▸ hend), finish, ← h.stack] at hrun
    rw [run_of_atEnd hend, finish]
    split at hrun
    · rename_i hempty
      rw [if_pos hempty]
      exact .inl rfl
    · cases hrun
  | case2 f hend f' hstep ih =>
    obtain ⟨hok, hrest⟩ := step_of_run_ok (h.not_atEnd hend) hrun
    obtain ⟨habreast, -⟩ := h.step
    rw [hstep] at habreast
    rw [run_of_step_ok hend hstep]
    exact ih habreast hrest
  | case3 f hend e f' hstep =>
    obtain ⟨hok, -⟩ := step_of_run_ok (h.not_atEnd hend) hrun
    obtain ⟨-, hfails⟩ := h.step
    rw [run_of_step_error hend hstep]
    rw [hstep] at hfails
    exact (hfails hok).2

/-- The formatter that has run `n` times, each time from where the run before it has succeeded or
    failed. -/
def rerun : Nat → Formatter → Formatter
  | 0, f => f
  | n + 1, f => rerun n f.run.2

/-! ## Between the steps -/

/-- `g` is what becomes of `f` in `k` steps, taken in one run or in several. A step that fails in
    writing is a step too. -/
inductive Moment (f : Formatter) : Nat → Formatter → Prop where
  | start : Moment f 0 f
  | next {k : Nat} {g : Formatter} (h : Moment f k g) (hmore : ¬ g.cursor.atEnd = true) :
      Moment f (k + 1) (Formatter.step g).2

/-- A run goes from moment to moment. -/
theorem Moment.run {k : Nat} (h : Moment f k g) : ∃ j, Moment f j g.run.2 := by
  induction g using run.induct generalizing k with
  | case1 g hend =>
    rw [run_of_atEnd hend, finish_snd]
    exact ⟨k, h⟩
  | case2 g hend g' hstep ih =>
    have hnext := h.next hend
    rw [hstep] at hnext
    rw [run_of_step_ok hend hstep]
    exact ih hnext
  | case3 g hend e g' hstep =>
    have hnext := h.next hend
    rw [hstep] at hnext
    rw [run_of_step_error hend hstep]
    exact ⟨_, hnext⟩

theorem Moment.rerun {k : Nat} (h : Moment f k g) (n : Nat) : ∃ j, Moment f j (g.rerun n) := by
  induction n generalizing g k with
  | zero => exact ⟨k, h⟩
  | succ n ih =>
    obtain ⟨j, hrun⟩ := h.run
    exact ih hrun

/-- At each moment the first formatter is abreast of the second one, which has nothing left to write. -/
theorem Abreast.moment (h : Abreast f g) (hout : g.out.build = []) (hrun : g.run.1 = .ok ())
    {k : Nat} {f' : Formatter} (hf' : Moment f k f') :
    ∃ g', Moment g k g' ∧ Abreast f' g' ∧ g'.out.build = [] ∧ g'.run.1 = .ok () := by
  induction hf' with
  | start => exact ⟨g, .start, h, hout, hrun⟩
  | next hf' hmore ih =>
    obtain ⟨g', hg', habreast, -, hrun'⟩ := ih
    have hmore' := habreast.not_atEnd hmore
    obtain ⟨hok, hrest⟩ := step_of_run_ok hmore' hrun'
    obtain ⟨hnext, hwritten⟩ := habreast.step
    exact ⟨_, hg'.next hmore', hnext, (hwritten hok).1, hrest⟩

/-! ## Writes that fail -/

/-- The first formatter has come as far as the second one, but some of the output may still be in its
    buffer. -/
structure CaughtUp (f g : Formatter) : Prop where
  output : f.sink.content ++ f.out.build = g.sink.content
  cursor : f.cursor = g.cursor
  stack : f.stack = g.stack
  held : f.held = g.held
  tags : f.tags = g.tags
  lines : f.lines = g.lines

/-- A formatter begins in the same place whatever it writes to. -/
theorem start_abreast {stream : Stream} {settings : Settings} {file : Option Text}
    (hstart : start stream {} settings file = .ok g) (refuses : Nat → Text → Option Fault) :
    ∃ f, start stream { refuses } settings file = .ok f ∧ Abreast f g ∧ g.out.build = [] := by
  cases hcursor : Cursor.start stream settings.chunkSize file with
  | error e =>
    rw [start, hcursor] at hstart
    cases hstart
  | ok cursor =>
    rw [start, hcursor] at hstart
    cases hstart
    refine ⟨{ settings, cursor, sink := { refuses } }, by rw [start, hcursor]; rfl, ?_, rfl⟩
    exact ⟨rfl, rfl, rfl, rfl, rfl, rfl, rfl⟩

/-- Writes may be refused in any pattern and the run be tried again any number of times: if the
    document is formatted where no write is refused, then between any two steps nothing of the output
    has been lost, written twice or put in another order. -/
theorem caughtUp_of_refused {stream : Stream} {settings : Settings} {file : Option Text}
    (hstart : start stream {} settings file = .ok g) (hrun : g.run.1 = .ok ())
    (refuses : Nat → Text → Option Fault) :
    ∃ f, start stream { refuses } settings file = .ok f ∧
      (∀ n, (∃ k, Moment f k (f.rerun n)) ∧
        ((f.rerun n).run.1 = .ok () ∨ ∃ fault, (f.rerun n).run.1 = .error (.ofWrite fault))) ∧
      ∀ k f', Moment f k f' → ∃ g', Moment g k g' ∧ f'.CaughtUp g' := by
  obtain ⟨f, hf, habreast, hout⟩ := start_abreast hstart refuses
  refine ⟨f, hf, fun n => ?_, fun k f' hf' => ?_⟩
  · obtain ⟨k, hmoment⟩ := Moment.start.rerun n
    obtain ⟨g', -, habreast', -, hrun'⟩ := habreast.moment hout hrun hmoment
    exact ⟨⟨k, hmoment⟩, habreast'.run hrun'⟩
  · obtain ⟨g', hg', habreast', hout', -⟩ := habreast.moment hout hrun hf'
    have houtput := habreast'.output
    rw [hout', List.append_nil] at houtput
    exact ⟨g', hg', houtput, habreast'.cursor, habreast'.stack, habreast'.held, habreast'.tags,
      habreast'.lines⟩

/-- The first write is refused, and its line stays in the buffer. -/
theorem caughtUp_of_refused_first :
    let s : Text := ['<', 'a', '/', '>']
    let begun (sink : Sink) : Formatter :=
      { settings := {}, cursor := { feed := ⟨some s, .ended, 4⟩ }, sink }
    let refuses : Nat → Text → Option Fault :=
      fun call _ => if call = 0 then some (.device "full") else none
    (step (begun { refuses })).1 = .error (.stream (.writing (.device "full"))) ∧
      ∃ g', Moment (begun {}) 1 g' ∧ (step (begun { refuses })).2.CaughtUp g' := by
  intro s begun refuses
  have hstart (sink : Sink) : start (fun _ => .text s .ended) sink {} none = .ok (begun sink) := rfl
  have hstep : step (begun {}) = (.ok (), (step (begun {})).2) := rfl
  have hrun : (begun {}).run.1 = .ok () := by
    rw [run_of_step_ok (by decide) hstep, run_of_atEnd (by decide)]
    rfl
  obtain ⟨f, hf, -, hmoments⟩ := caughtUp_of_refused (hstart {}) hrun refuses
  rw [hstart] at hf
  cases hf
  have hmore : ¬ (begun { refuses }).cursor.atEnd = true := by decide
  exact ⟨rfl, hmoments 1 _ (.next .start hmore)⟩

end Reindent.Formatter
