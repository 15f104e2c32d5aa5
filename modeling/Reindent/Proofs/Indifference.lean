-- SUMMARY: Settings decide how lines look and nothing else: all runs over a text make the same moves.
import Mathlib.Data.List.Forall2
import Reindent.Proofs.Chunking
import Reindent.Proofs.DocumentedFailures

/-! # Indifference to settings

How far lines are indented and whether references are resolved are only looked at where a line is laid
out, and a line that has been laid out is never read again. So a formatter makes the same moves as one
that leaves references alone and does not indent, unless it comes to a text that it cannot resolve:
`run_of_mirrors`. What it writes are the lines of the layout, in the same groups, laid out as its
settings say. `run_indifferent` says both of all streams that deliver one text. -/

namespace Reindent

/-! ## Lines -/

namespace Line

variable {settings : Settings}

/-- Only a text that cannot be resolved keeps lines from being laid out. -/
theorem exists_of_layOutAll_eq_error {ls : List Line} {e : Failure}
    (h : layOutAll settings ls = .error e) : ∃ text, Formatter.resolved settings text = .error e := by
  induction ls with
  | nil => cases h
  | cons l ls ih =>
    rw [layOutAll, layOut] at h
    cases hl : Formatter.resolved settings l.text with
    | error e' =>
      rw [hl] at h
      cases h
      exact ⟨l.text, hl⟩
    | ok t =>
      rw [hl] at h
      cases hls : layOutAll settings ls with
      | error e' =>
        rw [hls] at h
        cases h
        exact ih hls
      | ok u =>
        rw [hls] at h
        cases h

theorem exists_of_writes_eq_error {groups : List (List Line)} {e : Failure}
    (h : writes settings groups = .error e) : ∃ text, Formatter.resolved settings text = .error e := by
  have hflat : layOutAll settings groups.flatten = .error e := by
    rw [layOutAll_flatten, h]
    rfl
  exact exists_of_layOutAll_eq_error hflat

/-- A line is never laid out as nothing: it has an end. -/
theorem ne_nil_of_layOutAll {ls : List Line} {t : Text} (h : layOutAll settings ls = .ok t)
    (hne : ls ≠ []) : t ≠ [] := by
  obtain ⟨l, ls, rfl⟩ := List.exists_cons_of_ne_nil hne
  obtain ⟨u, v, -, -, rfl⟩ := layOutAll_cons_eq_ok_iff.1 h
  simp

/-- Each group that has lines is written by itself. -/
theorem forall₂_of_writes {groups : List (List Line)} {ts : List Text}
    (h : writes settings groups = .ok ts) :
    List.Forall₂ (fun group t => layOutAll settings group = .ok t)
      (groups.filter (!·.isEmpty)) ts ∧ [] ∉ ts := by
  induction groups generalizing ts with
  | nil =>
    cases h
    exact ⟨.nil, List.not_mem_nil⟩
  | cons group groups ih =>
    obtain ⟨t, us, hgroup, hgroups, rfl⟩ := writes_cons_eq_ok_iff.1 h
    obtain ⟨hrest, hfull⟩ := ih hgroups
    by_cases hne : group = []
    · simpa [hne] using ⟨hrest, hfull⟩
    · have ht : [] ≠ t := (ne_nil_of_layOutAll hgroup hne).symm
      simpa [hne, hgroup, ht] using ⟨hrest, hfull⟩

end Line

namespace Formatter

/-! ## Formatters with other settings -/

/-- The first formatter has the settings `settings` and the second one leaves references alone. They
    have the same text in front of them and remember the same tags, and nothing that they write is
    refused. What they have laid out may differ. -/
structure Mirrors (settings : Settings) (f g : Formatter) : Prop where
  settings : f.settings = settings
  plain : g.settings.resolveReferences = false
  cursor : f.cursor.Alike g.cursor
  accepts : ∀ call t, f.sink.refuses call t = none
  accepts' : ∀ call t, g.sink.refuses call t = none
  stack : f.stack = g.stack
  held : f.held = g.held
  tags : f.tags = g.tags
  lines : f.lines = g.lines

/-- The failure is that of a text that cannot be resolved. -/
def Unresolved (settings : Settings) (e : Failure) : Prop :=
  ∃ text, resolved settings text = .error e

variable {settings : Settings} {f g : Formatter}

theorem agree_reading_mirrors {α : Type} {move : Attempt Cursor α}
    (h : move.Agree Cursor.Alike move) :
    (reading move).Agree (Mirrors settings) (reading move) :=
  fun f g hfg => ⟨(h f.cursor g.cursor hfg.cursor).1,
    { hfg with cursor := (h f.cursor g.cursor hfg.cursor).2 }⟩

/-- The two make the same moves until the first one comes to a text that it cannot resolve. -/
theorem tandem_mirrors (settings : Settings) :
    Tandem (Mirrors settings) (fun e _ => Unresolved settings e) where
  stack h := h.stack
  held h := h.held
  file h := h.cursor.file
  setStack _ h := { h with stack := rfl }
  setHeld _ h := { h with held := rfl }
  resolved {f g} text h := by
    rw [h.settings, resolved_of_not_resolve h.plain]
    cases hresolved : Formatter.resolved settings text with
    | ok t => exact .inl ⟨t, text, rfl, rfl⟩
    | error e => exact .inr ⟨e, rfl, .inr ⟨text, hresolved⟩⟩
  addLine {_ _ _ _} _ _ _ {_ _ _} _ _ _ h := { h with lines := congrArg (· + 1) h.lines }
  countTag h := { h with tags := congrArg (· + 1) h.tags }
  firstBreak h := h.cursor.firstBreak
  scanTo target := .of_agree (agree_reading_mirrors (Cursor.agree_scanTo target))
  takeToken := .of_agree (agree_reading_mirrors Cursor.agree_takeToken)
  place h _ := h.cursor.place
  advance h _ := Attempt.KeepsUp.of_agree (agree_reading_mirrors (Cursor.agree_advance true)) _ _ h
  peek h := .inl h.cursor.peek

/-- Where nothing is refused, writing succeeds, and changes nothing but the sink and the buffer. -/
theorem flush_of_accepts (h : ∀ call t, f.sink.refuses call t = none) :
    ∃ sink out, flush f = (.ok (), { f with sink, out }) ∧ sink.refuses = f.sink.refuses := by
  by_cases hempty : f.out.isEmpty = true
  · exact ⟨f.sink, f.out, flush_of_empty hempty, rfl⟩
  · exact ⟨_, _, flush_of_taken hempty (h _ _), rfl⟩

theorem follows_flush_mirrors (h : Mirrors settings f g) {E : Failure → Formatter → Prop} :
    Attempt.Follows (Mirrors settings) E (flush f) (flush g) := by
  obtain ⟨sink, out, hflush, hrefuses⟩ := flush_of_accepts h.accepts
  obtain ⟨sink', out', hflush', hrefuses'⟩ := flush_of_accepts h.accepts'
  rw [hflush, hflush']
  exact .agreed _ { h with
    accepts := fun call t => (congrFun (congrFun hrefuses call) t).trans (h.accepts call t)
    accepts' := fun call t => (congrFun (congrFun hrefuses' call) t).trans (h.accepts' call t) }

theorem follows_step_mirrors (h : Mirrors settings f g) :
    Attempt.Follows (Mirrors settings) (fun e _ => Unresolved settings e) (step f) (step g) := by
  have hpaired := (tandem_mirrors settings).step h
  generalize step f = p at hpaired ⊢
  generalize step g = q at hpaired ⊢
  cases hpaired with
  | fellOut hE => exact .fellOut hE
  | failed e h' => exact .agreed _ h'
  | writing h' => exact follows_flush_mirrors h'

theorem follows_finish_mirrors (h : Mirrors settings f g) {E : Failure → Formatter → Prop} :
    Attempt.Follows (Mirrors settings) E (finish f) (finish g) := by
  unfold finish
  rw [h.stack, h.cursor.location]
  split <;> exact .agreed _ h

/-- What one step keeps, a whole run keeps. -/
theorem run_of_mirrors (h : Mirrors settings f g) :
    Attempt.Follows (Mirrors settings) (fun e _ => Unresolved settings e) f.run g.run := by
  induction f using run.induct generalizing g with
  | case1 f hend =>
    rw [run_of_atEnd hend, run_of_atEnd (h.cursor.atEnd ▸ hend)]
    exact follows_finish_mirrors h
  | case2 f hend f' hstep ih =>
    have hfollows := follows_step_mirrors h
    rw [hstep] at hfollows
    generalize hstep' : step g = q at hfollows
    cases hfollows with
    | agreed _ h' =>
      rw [run_of_step_ok hend hstep, run_of_step_ok (h.cursor.atEnd ▸ hend) hstep']
      exact ih h'
  | case3 f hend e f' hstep =>
    have hfollows := follows_step_mirrors h
    rw [hstep] at hfollows
    rw [run_of_step_error hend hstep]
    generalize hstep' : step g = q at hfollows
    cases hfollows with
    | agreed _ h' =>
      rw [run_of_step_error (h.cursor.atEnd ▸ hend) hstep']
      exact .agreed _ h'
    | fellOut hE => exact .fellOut hE

/-! ## Runs over one text -/

variable {s : Text} {feed : Feed} {sink : Sink}

/-- A run that can resolve the texts of all elements comes to what the layout says. -/
theorem run_of_resolvable (hfeed : feed.Shows s) (hsink : ∀ call t, sink.refuses call t = none)
    (htexts : ∀ text ∈ s.elementTexts, ∃ u, resolved settings text = .ok u) :
    (run { settings, cursor := { feed }, sink }).1 = (s.layout none).2.mapError .document := by
  by_cases hnone : (Markup.ofText s).pieces = [] ∧ (Markup.ofText s).tail ≠ []
  · obtain ⟨g, hrun, -⟩ := run_of_no_piece hfeed settings none sink hsink hnone
    rw [hrun, Text.layout, if_pos hnone]
    rfl
  · have hstands := stands_of_start hfeed settings none sink hsink hnone
    rw [Text.layout, if_neg hnone]
    rcases run_cases hstands (Markup.ofText s).unfinished with ⟨-, hrun⟩ | ⟨text, hmem, e, he, -⟩
    · exact hrun
    · obtain ⟨u, hu⟩ := htexts text hmem
      rw [hu] at he
      cases he

/-- The layout of a text cannot be stopped by a reference. -/
theorem not_unresolved_document (settings : Settings) (e : DocumentError) :
    ¬ Unresolved settings (.document e) := by
  rintro ⟨text, htext⟩
  obtain ⟨n, hn⟩ := longReference_of_resolved htext
  cases hn

/-- Such a run writes the groups of the layout. -/
theorem written_of_resolvable (hfeed : feed.Shows s) (hsink : ∀ call t, sink.refuses call t = none)
    (htexts : ∀ text ∈ s.elementTexts, ∃ u, resolved settings text = .ok u) :
    ∃ ts, Line.writes settings (s.layout none).1 = .ok ts ∧
      (run { settings, cursor := { feed }, sink }).2.sink.written = sink.written ++ ts := by
  have hresult := run_of_resolvable hfeed hsink htexts
  have houtcome := outcome_layout hfeed settings none sink hsink
  generalize run _ = r at hresult houtcome ⊢
  generalize s.layout none = layout at hresult houtcome ⊢
  cases houtcome with
  | done hts hg => exact ⟨_, hts, hg⟩
  | refused hts hfailure hg => exact ⟨_, hts, hg⟩
  | @unresolved groups result failure g hts =>
    have hunresolved : Unresolved settings failure := Line.exists_of_writes_eq_error hts
    cases result with
    | ok u => cases hresult
    | error e =>
      cases hresult
      exact absurd hunresolved (not_unresolved_document settings e)

/-- Such a run counts as a run does that leaves references alone. -/
theorem counts_of_resolvable (h : Mirrors settings f g) {outcome : Except DocumentError Unit}
    (hresult : f.run.1 = outcome.mapError .document) :
    f.run.2.depth = g.run.2.depth ∧ f.run.2.tags = g.run.2.tags ∧
      f.run.2.lines = g.run.2.lines := by
  have hfollows := run_of_mirrors h
  generalize f.run = p at hfollows hresult ⊢
  generalize g.run = q at hfollows ⊢
  cases hfollows with
  | agreed r h' => exact ⟨congrArg List.length h'.stack, h'.tags, h'.lines⟩
  | fellOut hE =>
    cases outcome with
    | ok u => cases hresult
    | error e =>
      cases hresult
      exact absurd hE (not_unresolved_document settings e)

/-- The file is only named in the failure. -/
theorem run_inFile (hsink : ∀ call t, sink.refuses call t = none) (file : Option Text) :
    run { settings, cursor := { feed, file }, sink } =
      ((run { settings, cursor := { feed }, sink }).1.mapError (Failure.inFile file),
        (run { settings, cursor := { feed }, sink }).2.redirect file
          (Sink.refusing fun _ => none)) := by
  let f : Formatter := { settings, cursor := { feed }, sink }
  have hsame : sink.refuses = fun _ _ => none := funext fun call => funext (hsink call)
  have hredirect : f.redirect file (Sink.refusing fun _ => none) =
      { settings, cursor := { feed, file }, sink } := by
    rw [redirect, Sink.refusing, ← hsame]
    rfl
  have hredirected : Redirected (fun _ => none) file _ _ _ := redirected_run (f := f) hsink
  rw [hredirect] at hredirected
  generalize run f = p at hredirected ⊢
  generalize run { settings, cursor := { feed, file }, sink } = q at hredirected ⊢
  cases hredirected with
  | taken texts hwritten htaken => rfl
  | refused texts t others hwritten htaken hrefused => cases hrefused

/-- The lines of a text, their groups, the result and the counts of a run do not depend on how far
    lines are indented, on whether references are resolved, on the chunks of the source or on the name
    of the file: what is written for a group are its lines, laid out as the settings say. -/
theorem run_indifferent (s : Text) :
    ∃ (groups : List (List Line)) (outcome : Except DocumentError Unit) (depth tags lines : Nat),
      ∀ (stream : Stream) (settings : Settings) (sink : Sink) (file : Option Text),
        1 ≤ settings.chunkSize → (stream settings.chunkSize.toNat).Delivers s →
        (∀ call t, sink.refuses call t = none) →
        (∀ text ∈ s.elementTexts, ∃ u, resolved settings text = .ok u) →
        ∃ f g ts, start stream sink settings file = .ok f ∧
          f.run = (outcome.mapError fun e => .document (e.inFile file), g) ∧
          g.sink.written = sink.written ++ ts ∧
          List.Forall₂ (fun group t => Line.layOutAll settings group = .ok t) groups ts ∧
          [] ∉ ts ∧ g.depth = depth ∧ g.tags = tags ∧ g.lines = lines := by
  have hpos : 0 < 1 := Nat.one_pos
  let plain : Settings := ⟨[], 1, false⟩
  obtain ⟨feed₀, hfeed₀, -⟩ :=
    start_eq_ok plain (Int.le_refl 1) (Reads.delivers_ofText hpos s) {} none
  let f₀ : Formatter := { settings := plain, cursor := { feed := feed₀ }, sink := {} }
  refine ⟨(s.layout none).1.filter (!·.isEmpty), (s.layout none).2, f₀.run.2.depth, f₀.run.2.tags,
    f₀.run.2.lines, ?_⟩
  intro stream settings sink file hsize hdelivers hsink htexts
  obtain ⟨feed, hfeed, hstart⟩ := start_eq_ok settings hsize hdelivers sink file
  let f : Formatter := { settings, cursor := { feed }, sink }
  have hmirrors : Mirrors settings f f₀ :=
    { settings := rfl
      plain := rfl
      cursor := ⟨⟨s, hfeed, hfeed₀⟩, rfl, rfl, rfl, rfl⟩
      accepts := hsink
      accepts' := fun _ _ => rfl
      stack := rfl
      held := rfl
      tags := rfl
      lines := rfl }
  have hresult : f.run.1 = _ := run_of_resolvable hfeed hsink htexts
  obtain ⟨ts, hts, hwritten⟩ := written_of_resolvable hfeed hsink htexts
  obtain ⟨hdepth, htags, hlines⟩ := counts_of_resolvable hmirrors hresult
  obtain ⟨hgroups, hfull⟩ := Line.forall₂_of_writes hts
  refine ⟨_, f.run.2.redirect file (Sink.refusing fun _ => none), ts, hstart, ?_, hwritten, hgroups,
    hfull, hdepth, htags, hlines⟩
  have hnamed : ((s.layout none).2.mapError Failure.document).mapError (Failure.inFile file) =
      (s.layout none).2.mapError fun e => .document (e.inFile file) := by
    cases (s.layout none).2 <;> rfl
  rw [run_inFile hsink file, ← hnamed, ← hresult]

/-- A text that ends in an open element. With the reference resolved and lines indented by tabs, it
    comes to what it comes to with the reference left alone and nothing indented. -/
theorem run_indifferent_unclosed :
    let s : Text := "<a><b>&lt;</b>".toList
    ∃ f g f' g',
      start (fun _ => .ofChunks [s.take 8, s.drop 8]) {} ⟨['\t'], 8, true⟩ none = .ok f ∧
      start (fun _ => .ofChunks [s]) {} ⟨[], 14, false⟩ none = .ok f' ∧
      f.run = (.error (.malformed (.unclosed [['<', 'a', '>']]) ⟨some 1, none⟩), g) ∧
      f'.run = (.error (.malformed (.unclosed [['<', 'a', '>']]) ⟨some 1, none⟩), g') ∧
      g'.sink.written = ["<a>\n<b>&lt;</b>\n".toList] ∧ g.sink.written.length = 1 ∧
      g.depth = 1 ∧ g.tags = 3 ∧ g.lines = 2 := by
  intro s
  let p : Piece := ⟨[], ['a'], by decide, by decide⟩
  let q : Piece := ⟨[], ['b'], by decide, by decide⟩
  let r : Piece := ⟨"&lt;".toList, ['/', 'b'], by decide, by decide⟩
  have hofText : Markup.ofText s = ⟨[p, q, r], [], .of_not_mem List.not_mem_nil⟩ :=
    Markup.ofText_text ⟨[p, q, r], [], .of_not_mem List.not_mem_nil⟩
  have helements : s.elementTexts = ["&lt;".toList] := by
    rw [Text.elementTexts, hofText, Stage.textsRead_of_ok rfl, Stage.textsRead_of_ok rfl,
      Stage.textsRead]
    rfl
  have hresolvable : ∀ text ∈ s.elementTexts, ∃ u, resolved ⟨['\t'], 8, true⟩ text = .ok u := by
    rw [helements]
    intro text hmem
    cases List.mem_singleton.1 hmem
    cases hresolved : resolved ⟨['\t'], 8, true⟩ "&lt;".toList with
    | ok u => exact ⟨u, rfl⟩
    | error e =>
      obtain ⟨-, digits, hlong, -, hinfix⟩ := resolved_eq_error_iff.1 ⟨e, hresolved⟩
      have hle : digits.length + 2 ≤ 4 := hinfix.length_le
      rw [Reference.digitLimit] at hlong
      omega
  let f₀ : Formatter :=
    { settings := ⟨[], 14, false⟩, cursor := { feed := ⟨some s, .ended, 14⟩ }, sink := {} }
  have hstart : start (fun _ => Reads.ofChunks [s]) {} ⟨[], 14, false⟩ none = .ok f₀ := rfl
  let f₁ : Formatter := (step f₀).2
  let f₂ : Formatter := (step f₁).2
  have hfirst : step f₀ = (.ok (), f₁) := Prod.ext (by decide +kernel) rfl
  have hsecond : step f₁ = (.ok (), f₂) := Prod.ext (by decide +kernel) rfl
  have hrun₀ : f₀.run = finish f₂ := (run_of_step_ok (by decide) hfirst).trans <|
    (run_of_step_ok (by decide +kernel) hsecond).trans (run_of_atEnd (by decide +kernel))
  have hresult₀ : (finish f₂).1 =
      .error (.malformed (.unclosed [['<', 'a', '>']]) ⟨some 1, none⟩) := by decide +kernel
  have hstate₀ : (finish f₂).2.sink.written = ["<a>\n<b>&lt;</b>\n".toList] ∧
      (finish f₂).2.depth = 1 ∧ (finish f₂).2.tags = 3 ∧ (finish f₂).2.lines = 2 := by
    decide +kernel
  generalize finish f₂ = r₀ at hrun₀ hresult₀ hstate₀
  obtain ⟨hwritten₀, hdepth₀, htags₀, hlines₀⟩ := hstate₀
  obtain ⟨groups, outcome, depth, tags, lines, h⟩ := run_indifferent s
  have hdelivers : (Reads.ofChunks [s.take 8, s.drop 8]).Delivers s :=
    .chunk (by decide) (.chunk (by decide) .ended)
  obtain ⟨f, g, ts, hf, hrun, hwritten, hgroups, -, hdepth, htags, hlines⟩ :=
    h (fun _ => _) ⟨['\t'], 8, true⟩ {} none (by decide) hdelivers (fun _ _ => rfl) hresolvable
  have hdelivers' : (Reads.ofChunks [s]).Delivers s := .chunk (by decide) .ended
  obtain ⟨f', g', ts', hf', hrun', hwritten', hgroups', -, rfl, rfl, rfl⟩ :=
    h (fun _ => _) ⟨[], 14, false⟩ {} none (by decide) hdelivers' (fun _ _ => rfl)
      fun text _ => ⟨text, resolved_of_not_resolve rfl text⟩
  rw [hstart] at hf'
  cases hf'
  rw [hrun₀] at hrun'
  subst hrun'
  dsimp only at hresult₀ hwritten₀ hdepth₀ htags₀ hlines₀
  have hlength : ts.length = ts'.length := hgroups.length_eq.symm.trans hgroups'.length_eq
  have hcount : g.sink.written.length = g'.sink.written.length := by
    rw [hwritten, hwritten', List.length_append, List.length_append, hlength]
  refine ⟨f, g, f₀, g', hf, hstart, ?_, ?_, hwritten₀, ?_, hdepth.trans hdepth₀,
    htags.trans htags₀, hlines.trans hlines₀⟩
  · rw [hrun, hresult₀]
  · rw [hrun₀, hresult₀]
  · rw [hcount, hwritten₀]
    rfl

end Formatter

end Reindent
