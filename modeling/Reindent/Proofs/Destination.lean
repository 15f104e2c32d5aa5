-- SUMMARY: What is written to a named file is what is written in memory, up to the first text it refuses.
import Reindent.Proofs.Streaming

/-! # Destinations

Which file a document is from and where it goes to make no difference to how it is read and laid out:
the file is only named in failures, and the sink is only looked at when lines are written. So a
formatter can be given another file and another sink at any point in front of that, and goes on as
before: `carries_prepare`. What a sink that refuses some texts makes of a document therefore follows
from the texts that are written where nothing is refused: `formatStream_redirect`. -/

namespace Reindent

/-! ## Failures -/

/-- The same error, noticed in `file`. -/
def DocumentError.inFile (file : Option Text) (e : DocumentError) : DocumentError :=
  { e with location := { e.location with file } }

/-- The same failure, with the file named in it if it is about a document. -/
def Failure.inFile (file : Option Text) : Failure → Failure
  | .document e => .document (e.inFile file)
  | e => e

@[simp] theorem Failure.inFile_ofRead (file : Option Text) (fault : Fault) :
    (ofRead fault).inFile file = ofRead fault := by
  cases fault <;> rfl

theorem Tag.ofToken_inFile (token : Text) (location : Location) (breakAt? : Option Int)
    (file : Option Text) :
    ofToken token { location with file } breakAt? =
      (ofToken token location breakAt?).mapError (DocumentError.inFile file) := by
  unfold ofToken
  split <;> rfl

/-! ## Attempts -/

namespace Attempt

variable {σ α β : Type}

theorem bind_assoc {γ : Type} (x : Attempt σ α) (k : α → Attempt σ β) (l : β → Attempt σ γ) :
    x >>= k >>= l = x >>= fun a => k a >>= l := by
  funext s
  show Attempt.bind (Attempt.bind x k) l s = Attempt.bind x (fun a => Attempt.bind (k a) l) s
  unfold Attempt.bind
  cases x s with
  | mk r s' => cases r <;> rfl

/-- From the image of a state the second attempt comes to the image of what the first one comes to. -/
def Carries (φ : σ → σ) (ε : Failure → Failure) (x y : Attempt σ α) : Prop :=
  ∀ s, y (φ s) = ((x s).1.mapError ε, φ (x s).2)

namespace Carries

variable {φ : σ → σ} {ε : Failure → Failure}

theorem bind {x y : Attempt σ α} {k l : α → Attempt σ β} (hx : Carries φ ε x y)
    (hk : ∀ a, Carries φ ε (k a) (l a)) : Carries φ ε (x >>= k) (y >>= l) := by
  intro s
  have hs := hx s
  cases h : x s with
  | mk r s' =>
    rw [h] at hs
    cases r with
    | ok a =>
      rw [bind_ok h, bind_ok hs]
      exact hk a s'
    | error e =>
      rw [bind_error h, bind_error hs]
      rfl

theorem state_bind {k l : σ → Attempt σ β} (h : ∀ s, Carries φ ε (k s) (l (φ s))) :
    Carries φ ε (Attempt.state >>= k) (Attempt.state >>= l) :=
  fun s => h s s

theorem pure (a : α) : Carries φ ε (Pure.pure a : Attempt σ α) (Pure.pure a) :=
  fun _ => rfl

theorem fail {e e' : Failure} (h : ε e = e') :
    Carries φ ε (Attempt.fail e : Attempt σ α) (Attempt.fail e') :=
  fun _ => by rw [← h]; rfl

theorem lift {r r' : Except Failure α} (h : r.mapError ε = r') :
    Carries φ ε (Attempt.lift r) (Attempt.lift r') :=
  fun _ => by rw [← h]; rfl

theorem update {f g : σ → σ} (h : ∀ s, φ (f s) = g (φ s)) :
    Carries φ ε (Attempt.update f) (Attempt.update g) :=
  fun s => by rw [Attempt.update, ← h]; rfl

end Carries

end Attempt

/-! ## Cursors -/

namespace Cursor

/-- The cursor in the same text, said to be from `file`. -/
def inFile (file : Option Text) (c : Cursor) : Cursor :=
  { c with file }

variable (file : Option Text)

theorem carries_scanTo (target : Text) :
    (scanTo target).Carries (inFile file) (Failure.inFile file) (scanTo target) := by
  intro ⟨⟨window, reads, delivered⟩, token, firstBreak, place, file'⟩
  unfold scanTo
  cases window with
  | none => rfl
  | some window =>
    dsimp only [inFile]
    cases (Feed.seek target window delivered reads).2.1 with
    | found => rfl
    | ended => rfl
    | failed fault =>
      dsimp only [Except.mapError]
      rw [Failure.inFile_ofRead]
      rfl

theorem carries_advance (skipBlanks : Bool) :
    (advance skipBlanks).Carries (inFile file) (Failure.inFile file) (advance skipBlanks) := by
  intro ⟨⟨window, reads, delivered⟩, token, firstBreak, place, file'⟩
  unfold advance
  rcases window with _ | _ | ⟨char, rest⟩
  · rfl
  · rfl
  · dsimp only [inFile]
    cases (Feed.skip (skipBlanks && Text.isBlank ·) rest delivered reads).2.1 with
    | found => rfl
    | ended => rfl
    | failed fault =>
      dsimp only [Except.mapError]
      rw [Failure.inFile_ofRead]

theorem carries_takeToken :
    takeToken.Carries (inFile file) (Failure.inFile file) takeToken :=
  fun _ => rfl

end Cursor

/-- The sink, if it refused the texts that `p` has a fault for. -/
def Sink.refusing (p : Text → Option Fault) (s : Sink) : Sink :=
  { s with refuses := fun _ t => p t }

/-! ## Formatters -/

namespace Formatter

/-- The formatter in the same place, with a document from `file` and with what `dest` makes of its
    sink. -/
def redirect (file : Option Text) (dest : Sink → Sink) (f : Formatter) : Formatter :=
  { f with cursor := f.cursor.inFile file, sink := dest f.sink }

/-- What is done about a tag, up to the point where its lines are written. -/
def layOut (tag : Tag) : Attempt Formatter Unit :=
  match tag.kind with
  | .closing => do
    let f ← Attempt.state
    match f.stack with
    | [] => Attempt.fail (.malformed (.strayClose tag.text) (f.location tag.line))
    | opened :: outer =>
      Attempt.update fun f => { f with stack := outer }
      expectClosed opened tag
      emitEnd tag
  | .selfClosing | .declaration => do
    release
    emitTag tag
  | .opening => do
    release
    let depth := (← Attempt.state).depth
    Attempt.update fun f => { f with stack := tag :: f.stack }
    holdOrRead tag depth

/-- A step, up to the point where its lines are written. -/
def prepare : Attempt Formatter Unit := do
  layOut (← nextTag)

theorem respond_eq (tag : Tag) : respond tag = layOut tag >>= fun _ => flush := by
  unfold respond layOut
  cases tag.kind with
  | closing =>
    funext f
    unfold closeElement
    dsimp only
    rw [Attempt.bind_assoc, Attempt.state_bind, Attempt.state_bind]
    cases f.stack with
    | nil => rfl
    | cons opened outer => simp only [Attempt.bind_assoc]
  | selfClosing => exact (Attempt.bind_assoc _ _ _).symm
  | declaration => exact (Attempt.bind_assoc _ _ _).symm
  | opening => simp only [openElement, Attempt.bind_assoc]

theorem step_eq : step = prepare >>= fun _ => flush := by
  unfold step prepare
  rw [Attempt.bind_assoc]
  exact congrArg _ (funext respond_eq)

section

variable (file : Option Text) (dest : Sink → Sink)

theorem carries_reading {α : Type} {move : Attempt Cursor α}
    (h : move.Carries (Cursor.inFile file) (Failure.inFile file) move) :
    (reading move).Carries (redirect file dest) (Failure.inFile file) (reading move) := by
  intro f
  show ((move (f.cursor.inFile file)).1,
    { f with cursor := (move (f.cursor.inFile file)).2, sink := dest f.sink }) = _
  rw [h f.cursor]
  rfl

theorem carries_takeTag (line : Nat) :
    (takeTag line).Carries (redirect file dest) (Failure.inFile file) (takeTag line) := by
  refine .bind (.update fun _ => rfl) fun _ => .state_bind fun f => ?_
  refine .bind (carries_reading file dest (Cursor.carries_takeToken file)) fun token => ?_
  refine .state_bind fun f' => .lift ?_
  have hfile := Tag.ofToken_inFile token (f'.location (some line))
    (f.cursor.firstBreak.map Int.ofNat) file
  show _ = (Tag.ofToken token { f'.location (some line) with file } _).mapError Failure.document
  rw [show (redirect file dest f).cursor.firstBreak = f.cursor.firstBreak from rfl, hfile]
  cases Tag.ofToken token (f'.location (some line)) (f.cursor.firstBreak.map Int.ofNat) <;> rfl

theorem carries_readTag : readTag.Carries (redirect file dest) (Failure.inFile file) readTag :=
  .bind (carries_reading file dest (Cursor.carries_scanTo file _)) fun _ =>
  .state_bind fun _ =>
  .bind (carries_reading file dest (Cursor.carries_advance file _)) fun _ =>
  carries_takeTag file dest _

theorem carries_nextTag : nextTag.Carries (redirect file dest) (Failure.inFile file) nextTag :=
  .bind (carries_reading file dest (Cursor.carries_scanTo file _)) fun _ =>
  .bind (carries_reading file dest (Cursor.carries_takeToken file)) fun _ =>
  carries_readTag file dest

theorem carries_emit (line : Text) :
    (emit line).Carries (redirect file dest) (Failure.inFile file) (emit line) :=
  .update fun _ => rfl

theorem carries_emitTag (tag : Tag) :
    (emitTag tag).Carries (redirect file dest) (Failure.inFile file) (emitTag tag) :=
  .state_bind fun _ => carries_emit file dest _

theorem carries_release : release.Carries (redirect file dest) (Failure.inFile file) release := by
  refine .state_bind fun f => ?_
  have hheld : (redirect file dest f).held = f.held := rfl
  rw [hheld]
  cases f.held with
  | none => exact .pure ()
  | some held => exact .bind (carries_emit file dest _) fun _ => .update fun _ => rfl

theorem carries_expectClosed (tag close : Tag) :
    (expectClosed tag close).Carries (redirect file dest) (Failure.inFile file)
      (expectClosed tag close) := by
  refine .state_bind fun f => ?_
  split
  · exact .pure ()
  · exact .fail rfl

theorem carries_emitEnd (tag : Tag) :
    (emitEnd tag).Carries (redirect file dest) (Failure.inFile file) (emitEnd tag) := by
  refine .state_bind fun f => ?_
  have hfuse : HeldTag.fuse? (redirect file dest f).held tag (redirect file dest f).settings =
      HeldTag.fuse? f.held tag f.settings := rfl
  rw [hfuse]
  cases HeldTag.fuse? f.held tag f.settings with
  | some line => exact .bind (.update fun _ => rfl) fun _ => carries_emit file dest _
  | none => exact .bind (carries_release file dest) fun _ => carries_emitTag file dest tag

theorem carries_expectTextClosed (tag close : Tag) :
    (expectTextClosed tag close).Carries (redirect file dest) (Failure.inFile file)
      (expectTextClosed tag close) := by
  refine .state_bind fun f => ?_
  split
  · exact carries_expectClosed file dest tag close
  · exact .fail rfl

theorem inFile_resolved (settings : Settings) (text : Text) :
    (resolved settings text).mapError (Failure.inFile file) = resolved settings text := by
  unfold resolved
  split
  · cases Reference.resolve text <;> rfl
  · rfl

theorem carries_leaf (tag : Tag) (depth : Nat) :
    (leaf tag depth).Carries (redirect file dest) (Failure.inFile file) (leaf tag depth) := by
  refine .bind (carries_reading file dest (Cursor.carries_scanTo file _)) fun _ => ?_
  refine .bind (carries_reading file dest (Cursor.carries_takeToken file)) fun raw => ?_
  refine .state_bind fun f => .bind (.lift (inFile_resolved file _ _)) fun text => ?_
  refine .bind (carries_readTag file dest) fun close => ?_
  refine .bind (carries_expectTextClosed file dest tag close) fun _ => ?_
  exact .bind (.update fun _ => rfl) fun _ => carries_emit file dest _

theorem inFile_peek (c : Cursor) : c.peek.mapError (Failure.inFile file) = c.peek := by
  unfold Cursor.peek
  split <;> rfl

theorem carries_holdOrRead (tag : Tag) (depth : Nat) :
    (holdOrRead tag depth).Carries (redirect file dest) (Failure.inFile file)
      (holdOrRead tag depth) := by
  refine .state_bind fun f => .bind (.lift (inFile_peek file f.cursor)) fun next => ?_
  split
  · exact .update fun _ => rfl
  · exact carries_leaf file dest tag depth

theorem carries_layOut (tag : Tag) :
    (layOut tag).Carries (redirect file dest) (Failure.inFile file) (layOut tag) := by
  unfold layOut
  cases tag.kind with
  | closing =>
    refine .state_bind fun f => ?_
    show Attempt.Carries _ _ _ (match f.stack with | [] => _ | opened :: outer => _)
    cases f.stack with
    | nil => exact .fail rfl
    | cons opened outer =>
      refine .bind (.update fun _ => rfl) fun _ => ?_
      exact .bind (carries_expectClosed file dest opened tag) fun _ => carries_emitEnd file dest tag
  | selfClosing => exact .bind (carries_release file dest) fun _ => carries_emitTag file dest tag
  | declaration => exact .bind (carries_release file dest) fun _ => carries_emitTag file dest tag
  | opening =>
    refine .bind (carries_release file dest) fun _ => .state_bind fun f => ?_
    exact .bind (.update fun _ => rfl) fun _ => carries_holdOrRead file dest tag _

/-- All of a step but its writes is the same whatever the file and the sink. -/
theorem carries_prepare : prepare.Carries (redirect file dest) (Failure.inFile file) prepare :=
  .bind (carries_nextTag file dest) fun tag => carries_layOut file dest tag

theorem carries_finish : finish.Carries (redirect file dest) (Failure.inFile file) finish := by
  intro f
  unfold finish
  show (if f.stack.isEmpty then _ else _) = _
  split <;> rfl

end

/-- Nothing is written in front of the end of a step. -/
theorem sink_prepare (f : Formatter) : (prepare f).2.sink = f.sink := by
  have hsame : prepare f = _ := carries_prepare f.cursor.file (fun _ => f.sink) f
  exact congrArg (·.2.sink) hsame

/-! ## Writing -/

/-- What a formatter comes to, and what it comes to with a document from `file` where `p` says what is
    refused: the same if every text it writes is taken, and else the first fault. -/
inductive Redirected (p : Text → Option Fault) (file : Option Text) (before : List Text) :
    Except Failure Unit × Formatter → Except Failure Unit × Formatter → Prop where
  | taken {r : Except Failure Unit} {f : Formatter} (texts : List Text)
      (hwritten : f.sink.written = before ++ texts) (htaken : ∀ t ∈ texts, p t = none) :
      Redirected p file before (r, f)
        (r.mapError (Failure.inFile file), f.redirect file (Sink.refusing p))
  | refused {r : Except Failure Unit} {f f' : Formatter} {fault : Fault} (texts : List Text)
      (t : Text) (others : List Text) (hwritten : f.sink.written = before ++ (texts ++ t :: others))
      (htaken : ∀ u ∈ texts, p u = none) (hrefused : p t = some fault)
      (hwritten' : f'.sink.written = before ++ texts) :
      Redirected p file before (r, f) (.error (.ofWrite fault), f')

section

variable {f : Formatter}

theorem flush_of_empty (h : f.out.isEmpty = true) : flush f = (.ok (), f) := by
  rw [flush, if_pos h]

theorem flush_of_taken (h : ¬ f.out.isEmpty = true)
    (htaken : f.sink.refuses f.sink.calls f.out.build = none) :
    flush f = (.ok (), { f with
      sink := { f.sink with
        calls := f.sink.calls + 1
        latest := f.out.build :: f.sink.latest }
      out := {} }) := by
  rw [flush, if_neg h, Sink.write, htaken]
  rfl

theorem flush_of_refused (h : ¬ f.out.isEmpty = true) {fault : Fault}
    (hrefused : f.sink.refuses f.sink.calls f.out.build = some fault) :
    flush f = (.error (.ofWrite fault),
      { f with sink := { f.sink with calls := f.sink.calls + 1 } }) := by
  rw [flush, if_neg h, Sink.write, hrefused]

variable {p : Text → Option Fault} {file : Option Text}

theorem redirected_flush (hopen : ∀ call t, f.sink.refuses call t = none) :
    Redirected p file f.sink.written (flush f) (flush (f.redirect file (Sink.refusing p))) := by
  by_cases hempty : f.out.isEmpty = true
  · have hempty' : (f.redirect file (Sink.refusing p)).out.isEmpty = true := hempty
    rw [flush_of_empty hempty, flush_of_empty hempty']
    exact .taken [] (List.append_nil _).symm (by simp)
  · have hempty' : ¬ (f.redirect file (Sink.refusing p)).out.isEmpty = true := hempty
    rw [flush_of_taken hempty (hopen _ _)]
    cases hp : p f.out.build with
    | none =>
      rw [flush_of_taken hempty' hp]
      exact .taken [f.out.build] List.reverse_cons (by simpa using hp)
    | some fault =>
      rw [flush_of_refused hempty' hp]
      exact .refused [] f.out.build [] List.reverse_cons (by simp) hp (List.append_nil _).symm

theorem redirected_step (hopen : ∀ call t, f.sink.refuses call t = none) :
    Redirected p file f.sink.written (step f) (step (f.redirect file (Sink.refusing p))) := by
  have hsame := carries_prepare file (Sink.refusing p) f
  have hsink := sink_prepare f
  rw [step_eq]
  cases hprepare : prepare f with
  | mk r g =>
    rw [hprepare] at hsame hsink
    cases r with
    | ok u =>
      rw [Attempt.bind_ok hprepare, Attempt.bind_ok hsame, ← hsink]
      exact redirected_flush (by rw [hsink]; exact hopen)
    | error e =>
      rw [Attempt.bind_error hprepare, Attempt.bind_error hsame, ← hsink]
      exact .taken [] (List.append_nil _).symm (by simp)

/-- A step changes nothing about what its sink refuses. -/
theorem refuses_step (f : Formatter) : (step f).2.sink.refuses = f.sink.refuses := by
  have hsink := sink_prepare f
  rw [step_eq]
  cases hprepare : prepare f with
  | mk r g =>
    rw [hprepare] at hsink
    cases r with
    | ok u =>
      rw [Attempt.bind_ok hprepare, ← hsink]
      by_cases hempty : g.out.isEmpty = true
      · rw [flush_of_empty hempty]
      · cases hrefuses : g.sink.refuses g.sink.calls g.out.build with
        | none => rw [flush_of_taken hempty hrefuses]
        | some fault => rw [flush_of_refused hempty hrefuses]
    | error e => rw [Attempt.bind_error hprepare, ← hsink]

theorem redirected_finish :
    Redirected p file f.sink.written (finish f) (finish (f.redirect file (Sink.refusing p))) := by
  rw [carries_finish file (Sink.refusing p) f]
  have hsame := finish_snd f
  cases hfinish : finish f with
  | mk r g =>
    rw [hfinish] at hsame
    dsimp only at hsame
    exact .taken [] (by rw [hsame, List.append_nil]) (by simp)

/-- What was written first is taken as well. -/
theorem Redirected.prepend {before texts : List Text} {q q' : Except Failure Unit × Formatter}
    (h : Redirected p file (before ++ texts) q q') (htaken : ∀ t ∈ texts, p t = none) :
    Redirected p file before q q' := by
  cases h with
  | taken texts' hwritten htaken' =>
    refine .taken (texts ++ texts') (by rw [hwritten, List.append_assoc]) ?_
    simpa [or_imp, forall_and] using ⟨htaken, htaken'⟩
  | refused texts' t others hwritten htaken' hrefused hwritten' =>
    refine .refused (texts ++ texts') t others ?_ ?_ hrefused ?_
    · rw [hwritten, List.append_assoc, List.append_assoc]
    · simpa [or_imp, forall_and] using ⟨htaken, htaken'⟩
    · rw [hwritten', List.append_assoc]

/-- A run is the same whatever the file and the sink, up to the first text that the sink refuses. -/
theorem redirected_run (hopen : ∀ call t, f.sink.refuses call t = none) :
    Redirected p file f.sink.written f.run (f.redirect file (Sink.refusing p)).run := by
  induction f using run.induct with
  | case1 f hend =>
    rw [run_of_atEnd hend, run_of_atEnd (f := f.redirect file (Sink.refusing p)) hend]
    exact redirected_finish
  | case2 f hend f' hstep ih =>
    have hend' : ¬ (f.redirect file (Sink.refusing p)).cursor.atEnd = true := hend
    have hsame : Redirected p file _ _ _ := redirected_step hopen
    have hopen' := refuses_step f
    rw [hstep] at hsame hopen'
    rw [run_of_step_ok hend hstep]
    generalize hstep' : step (f.redirect file (Sink.refusing p)) = q at hsame
    cases hsame with
    | taken texts hwritten htaken =>
      rw [run_of_step_ok hend' hstep']
      have hrest := ih (by rw [hopen']; exact hopen)
      rw [hwritten] at hrest
      exact hrest.prepend htaken
    | refused texts t others hwritten htaken hrefused hwritten' =>
      obtain ⟨later, hlater⟩ := written_run f'
      rw [run_of_step_error hend' hstep']
      refine .refused texts t (others ++ later) ?_ htaken hrefused hwritten'
      rw [← hlater, hwritten]
      simp
  | case3 f hend e f' hstep =>
    have hend' : ¬ (f.redirect file (Sink.refusing p)).cursor.atEnd = true := hend
    have hsame : Redirected p file _ _ _ := redirected_step hopen
    rw [hstep] at hsame
    rw [run_of_step_error hend hstep]
    generalize hstep' : step (f.redirect file (Sink.refusing p)) = q at hsame
    cases hsame with
    | taken texts hwritten htaken =>
      rw [run_of_step_error hend' hstep']
      exact .taken texts hwritten htaken
    | refused texts t others hwritten htaken hrefused hwritten' =>
      rw [run_of_step_error hend' hstep']
      exact .refused texts t others hwritten htaken hrefused hwritten'

end

/-- Whether a formatter begins depends only on its source. Where it does not, nothing has been noticed
    about a document. -/
theorem start_cases (stream : Stream) (settings : Settings) :
    (∃ e : Failure, (∀ file, e.inFile file = e) ∧
      ∀ sink file, start stream sink settings file = .error e) ∨
    ∃ feed, Feed.refill ⟨none, stream settings.chunkSize.toNat, 0⟩ = (.ok (), feed) ∧
      ∀ sink file, start stream sink settings file =
        .ok { settings, cursor := { feed, file }, sink } := by
  by_cases hsize : settings.chunkSize < 1
  · refine .inl ⟨.chunkSize settings.chunkSize, fun _ => rfl, fun sink file => ?_⟩
    rw [start, Cursor.start, if_pos hsize]
    rfl
  · cases hrefill : Feed.refill ⟨none, stream settings.chunkSize.toNat, 0⟩ with
    | mk r feed =>
      cases r with
      | error fault =>
        refine .inl ⟨.ofRead fault, fun _ => Failure.inFile_ofRead _ _, fun sink file => ?_⟩
        rw [start, Cursor.start, if_neg hsize, hrefill]
        rfl
      | ok u =>
        refine .inr ⟨feed, rfl, fun sink file => ?_⟩
        rw [start, Cursor.start, if_neg hsize, hrefill]
        rfl

end Formatter

/-- What is written to a sink that refuses the texts `p` has a fault for is what is written in memory,
    with the same result, if there is no such text among it, and else what is in front of the first
    such text. -/
theorem formatStream_redirect (stream : Stream) (settings : Settings) (file : Option Text)
    (p : Text → Option Fault) :
    let memory := formatStream stream {} settings none
    let report := formatStream stream (Sink.refusing p {}) settings file
    (∀ t ∈ memory.sink.written, p t = none) ∧
        report.result = memory.result.mapError (Failure.inFile file) ∧
        report.sink.written = memory.sink.written ∨
      ∃ texts t others fault, memory.sink.written = texts ++ t :: others ∧
        (∀ u ∈ texts, p u = none) ∧ p t = some fault ∧
        report.result = .error (.ofWrite fault) ∧ report.sink.written = texts := by
  intro memory report
  simp only [memory, report, formatStream]
  rcases Formatter.start_cases stream settings with ⟨e, he, hstart⟩ | ⟨feed, -, hstart⟩
  · rw [hstart, hstart]
    refine .inl ⟨by simp [Sink.written], ?_, rfl⟩
    exact congrArg Except.error (he file).symm
  · rw [hstart, hstart]
    have hrun : Formatter.Redirected p file _
        (Formatter.run { settings, cursor := { feed, file := none }, sink := {} }) _ :=
      Formatter.redirected_run fun _ _ => rfl
    dsimp only [Formatter.redirect, Cursor.inFile] at hrun ⊢
    generalize Formatter.run { settings, cursor := { feed, file := none }, sink := {} } = q
      at hrun ⊢
    generalize Formatter.run _ = q' at hrun ⊢
    cases hrun with
    | taken texts hwritten htaken =>
      rename_i r g
      rw [show Sink.written {} ++ texts = texts from rfl] at hwritten
      refine .inl ?_
      cases r with
      | ok u => exact ⟨by rwa [hwritten], rfl, rfl⟩
      | error e => exact ⟨by rwa [hwritten], rfl, rfl⟩
    | refused texts t others hwritten htaken hrefused hwritten' =>
      rename_i r g g' fault
      refine .inr ⟨texts, t, others, fault, ?_, htaken, hrefused, rfl, hwritten'⟩
      cases r with
      | ok u => exact hwritten
      | error e => exact hwritten

end Reindent
