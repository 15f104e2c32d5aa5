-- SUMMARY: No formatter asks a cursor for a character that its chunk does not hold, whatever has failed before.
import Reindent.Proofs.Position
import Reindent.Proofs.Retrying
import Reindent.Proofs.TagCount

/-! # Cursor safety

A read that fails behind the last character of a chunk leaves the cursor behind the chunk. It can still
look for a character from there, since that reads the next chunk, but it cannot tell the character
under it or move past it: that fails with `pastEnd`. A formatter never comes to ask for that, in
whatever state it was left, because it asks only where it has just found a tag: `run_ne_pastEnd`.
Where no read fails, a cursor is never left behind its chunk: `shows_ask`. -/

namespace Reindent

theorem Failure.ofRead_ne_pastEnd (fault : Fault) : ofRead fault ≠ .pastEnd := by
  cases fault <;> exact Failure.noConfusion

theorem Failure.ofWrite_ne_pastEnd (fault : Fault) : ofWrite fault ≠ .pastEnd := by
  cases fault <;> exact Failure.noConfusion

/-! ## Cursors -/

/-- A passage that comes to the end of its source leaves no window. -/
theorem Feed.window_of_ended {cut : Text → Option (Text × Text)} {keep : Text → Text} {window : Text}
    {delivered : Nat} {reads : Reads} (h : (pass cut keep window delivered reads).2.1 = .ended) :
    (pass cut keep window delivered reads).2.2.window = none := by
  induction reads generalizing window delivered with
  | ended | broken | fault =>
    unfold pass at h ⊢
    cases hcut : cut window <;> simp_all
  | text chunk next ih =>
    unfold pass at h ⊢
    cases hcut : cut window with
    | some parts => simp [hcut] at h
    | none =>
      by_cases hchunk : chunk.isEmpty = true
      · simp [hchunk]
      · simp only [hcut, hchunk, Bool.false_eq_true, if_false] at h ⊢
        exact ih h

namespace Cursor

variable {c d : Cursor}

/-- The cursor stands on a character of its chunk, or at the end of the text. -/
def InChunk (c : Cursor) : Prop :=
  c.feed.window ≠ some []

instance (c : Cursor) : Decidable c.InChunk :=
  inferInstanceAs (Decidable (_ ≠ _))

theorem peek_eq_pastEnd_iff : c.peek = .error .pastEnd ↔ ¬ c.InChunk := by
  unfold peek InChunk
  rcases c.feed.window with _ | _ | ⟨char, rest⟩ <;> simp

theorem advance_eq_pastEnd_iff (skipBlanks : Bool) :
    (advance skipBlanks c).1 = .error .pastEnd ↔ ¬ c.InChunk := by
  unfold advance InChunk
  rcases c.feed.window with _ | _ | ⟨char, rest⟩
  · simp
  · simp
  · dsimp only
    split
    · simp
    · simp
    · simpa using Failure.ofRead_ne_pastEnd _

/-- A character that was looked for and found is under the cursor. -/
theorem inChunk_of_scanTo {target : Char} (h : scanTo [target] c = (.ok (), d)) : d.InChunk := by
  obtain ⟨rest, hwindow⟩ := window_of_scanTo h
  rw [InChunk, hwindow]
  exact fun hnil => by cases hnil

/-- A cursor that has moved on stands on the next character, or at the end. -/
theorem inChunk_of_advance {skipBlanks : Bool} (h : advance skipBlanks c = (.ok (), d)) :
    d.InChunk := by
  unfold advance at h
  split at h
  · rename_i hwindow
    cases h
    rw [InChunk, hwindow]
    exact fun hnil => by cases hnil
  · cases h
  · dsimp only at h
    split at h
    · rename_i hfound
      cases h
      obtain ⟨window, before, after, hcut, hafter⟩ := Feed.pass_found hfound
      unfold Feed.cutWhile? at hcut
      split at hcut
      · cases hcut
      · cases hcut
        exact fun hnil => by cases hafter.symm.trans hnil
    · rename_i hended
      cases h
      exact fun hnil => by cases (Feed.window_of_ended hended).symm.trans hnil
    · cases h

end Cursor

/-! ## Attempts that do not fail in a certain way -/

namespace Attempt

variable {σ α β : Type} {e : Failure}

/-- A sequence fails with `e` only if one of its parts does. -/
theorem bind_ne_error {x : Attempt σ α} {k : α → Attempt σ β} {s : σ} (hx : (x s).1 ≠ .error e)
    (hk : ∀ a s', x s = (.ok a, s') → (k a s').1 ≠ .error e) : ((x >>= k) s).1 ≠ .error e := by
  cases h : x s with
  | mk r s' =>
    rw [h] at hx
    cases r with
    | ok a =>
      rw [bind_ok h]
      exact hk a s' h
    | error e' =>
      rw [bind_error h]
      exact fun he => hx (congrArg Except.error (Except.error.inj he))

/-- A result that is only put in another form leaves the state as it is. -/
theorem snd_bind_pure (x : Attempt σ α) (b : β) (s : σ) :
    ((x >>= fun _ => Pure.pure b) s).2 = (x s).2 := by
  cases h : x s with
  | mk r s' =>
    cases r with
    | ok a => rw [bind_ok h]; rfl
    | error e => rw [bind_error h]

/-- The attempt never fails with `e`. -/
def Avoids (e : Failure) (x : Attempt σ α) : Prop :=
  ∀ s, (x s).1 ≠ .error e

namespace Avoids

theorem bind {x : Attempt σ α} {k : α → Attempt σ β} (hx : Avoids e x) (hk : ∀ a, Avoids e (k a)) :
    Avoids e (x >>= k) :=
  fun s => bind_ne_error (hx s) fun a s' _ => hk a s'

theorem pure (a : α) : Avoids e (Pure.pure a : Attempt σ α) :=
  fun _ => nofun

theorem fail {e' : Failure} (h : e' ≠ e) : Avoids e (Attempt.fail e' : Attempt σ α) :=
  fun _ he => h (Except.error.inj he)

theorem state : Avoids e (Attempt.state : Attempt σ σ) :=
  fun _ => nofun

theorem update (f : σ → σ) : Avoids e (Attempt.update f) :=
  fun _ => nofun

theorem lift {r : Except Failure α} (h : r ≠ .error e) : Avoids e (Attempt.lift r : Attempt σ α) :=
  fun _ => h

end Avoids

end Attempt

/-- Looking for a character does not ask for the one under the cursor. -/
theorem Cursor.avoids_scanTo (target : Text) : (scanTo target).Avoids .pastEnd := by
  intro c
  unfold scanTo
  split
  · exact nofun
  · dsimp only
    split
    · exact nofun
    · exact nofun
    · exact fun he => Failure.ofRead_ne_pastEnd _ (Except.error.inj he)

/-! ## Formatters -/

namespace Formatter

variable {f g : Formatter} {tag : Tag}

theorem avoids_reading {α : Type} {move : Attempt Cursor α} (h : move.Avoids .pastEnd) :
    (reading move).Avoids .pastEnd :=
  fun f => h f.cursor

theorem avoids_takeToken : (reading Cursor.takeToken).Avoids .pastEnd :=
  avoids_reading fun _ => nofun

theorem avoids_takeTag (line : Nat) : (takeTag line).Avoids .pastEnd := by
  intro f
  rw [takeTag_eq]
  cases Tag.ofToken f.cursor.token _ _ <;> exact nofun

/-- The end of a tag is passed where it was found. -/
theorem avoids_readTag : readTag.Avoids .pastEnd := by
  intro f
  refine Attempt.bind_ne_error (avoids_reading (Cursor.avoids_scanTo _) f) ?_
  intro _ g hscan
  rw [Attempt.state_bind]
  have hfound : g.cursor.InChunk := Cursor.inChunk_of_scanTo (reading_eq_ok hscan)
  refine Attempt.bind_ne_error (fun he => (Cursor.advance_eq_pastEnd_iff true).1 he hfound) ?_
  exact fun _ g' _ => avoids_takeTag _ g'

/-- Behind a tag the cursor is in its chunk. -/
theorem inChunk_of_readTag (h : readTag f = (.ok tag, g)) : g.cursor.InChunk := by
  obtain ⟨_, f₁, hscan, h⟩ := Attempt.bind_eq_ok_iff.1 h
  rw [Attempt.state_bind] at h
  obtain ⟨_, f₂, hadvance, h⟩ := Attempt.bind_eq_ok_iff.1 h
  have hbehind : f₂.cursor.InChunk := Cursor.inChunk_of_advance (reading_eq_ok hadvance)
  rw [takeTag_eq] at h
  obtain ⟨-, rfl⟩ := Prod.mk.inj h
  exact hbehind

theorem avoids_nextTag : nextTag.Avoids .pastEnd :=
  .bind (avoids_reading (Cursor.avoids_scanTo _)) fun _ => .bind avoids_takeToken fun _ =>
    avoids_readTag

theorem inChunk_of_nextTag (h : nextTag f = (.ok tag, g)) : g.cursor.InChunk := by
  obtain ⟨_, f₁, -, h⟩ := Attempt.bind_eq_ok_iff.1 h
  obtain ⟨_, f₂, -, h⟩ := Attempt.bind_eq_ok_iff.1 h
  exact inChunk_of_readTag h

theorem avoids_emit (line : Text) : (emit line).Avoids .pastEnd :=
  .update _

theorem avoids_emitTag (tag : Tag) : (emitTag tag).Avoids .pastEnd :=
  .bind .state fun _ => avoids_emit _

theorem avoids_release : release.Avoids .pastEnd := by
  refine .bind .state fun f => ?_
  split
  · exact .pure _
  · exact .bind (avoids_emit _) fun _ => .update _

theorem avoids_flush : flush.Avoids .pastEnd := by
  intro f
  obtain ⟨result, _, _, _, hflush, -, -, hresult⟩ := flush_eq f
  rw [hflush]
  rcases hresult with ⟨rfl, -⟩ | ⟨fault, rfl⟩
  · exact nofun
  · exact fun he => Failure.ofWrite_ne_pastEnd fault (Except.error.inj he)

theorem avoids_expectClosed (tag close : Tag) : (expectClosed tag close).Avoids .pastEnd := by
  refine .bind .state fun f => ?_
  split
  · exact .pure _
  · exact .fail nofun

theorem avoids_expectTextClosed (tag close : Tag) :
    (expectTextClosed tag close).Avoids .pastEnd := by
  refine .bind .state fun f => ?_
  split
  · exact avoids_expectClosed _ _
  · exact .fail nofun

theorem avoids_emitEnd (tag : Tag) : (emitEnd tag).Avoids .pastEnd := by
  refine .bind .state fun f => ?_
  split
  · exact .bind (.update _) fun _ => avoids_emit _
  · exact .bind avoids_release fun _ => avoids_emitTag _

theorem avoids_closeElement (tag : Tag) : (closeElement tag).Avoids .pastEnd := by
  refine .bind .state fun f => ?_
  split
  · exact .fail nofun
  · exact .bind (.update _) fun _ => .bind (avoids_expectClosed _ _) fun _ =>
      .bind (avoids_emitEnd _) fun _ => avoids_flush

theorem avoids_standalone (tag : Tag) : (standalone tag).Avoids .pastEnd :=
  .bind avoids_release fun _ => .bind (avoids_emitTag _) fun _ => avoids_flush

theorem resolved_ne_pastEnd (settings : Settings) (text : Text) :
    resolved settings text ≠ .error .pastEnd := by
  unfold resolved
  split
  · cases Reference.resolve text <;> exact nofun
  · exact nofun

theorem avoids_leaf (tag : Tag) (depth : Nat) : (leaf tag depth).Avoids .pastEnd :=
  .bind (avoids_reading (Cursor.avoids_scanTo _)) fun _ => .bind avoids_takeToken fun _ =>
  .bind .state fun _ => .bind (.lift (resolved_ne_pastEnd _ _)) fun _ =>
  .bind avoids_readTag fun _ => .bind (avoids_expectTextClosed _ _) fun _ =>
  .bind (.update _) fun _ => avoids_emit _

/-- Behind an opening tag the next character is looked at, if there is one. -/
theorem openElement_ne_pastEnd (tag : Tag) (h : f.cursor.InChunk) :
    (openElement tag f).1 ≠ .error .pastEnd := by
  obtain ⟨g, hrelease, hcursor, -⟩ := release_eq f
  unfold openElement holdOrRead
  rw [Attempt.bind_ok hrelease, Attempt.state_bind, Attempt.update_bind]
  refine Attempt.bind_ne_error ?_ fun _ g' _ => avoids_flush g'
  rw [Attempt.state_bind]
  refine Attempt.bind_ne_error (fun he => ?_) fun next g' _ => ?_
  · exact Cursor.peek_eq_pastEnd_iff.1 he (hcursor ▸ h)
  · split
    · exact Attempt.Avoids.update _ g'
    · exact avoids_leaf _ _ g'

theorem avoids_step : step.Avoids .pastEnd := by
  intro f
  refine Attempt.bind_ne_error (avoids_nextTag f) ?_
  intro tag g hnext
  unfold respond
  cases tag.kind with
  | closing => exact avoids_closeElement tag g
  | selfClosing => exact avoids_standalone tag g
  | declaration => exact avoids_standalone tag g
  | opening => exact openElement_ne_pastEnd tag (inChunk_of_nextTag hnext)

/-- No run asks for a character that is not there, from whatever state it goes on. -/
theorem run_ne_pastEnd (f : Formatter) : f.run.1 ≠ .error .pastEnd := by
  induction f using run.induct with
  | case1 f hend =>
    rw [run_of_atEnd hend, finish]
    split <;> exact fun h => by cases h
  | case2 f hend f' hstep ih =>
    rw [run_of_step_ok hend hstep]
    exact ih
  | case3 f hend e f' hstep =>
    have hne := avoids_step f
    rw [hstep] at hne
    rw [run_of_step_error hend hstep]
    exact hne

end Formatter

/-! ## Sources that do not fail -/

namespace Cursor

/-- What can be asked of a cursor, with any text to look for. -/
inductive Request where
  | peek
  | scanTo (target : Text)
  | advance (skipBlanks : Bool)
  | takeToken
  deriving DecidableEq, Repr

/-- Does as it is asked, and gives the text that was asked for, if any was. -/
def ask : Request → Attempt Cursor (Option Text)
  | .peek => fun c => (c.peek.map fun next => some next.toList, c)
  | .scanTo target => do
    scanTo target
    return none
  | .advance skipBlanks => do
    advance skipBlanks
    return none
  | .takeToken => do
    let token ← takeToken
    return some token

end Cursor

namespace Feed

/-- A passage whose cuts are never behind the window leaves some of the text in front of the reader,
    unless it comes to the end. -/
theorem shows_pass (cut : Text → Option (Text × Text)) {reads : Reads} {others : Text}
    (hcut : ∀ {t before after}, t ≠ [] → cut t = some (before, after) → after ≠ [])
    (h : reads.Delivers others) (keep : Text → Text) {window : Text} (hne : window ≠ [])
    (delivered : Nat) : ∃ t, (pass cut keep window delivered reads).2.2.Shows t := by
  induction h generalizing window delivered with
  | ended =>
    unfold pass
    split
    · rename_i hsome
      exact ⟨_, hcut hne hsome, [], .ended, rfl⟩
    · exact ⟨[], rfl⟩
  | stop next =>
    unfold pass
    split
    · rename_i hsome
      exact ⟨_, hcut hne hsome, [], .stop next, rfl⟩
    · exact ⟨[], rfl⟩
  | @chunk chunk next others hchunk h ih =>
    unfold pass
    split
    · rename_i hsome
      exact ⟨_, hcut hne hsome, _, .chunk hchunk h, rfl⟩
    · simp only [List.isEmpty_iff, hchunk, if_false]
      exact ih hchunk _

end Feed

namespace Cursor

variable {c : Cursor}

theorem inChunk_of_shows {t : Text} (h : c.feed.Shows t) : c.InChunk := by
  intro hwindow
  unfold Feed.Shows at h
  rw [hwindow] at h
  exact h.1 rfl

/-- Whatever is looked for, within a chunk it stands in front of some of the chunk. -/
theorem ne_nil_of_cut? {target t before after : Text} (ht : t ≠ [])
    (h : Text.cut? target t = some (before, after)) : after ≠ [] := by
  cases target with
  | nil =>
    cases t with
    | nil => exact absurd rfl ht
    | cons char rest =>
      cases h
      exact List.cons_ne_nil char rest
  | cons first others =>
    rintro rfl
    cases List.prefix_nil.1 (Text.isPrefix_of_cut? h)

theorem shows_scanTo {t : Text} (h : c.feed.Shows t) (target : Text) :
    ∃ u, (scanTo target c).2.feed.Shows u := by
  unfold scanTo
  split
  · exact ⟨t, h⟩
  · rename_i window hwindow
    unfold Feed.Shows at h
    rw [hwindow] at h
    obtain ⟨hne, others, hothers, -⟩ := h
    have hshows := Feed.shows_pass (Text.cut? target) ne_nil_of_cut? hothers id hne
      c.feed.delivered
    dsimp only
    split <;> exact hshows

/-- A cursor with text in front of it, or at the end, can always move on. -/
theorem shows_advance {t : Text} (h : c.feed.Shows t) (skipBlanks : Bool) :
    ∃ d u, advance skipBlanks c = (.ok (), d) ∧ d.feed.Shows u := by
  cases t with
  | nil => exact ⟨c, [], advance_end h skipBlanks, h⟩
  | cons char t =>
    obtain ⟨feed, hfeed, hadvance⟩ := advance_eq h skipBlanks
    exact ⟨_, _, hadvance, hfeed⟩

/-- Where no read fails, a cursor does as it is asked and is left with text in front of it, or at the
    end. -/
theorem shows_ask {t : Text} (h : c.feed.Shows t) (request : Request) :
    (∃ u, (ask request c).2.feed.Shows u) ∧ (ask request c).1 ≠ .error .pastEnd := by
  cases request with
  | peek =>
    refine ⟨⟨t, h⟩, ?_⟩
    show (c.peek.map fun next => some next.toList) ≠ .error .pastEnd
    rw [peek_eq h]
    exact nofun
  | scanTo target =>
    rw [ask, Attempt.snd_bind_pure]
    exact ⟨shows_scanTo h target, Attempt.bind_ne_error (avoids_scanTo target c) fun _ _ _ => nofun⟩
  | advance skipBlanks =>
    obtain ⟨d, u, hadvance, hd⟩ := shows_advance h skipBlanks
    rw [ask, Attempt.bind_ok hadvance]
    exact ⟨⟨u, hd⟩, nofun⟩
  | takeToken => exact ⟨⟨t, h⟩, nofun⟩

/-- What one request keeps, any number of them keeps. -/
theorem shows_inTurn {t : Text} (h : c.feed.Shows t) (requests : List Request) :
    (∃ u, (Attempt.inTurn ask requests c).2.feed.Shows u) ∧
      ∀ answer ∈ (Attempt.inTurn ask requests c).1, answer ≠ .error .pastEnd := by
  induction requests generalizing c t with
  | nil => exact ⟨⟨t, h⟩, List.forall_mem_nil _⟩
  | cons request requests ih =>
    obtain ⟨⟨u, hshows⟩, hanswer⟩ := shows_ask h request
    obtain ⟨hafter, hanswers⟩ := ih hshows
    exact ⟨hafter, List.forall_mem_cons.2 ⟨hanswer, hanswers⟩⟩

end Cursor

/-- A cursor that begins has the text of its source in front of it. -/
theorem Cursor.shows_of_start {stream : Stream} {size : Int} {x : Text} {file : Option Text}
    {c : Cursor} (hdelivers : (stream size.toNat).Delivers x)
    (h : start stream size file = .ok c) : c.feed.Shows x := by
  have hsize : 1 ≤ size := by
    by_contra hsmall
    rw [start, if_pos (by omega)] at h
    cases h
  obtain ⟨c', hstart, htracks⟩ := start_tracks hsize hdelivers file
  rw [h] at hstart
  cases hstart
  exact htracks.shows

/-- Neither `peek` nor `advance` is ever asked for a character that is not there: that would be the
    failure `pastEnd`, which comes of nothing else, and no run of a formatter ends with it, whatever
    reads and writes have failed and however often it has run. If no read fails, no cursor is left
    behind its chunk either, whatever is asked of it, so that it can always tell what is next and move
    on. -/
theorem pastEnd_unreached :
    (∀ c : Cursor, (c.peek = .error .pastEnd ↔ ¬ c.InChunk) ∧
      ∀ skipBlanks, (Cursor.advance skipBlanks c).1 = .error .pastEnd ↔ ¬ c.InChunk) ∧
    (∀ (f : Formatter) (n : Nat), (f.rerun n).run.1 ≠ .error .pastEnd) ∧
    ∀ (stream : Stream) (size : Int) (x : Text) (file : Option Text) (c : Cursor),
      (stream size.toNat).Delivers x → Cursor.start stream size file = .ok c →
        ∀ requests answers d, Attempt.inTurn Cursor.ask requests c = (answers, d) →
          d.InChunk ∧ (∃ next, d.peek = .ok next) ∧
            (∀ skipBlanks, ∃ d', Cursor.advance skipBlanks d = (.ok (), d')) ∧
            ∀ answer ∈ answers, answer ≠ .error .pastEnd := by
  refine ⟨fun c => ⟨Cursor.peek_eq_pastEnd_iff, fun _ => Cursor.advance_eq_pastEnd_iff _⟩,
    fun f n => Formatter.run_ne_pastEnd _, ?_⟩
  intro stream size x file c hdelivers hstart requests answers d hturns
  obtain ⟨⟨u, hafter⟩, hanswers⟩ :=
    Cursor.shows_inTurn (Cursor.shows_of_start hdelivers hstart) requests
  rw [hturns] at hafter hanswers
  refine ⟨Cursor.inChunk_of_shows hafter, ⟨_, Cursor.peek_eq hafter⟩, fun skipBlanks => ?_, hanswers⟩
  obtain ⟨d', -, hadvance, -⟩ := Cursor.shows_advance hafter skipBlanks
  exact ⟨d', hadvance⟩

/-- A read that fails behind a tag leaves the cursor behind its chunk, and the next run goes on from
    there. A cursor whose reads do not fail looks for texts of any length and stays in its chunks. -/
theorem pastEnd_unreached_retried :
    let broken : Formatter :=
      { settings := {}
        cursor := { feed := ⟨some ['<', 'a', '>'], .fault (.device "gone") .ended, 3⟩ }
        sink := {} }
    let requests : List Cursor.Request :=
      [.scanTo [], .scanTo ['>', '<'], .peek, .advance true, .scanTo ['?'], .peek, .advance false]
    (¬ (broken.rerun 1).cursor.InChunk ∧ (broken.rerun 1).run.1 ≠ .error .pastEnd) ∧
      ∃ c, Cursor.start (fun _ => .ofChunks [['a', '>'], ['>', '<', ' '], ['b']]) 1 none = .ok c ∧
        (Attempt.inTurn Cursor.ask requests c).2.InChunk ∧
        ∃ next, (Attempt.inTurn Cursor.ask requests c).2.peek = .ok next := by
  intro broken requests
  obtain ⟨-, hruns, hcursors⟩ := pastEnd_unreached
  have hstep : broken.step = (.error (.stream (.reading (.device "gone"))), broken.step.2) := rfl
  have hrun : broken.rerun 1 = broken.step.2 := by
    rw [Formatter.rerun, Formatter.run_of_step_error (by decide) hstep]
    rfl
  refine ⟨⟨?_, hruns broken 1⟩, _, rfl, ?_⟩
  · rw [hrun]
    decide
  · obtain ⟨hinside, hpeek, -⟩ :=
      hcursors (fun _ => .ofChunks [['a', '>'], ['>', '<', ' '], ['b']]) 1 _ none _
        (Reads.delivers_ofChunks (by decide)) rfl requests _ _ rfl
    exact ⟨hinside, hpeek⟩

end Reindent
