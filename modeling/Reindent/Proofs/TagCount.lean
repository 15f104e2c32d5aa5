-- SUMMARY: The tags that a formatter has counted are those of the pieces it has passed.
import Reindent.Proofs.Simulation
import Reindent.Proofs.Streaming

/-! # Tags read

A formatter counts a tag when it has read the token, before it is known whether the token makes a tag.
Nothing else changes the count. So a step counts one tag, or two if it reads an element with text,
even where it fails at the last tag it has read. `Formatter.stands_of_turns` follows the count through
any number of steps. -/

namespace Reindent

/-! ## Parts of the state that are kept -/

namespace Attempt

variable {σ α β γ : Type} {part : σ → γ}

/-- The attempt, whether it succeeds or fails, leaves a part of the state as it is. -/
def Keeps (part : σ → γ) (x : Attempt σ α) : Prop :=
  ∀ s, part (x s).2 = part s

namespace Keeps

theorem bind {x : Attempt σ α} {k : α → Attempt σ β} (hx : Keeps part x)
    (hk : ∀ a, Keeps part (k a)) : Keeps part (x >>= k) := by
  intro s
  have hs := hx s
  cases h : x s with
  | mk r s' =>
    rw [h] at hs
    cases r with
    | ok a =>
      rw [bind_ok h]
      exact (hk a s').trans hs
    | error e =>
      rw [bind_error h]
      exact hs

theorem pure (a : α) : Keeps part (Pure.pure a : Attempt σ α) :=
  fun _ => rfl

theorem fail (e : Failure) : Keeps part (Attempt.fail e : Attempt σ α) :=
  fun _ => rfl

theorem state : Keeps part (Attempt.state : Attempt σ σ) :=
  fun _ => rfl

theorem update {f : σ → σ} (h : ∀ s, part (f s) = part s) : Keeps part (Attempt.update f) :=
  h

end Keeps

end Attempt

namespace Formatter

variable {α β : Type} {f g : Formatter} {n : Nat}

/-! ## Operations that read no tag -/

theorem keeps_tags_emit (line : Text) : (emit line).Keeps tags :=
  .update fun _ => rfl

theorem keeps_tags_emitTag (tag : Tag) : (emitTag tag).Keeps tags :=
  .bind .state fun _ => keeps_tags_emit _

theorem keeps_tags_release : release.Keeps tags := by
  apply Attempt.Keeps.bind .state
  intro f
  split
  · exact .pure _
  · exact .bind (keeps_tags_emit _) fun _ => .update fun _ => rfl

theorem keeps_tags_flush : flush.Keeps tags := by
  intro f
  obtain ⟨_, _, _, _, hflush, -⟩ := flush_eq f
  rw [hflush]

theorem keeps_tags_expectClosed (tag close : Tag) : (expectClosed tag close).Keeps tags := by
  apply Attempt.Keeps.bind .state
  intro f
  split
  · exact .pure _
  · exact .fail _

theorem keeps_tags_emitEnd (tag : Tag) : (emitEnd tag).Keeps tags := by
  apply Attempt.Keeps.bind .state
  intro f
  split
  · exact .bind (.update fun _ => rfl) fun _ => keeps_tags_emit _
  · exact .bind keeps_tags_release fun _ => keeps_tags_emitTag _

theorem keeps_tags_closeElement (tag : Tag) : (closeElement tag).Keeps tags := by
  apply Attempt.Keeps.bind .state
  intro f
  split
  · exact .fail _
  · exact .bind (.update fun _ => rfl) fun _ => .bind (keeps_tags_expectClosed _ _) fun _ =>
      .bind (keeps_tags_emitEnd _) fun _ => keeps_tags_flush

theorem keeps_tags_standalone (tag : Tag) : (standalone tag).Keeps tags :=
  .bind keeps_tags_release fun _ => .bind (keeps_tags_emitTag _) fun _ => keeps_tags_flush

theorem keeps_tags_expectTextClosed (tag close : Tag) :
    (expectTextClosed tag close).Keeps tags := by
  apply Attempt.Keeps.bind .state
  intro f
  split
  · exact keeps_tags_expectClosed _ _
  · exact .fail _

/-! ## Operations that read tags -/

/-- Since `f` so many tags have been counted, unless it has failed for another reason than a tag. -/
def HasRead (n : Nat) (f : Formatter) (r : Except Failure α × Formatter) : Prop :=
  r.2.tags = f.tags + n ∨ ∃ e, r.1 = .error e ∧ e.atTag = false

/-- What reads no tag, and does not fail at one, may stand in front. -/
theorem HasRead.of_bind {x : Attempt Formatter α} {k : α → Attempt Formatter β}
    (hkeeps : (x f).2.tags = f.tags) (hfails : ∀ e, (x f).1 = .error e → e.atTag = false)
    (hk : ∀ a g, x f = (.ok a, g) → HasRead n g (k a g)) : HasRead n f ((x >>= k) f) := by
  cases hx : x f with
  | mk r g =>
    rw [hx] at hkeeps hfails
    cases r with
    | error e =>
      rw [Attempt.bind_error hx]
      exact .inr ⟨e, rfl, hfails e rfl⟩
    | ok a =>
      have hread := hk a g hx
      rw [HasRead, show g.tags = f.tags from hkeeps] at hread
      rw [Attempt.bind_ok hx]
      exact hread

/-- What reads no tag may follow. -/
theorem HasRead.bind {x : Attempt Formatter α} {k : α → Attempt Formatter β}
    (h : HasRead n f (x f)) (hk : ∀ a, (k a).Keeps tags) : HasRead n f ((x >>= k) f) := by
  cases hx : x f with
  | mk r g =>
    rw [hx] at h
    cases r with
    | error e =>
      rw [Attempt.bind_error hx]
      exact h.imp_right fun ⟨e', he, htag⟩ => ⟨e', by cases he; rfl, htag⟩
    | ok a =>
      rw [Attempt.bind_ok hx]
      rcases h with htags | ⟨e, he, -⟩
      · exact .inl ((hk a g).trans htags)
      · cases he

/-- Looking for a character fails at the end of the input or because of the source. -/
theorem atTag_scanTo {target : Text} {e : Failure}
    (h : (reading (Cursor.scanTo target) f).1 = .error e) : e.atTag = false := by
  simp only [reading, Cursor.scanTo] at h
  split at h
  · cases h
    rfl
  · split at h
    · cases h
    · cases h
      rfl
    · cases h
      exact Failure.atTag_ofRead _

theorem atTag_advance {skipBlanks : Bool} {e : Failure}
    (h : (reading (Cursor.advance skipBlanks) f).1 = .error e) : e.atTag = false := by
  simp only [reading, Cursor.advance] at h
  split at h
  · cases h
  · cases h
    rfl
  · split at h
    · cases h
    · cases h
    · cases h
      exact Failure.atTag_ofRead _

theorem atTag_peek {c : Cursor} {e : Failure} (h : c.peek = .error e) : e.atTag = false := by
  unfold Cursor.peek at h
  split at h
  · cases h
  · cases h
    rfl
  · cases h

/-- References fail by their length. -/
theorem atTag_resolved {settings : Settings} {text : Text} {e : Failure}
    (h : resolved settings text = .error e) : e.atTag = false := by
  unfold resolved at h
  split at h
  · cases hresolve : Reference.resolve text with
    | ok t =>
      rw [hresolve] at h
      cases h
    | error reference =>
      rw [hresolve] at h
      cases h
      rfl
  · cases h

theorem hasRead_readTag (f : Formatter) : HasRead 1 f (readTag f) := by
  refine .of_bind rfl (fun _ => atTag_scanTo) ?_
  intro _ g _
  rw [Attempt.state_bind]
  refine .of_bind rfl (fun _ => atTag_advance) ?_
  intro _ g' _
  rw [takeTag_eq]
  exact .inl rfl

theorem hasRead_nextTag (f : Formatter) : HasRead 1 f (nextTag f) := by
  refine .of_bind rfl (fun _ => atTag_scanTo) ?_
  intro _ g _
  refine .of_bind rfl (fun _ he => by cases he) ?_
  intro _ g' _
  exact hasRead_readTag g'

theorem hasRead_leaf (tag : Tag) (depth : Nat) (f : Formatter) :
    HasRead 1 f (leaf tag depth f) := by
  refine .of_bind rfl (fun _ => atTag_scanTo) ?_
  intro _ g _
  refine .of_bind rfl (fun _ he => by cases he) ?_
  intro raw g' _
  rw [Attempt.state_bind]
  refine .of_bind rfl (fun _ => atTag_resolved) ?_
  intro text g'' _
  refine (hasRead_readTag g'').bind ?_
  intro close
  exact .bind (keeps_tags_expectTextClosed _ _) fun _ =>
    .bind (.update fun _ => rfl) fun _ => keeps_tags_emit _

theorem hasRead_holdOrRead (tag : Tag) (depth : Nat) (f : Formatter) :
    HasRead (if f.cursor.peek = .ok (some '<') then 0 else 1) f (holdOrRead tag depth f) := by
  unfold holdOrRead
  rw [Attempt.state_bind]
  refine .of_bind rfl (fun _ => atTag_peek) ?_
  intro next g hnext
  obtain ⟨hpeek, rfl⟩ := Prod.mk.inj hnext
  by_cases htag : next = some '<'
  · subst htag
    rw [if_pos hpeek]
    exact .inl rfl
  · rw [if_neg (by rw [hpeek]; simpa using htag)]
    split
    · exact absurd rfl htag
    · exact hasRead_leaf tag depth f

/-- The tag held back is laid out without a failure. -/
theorem release_eq (f : Formatter) :
    ∃ g, release f = (.ok (), g) ∧ g.cursor = f.cursor ∧ g.tags = f.tags ∧ g.held = none := by
  unfold release
  rw [Attempt.state_bind]
  cases hheld : f.held with
  | none => exact ⟨f, rfl, rfl, rfl, hheld⟩
  | some held => exact ⟨_, rfl, rfl, rfl, rfl⟩

/-- An opening tag that is held back leaves the next tag to the next step. -/
theorem hasRead_openElement (tag : Tag) (f : Formatter) :
    HasRead (if f.cursor.peek = .ok (some '<') then 0 else 1) f (openElement tag f) := by
  obtain ⟨g, hrelease, hcursor, htags, -⟩ := release_eq f
  unfold openElement
  rw [Attempt.bind_ok hrelease, Attempt.state_bind, Attempt.update_bind, ← hcursor, HasRead, ← htags]
  exact HasRead.bind (hasRead_holdOrRead tag g.depth { g with stack := tag :: g.stack })
    fun _ => keeps_tags_flush

/-! ## Steps -/

variable {settings : Settings} {written : List Text} {s t : Stage} {p : Piece}
  {ps rest : List Piece} {tail : Text} {tag : Tag} {lines : List Line}

/-- A token that makes no tag is a failure at a tag. -/
theorem atTag_tagOf {e : DocumentError} (h : s.tagOf p = .error e) :
    Failure.atTag (.document e) = true := by
  unfold Stage.tagOf Piece.tag Tag.ofToken at h
  split at h
  · cases h
  · cases h
    rfl

/-- The tag of the next piece is read and counted. -/
theorem nextTag_of_stands (h : f.Stands settings written s (p :: ps) tail) :
    ∃ g, nextTag f = ((s.tagOf p).mapError .document, g) ∧ g.tags = f.tags + 1 ∧
      g.cursor.feed.Shows ((ps.flatMap Piece.text ++ tail).dropWhile Text.isBlank) := by
  obtain ⟨passed, shown, h, hpassed, htext, -⟩ := h
  rw [List.flatMap_cons, List.append_assoc] at htext
  obtain ⟨g, hnext, hg⟩ := nextTag_of_piece h (hpassed.not_mem (by decide)) htext
  refine ⟨g, hnext, ?_, hg.shows⟩
  have hread := hasRead_nextTag f
  rw [hnext] at hread
  rcases hread with htags | ⟨e, he, htag⟩
  · exact htags
  · cases hp : s.tagOf p with
    | ok tag =>
      rw [hp] at he
      cases he
    | error e' =>
      rw [hp] at he
      cases he
      rw [atTag_tagOf hp] at htag
      cases htag

theorem peek_eq_iff_tagNext {c : Cursor}
    (h : c.feed.Shows ((ps.flatMap Piece.text ++ tail).dropWhile Text.isBlank)) :
    c.peek = .ok (some '<') ↔ Stage.tagNext ps tail := by
  rw [Cursor.peek_eq h, Except.ok.injEq]
  rfl

/-- A step reads one tag, unless an element with text begins there. -/
theorem hasRead_step (h : f.Stands settings written s (p :: ps) tail)
    (hone : ∀ tag, s.tagOf p = .ok tag → tag.kind = .opening → Stage.tagNext ps tail) :
    HasRead 1 f (step f) := by
  obtain ⟨g, hnext, htags, hshows⟩ := nextTag_of_stands h
  cases hp : s.tagOf p with
  | error e =>
    rw [hp] at hnext
    rw [step, Attempt.bind_error hnext]
    exact .inl htags
  | ok tag =>
    rw [hp] at hnext
    rw [step, Attempt.bind_ok hnext, HasRead, ← htags]
    unfold respond
    cases hkind : tag.kind with
    | closing => exact .inl (keeps_tags_closeElement tag g)
    | selfClosing => exact .inl (keeps_tags_standalone tag g)
    | declaration => exact .inl (keeps_tags_standalone tag g)
    | opening =>
      have hread := hasRead_openElement tag g
      rw [if_pos ((peek_eq_iff_tagNext hshows).2 (hone tag hp hkind))] at hread
      exact hread

/-- A step reads both tags of an element with text. -/
theorem hasRead_step_text (h : f.Stands settings written s (p :: ps) tail)
    (htag : s.tagOf p = .ok tag) (hkind : tag.kind = .opening) (hnext : ¬ Stage.tagNext ps tail) :
    HasRead 2 f (step f) := by
  obtain ⟨g, hread, htags, hshows⟩ := nextTag_of_stands h
  rw [htag] at hread
  have hopen := hasRead_openElement tag g
  rw [if_neg fun hpeek => hnext ((peek_eq_iff_tagNext hshows).1 hpeek), HasRead, htags] at hopen
  rw [step, Attempt.bind_ok hread, respond, hkind]
  exact hopen

/-- A step that succeeds counts the tags that it has passed. -/
theorem tags_of_turn (h : f.Stands settings written s (p :: ps) tail)
    (hturn : Stage.Turn tail s (p :: ps) lines t rest) (hstep : step f = (.ok (), g)) :
    g.tags + rest.length = f.tags + (p :: ps).length := by
  have hcount {n : Nat} (hread : HasRead n f (step f)) : g.tags = f.tags + n := by
    rw [hstep] at hread
    rcases hread with htags | ⟨e, he, -⟩
    · exact htags
    · cases he
  have hopens {tag tag' : Tag} (htag : s.tagOf p = .ok tag) (htag' : s.tagOf p = .ok tag')
      (hkind : tag'.kind = .opening) : tag.kind = .opening := by
    rw [htag] at htag'
    cases htag'
    exact hkind
  cases hturn with
  | close htag hkind =>
    rw [hcount (hasRead_step h fun tag' htag' hkind' => ?_), List.length_cons]
    · omega
    · rw [hopens htag htag' hkind'] at hkind
      cases hkind
  | standalone htag halone =>
    rw [hcount (hasRead_step h fun tag' htag' hkind' => ?_), List.length_cons]
    · omega
    · rw [Tag.isStandalone, hopens htag htag' hkind'] at halone
      cases halone
  | hold htag hkind hnext =>
    rw [hcount (hasRead_step h fun _ _ _ => hnext), List.length_cons]
    omega
  | leaf htag hkind hnext =>
    rw [hcount (hasRead_step_text h htag hkind hnext), List.length_cons, List.length_cons]
    omega

/-! ## Runs -/

/-- A run is a run from behind any number of its steps, where the tags counted are those of the pieces
    passed. Nothing can fail on the way if references are not resolved. -/
theorem stands_of_turns (h : f.Stands settings written s ps tail) (hunfinished : tail.Unfinished)
    (hresolve : settings.resolveReferences = false)
    (hturns : Stage.Turns tail s ps lines t rest) :
    ∃ (g : Formatter) (written' : List Text), f.run = g.run ∧
      g.Stands settings written' t rest tail ∧ g.tags + rest.length = f.tags + ps.length := by
  induction hturns generalizing f written with
  | none => exact ⟨f, written, rfl, h, rfl⟩
  | @more _ _ _ ps _ _ lines _ hturn hturns ih =>
    cases ps with
    | nil => cases hturn
    | cons p ps =>
      have houtcome := outcome_step h hunfinished
      rw [Stage.next_of_turn hturn] at houtcome
      cases hstep : step f with
      | mk r g =>
        rw [hstep] at houtcome
        cases houtcome with
        | settled hout hg =>
          obtain ⟨g', written', hrun, hg', htags⟩ := ih hg
          have := tags_of_turn h hturn hstep
          refine ⟨g', written', ?_, hg', by omega⟩
          rw [run_of_step_ok (atEnd_of_piece h) hstep, hrun]
        | unresolved hout hg =>
          obtain ⟨out, hok⟩ := Line.exists_layOutAll_of_not_resolve hresolve lines
          rw [hout] at hok
          cases hok

end Formatter

end Reindent
