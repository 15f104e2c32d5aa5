-- SUMMARY: Two formatters that take the same step, side by side.
import Reindent.Formatter.Run
import Reindent.Proofs.Agreement
import Reindent.Proofs.Layout

/-! # Lockstep

A formatter may be compared with another that reads the same text in another way, writes to another
sink, or lays out its lines by other settings. A relation between the two that all reading and laying
out keeps is kept by a whole step up to the point where its lines are written, and what happens there
is for the relation at hand to say. `Tandem` lists what a relation has to keep, and `Tandem.step` is
what follows for a step. `Lockstep` is the case of formatters that lay out the same lines.

The first formatter may also fall out of step: it may come to the end of what it can read, or to a text
that it cannot resolve, where the other one goes on. -/

namespace Reindent

/-! ## Attempts that keep up -/

namespace Attempt

variable {σ τ α β : Type}

/-- The first outcome is the second one, in a related state, unless the first attempt has fallen out:
    then it has failed with a failure and in a state that `E` allows for. -/
inductive Follows (R : σ → τ → Prop) (E : Failure → σ → Prop) :
    Except Failure α × σ → Except Failure α × τ → Prop where
  | agreed (r : Except Failure α) {s : σ} {t : τ} (hst : R s t) : Follows R E (r, s) (r, t)
  | fellOut {e : Failure} {s : σ} {q : Except Failure α × τ} (hE : E e s) :
      Follows R E (.error e, s) q

/-- What follows two attempts is related as soon as failures are, and what follows their values. -/
theorem Follows.of_bind {R : σ → τ → Prop} {E : Failure → σ → Prop}
    {P : Except Failure β × σ → Except Failure β × τ → Prop}
    (hfell : ∀ {e s q}, E e s → P (.error e, s) q)
    (hfailed : ∀ e {s t}, R s t → P (.error e, s) (.error e, t))
    {x : Attempt σ α} {y : Attempt τ α} {k : α → Attempt σ β} {l : α → Attempt τ β} {s : σ} {t : τ}
    (h : Follows R E (x s) (y t))
    (hk : ∀ a s' t', x s = (.ok a, s') → R s' t' → P (k a s') (l a t')) :
    P ((x >>= k) s) ((y >>= l) t) := by
  generalize hxs : x s = p at h
  generalize hyt : y t = q at h
  cases h with
  | agreed r hst =>
    cases r with
    | ok a =>
      rw [bind_ok hxs, bind_ok hyt]
      exact hk a _ _ hxs hst
    | error e =>
      rw [bind_error hxs, bind_error hyt]
      exact hfailed e hst
  | fellOut hE =>
    rw [bind_error hxs]
    exact hfell hE

theorem Follows.bind {R : σ → τ → Prop} {E : Failure → σ → Prop} {x : Attempt σ α}
    {y : Attempt τ α} {k : α → Attempt σ β} {l : α → Attempt τ β} {s : σ} {t : τ}
    (h : Follows R E (x s) (y t))
    (hk : ∀ a s' t', x s = (.ok a, s') → R s' t' → Follows R E (k a s') (l a t')) :
    Follows R E ((x >>= k) s) ((y >>= l) t) :=
  h.of_bind .fellOut (fun e => .agreed (.error e)) hk

/-- From related states the first attempt follows the second. -/
def KeepsUp (R : σ → τ → Prop) (E : Failure → σ → Prop) (x : Attempt σ α) (y : Attempt τ α) : Prop :=
  ∀ s t, R s t → Follows R E (x s) (y t)

namespace KeepsUp

variable {R : σ → τ → Prop} {E : Failure → σ → Prop}

theorem of_agree {x : Attempt σ α} {y : Attempt τ α} (h : Agree R x y) : KeepsUp R E x y := by
  intro s t hst
  obtain ⟨hres, hrel⟩ := h s t hst
  have hy : y t = ((x s).1, (y t).2) := Prod.ext hres.symm rfl
  rw [hy]
  exact .agreed _ hrel

theorem bind {x : Attempt σ α} {y : Attempt τ α} {k : α → Attempt σ β} {l : α → Attempt τ β}
    (hx : KeepsUp R E x y) (hk : ∀ a, KeepsUp R E (k a) (l a)) :
    KeepsUp R E (x >>= k) (y >>= l) :=
  fun s t hst => (hx s t hst).bind fun a s' t' _ hst' => hk a s' t' hst'

/-- What follows may look at the two states, which need not be equal. -/
theorem state_bind {k : σ → Attempt σ β} {l : τ → Attempt τ β}
    (h : ∀ s t, R s t → KeepsUp R E (k s) (l t)) :
    KeepsUp R E (Attempt.state >>= k) (Attempt.state >>= l) :=
  fun s t hst => h s t hst s t hst

end KeepsUp

end Attempt

namespace Formatter

/-! ## What a relation has to keep -/

/-- The relation is kept by all that two formatters read and remember of their tags. -/
structure SameMoves (R : Formatter → Formatter → Prop) (E : Failure → Formatter → Prop) :
    Prop where
  stack {f g : Formatter} : R f g → f.stack = g.stack
  held {f g : Formatter} : R f g → f.held = g.held
  file {f g : Formatter} : R f g → f.cursor.file = g.cursor.file
  setStack {f g : Formatter} (stack : List Tag) : R f g → R { f with stack } { g with stack }
  setHeld {f g : Formatter} (held : Option HeldTag) : R f g → R { f with held } { g with held }
  countTag {f g : Formatter} : R f g → R { f with tags := f.tags + 1 } { g with tags := g.tags + 1 }
  firstBreak {f g : Formatter} : R f g → f.cursor.firstBreak = g.cursor.firstBreak
  scanTo (target : Char) :
    (reading (Cursor.scanTo [target])).KeepsUp R E (reading (Cursor.scanTo [target]))
  takeToken : (reading Cursor.takeToken).KeepsUp R E (reading Cursor.takeToken)
  /-- Formatters that are at the end of what they can read are never told to go on. -/
  place {f g : Formatter} : R f g → f.cursor.atEnd = false → f.cursor.place = g.cursor.place
  advance {f g : Formatter} : R f g → f.cursor.atEnd = false →
    Attempt.Follows R E (reading (Cursor.advance true) f) (reading (Cursor.advance true) g)
  /-- The two see the same character, unless the first one has nothing more to read. -/
  peek {f g : Formatter} : R f g → f.cursor.peek = g.cursor.peek ∨
    f.cursor.peek = .ok none ∧ ∃ e f', reading (Cursor.scanTo ['<']) f = (.error e, f') ∧ E e f'

/-- The relation is kept by what a step does in front of writing its lines. The two formatters may lay
    out each line in a way of their own. -/
structure Tandem (R : Formatter → Formatter → Prop) (E : Failure → Formatter → Prop) : Prop
    extends SameMoves R E where
  /-- Both resolve a text, or fail alike, or the first one falls out. -/
  resolved {f g : Formatter} (text : Text) : R f g →
    (∃ t t', Formatter.resolved f.settings text = .ok t ∧
      Formatter.resolved g.settings text = .ok t') ∨
    ∃ e, Formatter.resolved f.settings text = .error e ∧
      (Formatter.resolved g.settings text = .error e ∨ E e f)
  /-- Each lays out a line as its settings say, be they those of an earlier moment. -/
  addLine {f₀ g₀ f g : Formatter} (depth : Int) (before after : Text) {text t t' : Text} : R f₀ g₀ →
    Formatter.resolved f₀.settings text = .ok t → Formatter.resolved g₀.settings text = .ok t' →
    R f g →
    R { f with
        out := f.out.appendLine (f₀.settings.indentation depth ++ before ++ t ++ after)
        lines := f.lines + 1 }
      { g with
        out := g.out.appendLine (g₀.settings.indentation depth ++ before ++ t' ++ after)
        lines := g.lines + 1 }

namespace Tandem

variable {R : Formatter → Formatter → Prop} {E : Failure → Formatter → Prop} {f g : Formatter}

section

variable (h : Tandem R E)

include h

theorem depth (hfg : R f g) : f.depth = g.depth :=
  congrArg List.length (h.stack hfg)

theorem location (hfg : R f g) (line : Option Int) : f.location line = g.location line := by
  rw [Formatter.location, Formatter.location, h.file hfg]

/-! ## Operations -/

theorem takeTag (line : Nat) : (Formatter.takeTag line).KeepsUp R E (Formatter.takeTag line) := by
  refine .bind (.of_agree (.update fun _ _ hfg => h.countTag hfg)) fun _ => ?_
  apply Attempt.KeepsUp.state_bind
  intro f g hfg
  rw [h.firstBreak hfg]
  refine .bind h.takeToken fun token => ?_
  apply Attempt.KeepsUp.state_bind
  intro f g hfg
  rw [h.location hfg]
  exact .of_agree (.lift _)

theorem readTag : Formatter.readTag.KeepsUp R E Formatter.readTag := by
  intro f g hfg
  refine (h.scanTo '>' f g hfg).bind fun _ f' g' hscan hfg' => ?_
  -- The `>` that was found is under the cursor, so the first formatter is not at its end.
  have hmore : f'.cursor.atEnd = false := by
    obtain ⟨rest, hwindow⟩ := Cursor.window_of_scanTo (reading_eq_ok hscan)
    rw [Cursor.atEnd, hwindow]
    rfl
  rw [Attempt.state_bind, Attempt.state_bind, h.place hfg' hmore]
  exact (h.advance hfg' hmore).bind fun _ f'' g'' _ hfg'' => h.takeTag _ f'' g'' hfg''

theorem nextTag : Formatter.nextTag.KeepsUp R E Formatter.nextTag :=
  .bind (h.scanTo '<') fun _ => .bind h.takeToken fun _ => h.readTag

theorem emit (hfg : R f g) (depth : Int) (before after : Text) {text t t' : Text}
    (ht : Formatter.resolved f.settings text = .ok t)
    (ht' : Formatter.resolved g.settings text = .ok t') :
    (Formatter.emit (f.settings.indentation depth ++ before ++ t ++ after)).KeepsUp R E
      (Formatter.emit (g.settings.indentation depth ++ before ++ t' ++ after)) :=
  .of_agree (.update fun _ _ hfg' => h.addLine depth before after hfg ht ht' hfg')

/-- A line without text. -/
theorem emitAlone (hfg : R f g) (depth : Int) (before : Text) :
    (Formatter.emit (f.settings.indentation depth ++ before)).KeepsUp R E
      (Formatter.emit (g.settings.indentation depth ++ before)) := by
  simpa using h.emit hfg depth before [] (Formatter.resolved_nil _) (Formatter.resolved_nil _)

theorem emitTag (tag : Tag) : (Formatter.emitTag tag).KeepsUp R E (Formatter.emitTag tag) := by
  apply Attempt.KeepsUp.state_bind
  intro f g hfg
  rw [h.depth hfg]
  exact h.emitAlone hfg _ _

theorem release : Formatter.release.KeepsUp R E Formatter.release := by
  apply Attempt.KeepsUp.state_bind
  intro f g hfg
  rw [h.held hfg]
  cases g.held with
  | none => exact .of_agree (.pure ())
  | some held =>
    exact .bind (h.emitAlone hfg _ _) fun _ => .of_agree (.update fun _ _ hfg => h.setHeld none hfg)

theorem expectClosed (tag close : Tag) :
    (Formatter.expectClosed tag close).KeepsUp R E (Formatter.expectClosed tag close) := by
  apply Attempt.KeepsUp.state_bind
  intro f g hfg
  rw [h.location hfg]
  split
  · exact .of_agree (.pure ())
  · exact .of_agree (.fail _)

theorem emitEnd (tag : Tag) : (Formatter.emitEnd tag).KeepsUp R E (Formatter.emitEnd tag) := by
  have hwhole := Attempt.KeepsUp.bind h.release fun _ => h.emitTag tag
  apply Attempt.KeepsUp.state_bind
  intro f g hfg
  rw [h.held hfg]
  cases g.held with
  | none => exact hwhole
  | some held =>
    by_cases hclosed : tag.kind = .closing ∧ held.tag.closedBy tag = true
    · simp only [HeldTag.fuse?, HeldTag.fusedLine, if_pos hclosed, List.append_assoc]
      exact .bind (.of_agree (.update fun _ _ hfg' => h.setHeld none hfg')) fun _ =>
        h.emitAlone hfg _ _
    · simp only [HeldTag.fuse?, if_neg hclosed]
      exact hwhole

theorem expectTextClosed (tag close : Tag) :
    (Formatter.expectTextClosed tag close).KeepsUp R E (Formatter.expectTextClosed tag close) := by
  apply Attempt.KeepsUp.state_bind
  intro f g hfg
  rw [h.location hfg]
  split
  · exact h.expectClosed tag close
  · exact .of_agree (.fail _)

theorem leaf (tag : Tag) (depth : Nat) :
    (Formatter.leaf tag depth).KeepsUp R E (Formatter.leaf tag depth) := by
  refine .bind (h.scanTo '<') fun _ => .bind h.takeToken fun raw => ?_
  intro f g hfg
  rw [Attempt.state_bind, Attempt.state_bind]
  rcases h.resolved raw.strip hfg with ⟨t, t', ht, ht'⟩ | ⟨e, he, he'⟩
  · rw [ht, ht', Attempt.bind_ok (x := Attempt.lift (.ok t)) (s := f) rfl,
      Attempt.bind_ok (x := Attempt.lift (.ok t')) (s := g) rfl]
    refine Attempt.KeepsUp.bind h.readTag (fun close => ?_) f g hfg
    refine .bind (h.expectTextClosed tag close) fun _ => .bind ?_ fun _ => h.emit hfg _ _ _ ht ht'
    apply Attempt.KeepsUp.of_agree
    apply Attempt.Agree.update
    intro f g hfg
    rw [h.stack hfg]
    exact h.setStack _ hfg
  · rw [he, Attempt.bind_error (x := Attempt.lift (.error e)) (s := f) rfl]
    rcases he' with he' | hE
    · rw [he', Attempt.bind_error (x := Attempt.lift (.error e)) (s := g) rfl]
      exact .agreed _ hfg
    · exact .fellOut hE

/-- The first formatter falls out if it sees nothing more: it looks for the end of a text then. -/
theorem holdOrRead (tag : Tag) (depth : Nat) :
    (Formatter.holdOrRead tag depth).KeepsUp R E (Formatter.holdOrRead tag depth) := by
  intro f g hfg
  unfold Formatter.holdOrRead
  rw [Attempt.state_bind, Attempt.state_bind]
  rcases h.peek hfg with hpeek | ⟨hnone, e, f', hscan, hE⟩
  · rw [hpeek]
    refine Attempt.KeepsUp.bind (.of_agree (.lift _)) (fun next => ?_) f g hfg
    split
    · exact .of_agree (.update fun _ _ hfg => h.setHeld _ hfg)
    · exact h.leaf tag depth
  · have hleaf : Formatter.leaf tag depth f = (.error e, f') := Attempt.bind_error hscan
    rw [hnone, Attempt.bind_ok (x := Attempt.lift (.ok none)) (s := f) rfl]
    dsimp only
    rw [hleaf]
    exact .fellOut hE

end

/-! ## Steps -/

/-- What two steps come to, side by side: the first formatter falls out, both fail alike, or both go on
    to write their lines. -/
inductive Paired (R : Formatter → Formatter → Prop) (E : Failure → Formatter → Prop) :
    Except Failure Unit × Formatter → Except Failure Unit × Formatter → Prop where
  | fellOut {e : Failure} {f : Formatter} {r : Except Failure Unit × Formatter} (hE : E e f) :
      Paired R E (.error e, f) r
  | failed (e : Failure) {f g : Formatter} (hfg : R f g) : Paired R E (.error e, f) (.error e, g)
  | writing {f g : Formatter} (hfg : R f g) : Paired R E (flush f) (flush g)

theorem Paired.of_bind {α : Type} {x y : Attempt Formatter α} {k l : α → Attempt Formatter Unit}
    (hx : x.KeepsUp R E y) (hk : ∀ a f g, R f g → Paired R E (k a f) (l a g)) (hfg : R f g) :
    Paired R E ((x >>= k) f) ((y >>= l) g) :=
  (hx f g hfg).of_bind .fellOut .failed fun a f' g' _ hfg' => hk a f' g' hfg'

variable (h : Tandem R E)

include h

theorem closeElement (tag : Tag) (hfg : R f g) :
    Paired R E (Formatter.closeElement tag f) (Formatter.closeElement tag g) := by
  unfold Formatter.closeElement
  rw [Attempt.state_bind, Attempt.state_bind, h.stack hfg]
  cases g.stack with
  | nil =>
    dsimp only
    rw [h.location hfg]
    exact .failed _ hfg
  | cons opened outer =>
    dsimp only
    rw [Attempt.update_bind, Attempt.update_bind]
    refine .of_bind (h.expectClosed opened tag) (fun _ f' g' hfg' => ?_) (h.setStack outer hfg)
    exact .of_bind (h.emitEnd tag) (fun _ _ _ hfg'' => .writing hfg'') hfg'

theorem standalone (tag : Tag) (hfg : R f g) :
    Paired R E (Formatter.standalone tag f) (Formatter.standalone tag g) := by
  refine .of_bind h.release (fun _ f' g' hfg' => ?_) hfg
  exact .of_bind (h.emitTag tag) (fun _ _ _ hfg'' => .writing hfg'') hfg'

theorem openElement (tag : Tag) (hfg : R f g) :
    Paired R E (Formatter.openElement tag f) (Formatter.openElement tag g) := by
  refine .of_bind h.release (fun _ f' g' hfg' => ?_) hfg
  rw [Attempt.state_bind, Attempt.state_bind, Attempt.update_bind, Attempt.update_bind,
    h.depth hfg', h.stack hfg']
  exact .of_bind (h.holdOrRead tag _) (fun _ _ _ hfg'' => .writing hfg'') (h.setStack _ hfg')

theorem respond (tag : Tag) (hfg : R f g) :
    Paired R E (Formatter.respond tag f) (Formatter.respond tag g) := by
  unfold Formatter.respond
  cases tag.kind with
  | closing => exact h.closeElement tag hfg
  | selfClosing => exact h.standalone tag hfg
  | declaration => exact h.standalone tag hfg
  | opening => exact h.openElement tag hfg

/-- A relation that is kept in front of writing is kept until the lines of a step are written. -/
theorem step (hfg : R f g) : Paired R E (Formatter.step f) (Formatter.step g) :=
  .of_bind h.nextTag (fun tag _ _ hfg' => h.respond tag hfg') hfg

end Tandem

/-! ## Formatters that lay out the same lines -/

/-- The relation is kept by what a step does in front of writing its lines, and the two formatters lay
    out the same lines. -/
structure Lockstep (R : Formatter → Formatter → Prop) (E : Failure → Formatter → Prop) : Prop
    extends SameMoves R E where
  indent {f g : Formatter} : R f g → f.settings.indent = g.settings.indent
  resolveReferences {f g : Formatter} :
    R f g → f.settings.resolveReferences = g.settings.resolveReferences
  addLine {f g : Formatter} (line : Text) : R f g →
    R { f with out := f.out.appendLine line, lines := f.lines + 1 }
      { g with out := g.out.appendLine line, lines := g.lines + 1 }

namespace Lockstep

variable {R : Formatter → Formatter → Prop} {E : Failure → Formatter → Prop} {f g : Formatter}
  (h : Lockstep R E)

include h

theorem resolved (hfg : R f g) (text : Text) :
    Formatter.resolved f.settings text = Formatter.resolved g.settings text := by
  rw [Formatter.resolved, Formatter.resolved, h.resolveReferences hfg]

theorem tandem : Tandem R E where
  toSameMoves := h.toSameMoves
  resolved {f g} text hfg := by
    rw [h.resolved hfg]
    cases hresolved : Formatter.resolved g.settings text with
    | ok t => exact .inl ⟨t, t, rfl, rfl⟩
    | error e => exact .inr ⟨e, rfl, .inl rfl⟩
  addLine {f₀ g₀ f g} depth before after {text t t'} hfg₀ ht ht' hfg := by
    rw [h.resolved hfg₀, ht'] at ht
    cases ht
    rw [Settings.indentation, Settings.indentation, h.indent hfg₀]
    exact h.addLine _ hfg

theorem step (hfg : R f g) : Tandem.Paired R E (Formatter.step f) (Formatter.step g) :=
  h.tandem.step hfg

end Lockstep

/-! ## Behind the steps -/

/-- Writing takes lines from the buffer to the sink, or leaves them where they are. -/
theorem flush_eq (f : Formatter) :
    ∃ result sink out writes, flush f = (result, { f with sink, out }) ∧
      sink.written = f.sink.written ++ writes ∧ writes.flatten ++ out.build = f.out.build ∧
      (result = .ok () ∧ out.build = [] ∨ ∃ fault, result = .error (.ofWrite fault)) := by
  unfold flush Sink.write
  split
  · rename_i hempty
    have hbuild : f.out.build = [] := by
      rw [Builder.build, List.isEmpty_iff.1 hempty]
      rfl
    exact ⟨_, f.sink, f.out, [], rfl, (List.append_nil _).symm, rfl, .inl ⟨rfl, hbuild⟩⟩
  · cases f.sink.refuses f.sink.calls f.out.build with
    | some fault => exact ⟨_, _, f.out, [], rfl, (List.append_nil _).symm, rfl, .inr ⟨fault, rfl⟩⟩
    | none =>
      refine ⟨_, _, {}, [f.out.build], rfl, List.reverse_cons, ?_, .inl ⟨rfl, rfl⟩⟩
      simp [Builder.build]

/-- The end of the text changes nothing. -/
theorem finish_snd (f : Formatter) : (finish f).2 = f := by
  unfold finish
  split <;> rfl

/-! ## Cursors -/

section

variable {P : Cursor → Prop} (hscan : ∀ target c, P c → P (Cursor.scanTo target c).2)
  (hadvance : ∀ c, P c → P (Cursor.advance true c).2) (htake : ∀ c, P c → P (Cursor.takeToken c).2)

include hscan hadvance htake

theorem lockstep_cursor : Lockstep (fun f g => f = g ∧ P f.cursor) (fun _ _ => False) where
  indent h := by rw [h.1]
  resolveReferences h := by rw [h.1]
  stack h := by rw [h.1]
  held h := by rw [h.1]
  file h := by rw [h.1]
  setStack _ h := ⟨by rw [h.1], h.2⟩
  setHeld _ h := ⟨by rw [h.1], h.2⟩
  addLine _ h := ⟨by rw [h.1], h.2⟩
  countTag h := ⟨by rw [h.1], h.2⟩
  firstBreak h := by rw [h.1]
  scanTo target := .of_agree fun f g h => ⟨by rw [h.1], by rw [h.1], hscan _ _ h.2⟩
  takeToken := .of_agree fun f g h => ⟨by rw [h.1], by rw [h.1], htake _ h.2⟩
  place h _ := by rw [h.1]
  advance h _ := by
    obtain ⟨rfl, hcursor⟩ := h
    exact .agreed _ ⟨rfl, hadvance _ hcursor⟩
  peek h := .inl (by rw [h.1])

/-- What a cursor keeps in all its moves it keeps in a step of the formatter. -/
theorem cursor_step {f : Formatter} (h : P f.cursor) : P (step f).2.cursor := by
  have hkept : ∀ {p q}, Tandem.Paired (fun f g => f = g ∧ P f.cursor) (fun _ _ => False) p q →
      P p.2.cursor := by
    intro p q hpaired
    cases hpaired with
    | fellOut hfalse => exact hfalse.elim
    | failed e h => exact h.2
    | @writing f' g h =>
      obtain ⟨_, _, _, _, hflush, -⟩ := flush_eq f'
      rw [hflush]
      exact h.2
  exact hkept ((lockstep_cursor hscan hadvance htake).step ⟨rfl, h⟩)

end

end Formatter

end Reindent
