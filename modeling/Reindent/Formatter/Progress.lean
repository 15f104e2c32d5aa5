-- SUMMARY: No operation of the formatter adds to what remains to be read, and each step reads some of it.
import Reindent.Formatter

/-! # Progress

`remaining_step_lt`: a step that succeeds leaves less to read. A run therefore comes to an end. -/

namespace Reindent.Formatter

theorem wanes_reading {α : Type} {move : Attempt Cursor α} (h : move.Wanes Cursor.remaining) :
    (reading move).Wanes remaining :=
  fun f => h f.cursor

theorem wanes_takeTag (line : Nat) : (takeTag line).Wanes remaining :=
  .bind (.update fun f => Nat.le_refl f.remaining) fun _ =>
  .bind .state fun _ =>
  .bind (wanes_reading Cursor.wanes_takeToken) fun _ =>
  .bind .state fun _ => .lift _

theorem wanes_readTag : readTag.Wanes remaining :=
  .bind (wanes_reading (Cursor.wanes_scanTo _)) fun _ =>
  .bind .state fun _ =>
  .bind (wanes_reading (Cursor.wanes_advance _)) fun _ => wanes_takeTag _

theorem wanes_emit (line : Text) : (emit line).Wanes remaining :=
  .update fun f => Nat.le_refl f.remaining

theorem wanes_emitTag (tag : Tag) : (emitTag tag).Wanes remaining :=
  .bind .state fun _ => wanes_emit _

theorem wanes_release : release.Wanes remaining := by
  refine .bind .state fun f => ?_
  split
  · exact .pure _
  · exact .bind (wanes_emit _) fun _ => .update fun f => Nat.le_refl f.remaining

theorem wanes_flush : flush.Wanes remaining := by
  intro f
  unfold flush
  split
  · exact Nat.le_refl _
  · split <;> exact Nat.le_refl _

theorem wanes_expectClosed (tag close : Tag) : (expectClosed tag close).Wanes remaining := by
  refine .bind .state fun f => ?_
  split
  · exact .pure _
  · exact .fail _

theorem wanes_emitEnd (tag : Tag) : (emitEnd tag).Wanes remaining := by
  refine .bind .state fun f => ?_
  split
  · exact .bind (.update fun f => Nat.le_refl f.remaining) fun _ => wanes_emit _
  · exact .bind wanes_release fun _ => wanes_emitTag _

theorem wanes_closeElement (tag : Tag) : (closeElement tag).Wanes remaining := by
  refine .bind .state fun f => ?_
  split
  · exact .fail _
  · exact .bind (.update fun f => Nat.le_refl f.remaining) fun _ =>
      .bind (wanes_expectClosed _ _) fun _ => .bind (wanes_emitEnd _) fun _ => wanes_flush

theorem wanes_standalone (tag : Tag) : (standalone tag).Wanes remaining :=
  .bind wanes_release fun _ => .bind (wanes_emitTag _) fun _ => wanes_flush

theorem wanes_expectTextClosed (tag close : Tag) :
    (expectTextClosed tag close).Wanes remaining := by
  refine .bind .state fun f => ?_
  split
  · exact wanes_expectClosed _ _
  · exact .fail _

theorem wanes_leaf (tag : Tag) (depth : Nat) : (leaf tag depth).Wanes remaining :=
  .bind (wanes_reading (Cursor.wanes_scanTo _)) fun _ =>
  .bind (wanes_reading Cursor.wanes_takeToken) fun _ =>
  .bind .state fun _ =>
  .bind (.lift _) fun _ =>
  .bind wanes_readTag fun _ =>
  .bind (wanes_expectTextClosed _ _) fun _ =>
  .bind (.update fun f => Nat.le_refl f.remaining) fun _ => wanes_emit _

theorem wanes_holdOrRead (tag : Tag) (depth : Nat) : (holdOrRead tag depth).Wanes remaining := by
  refine .bind .state fun f => .bind (.lift _) fun next => ?_
  split
  · exact .update fun f => Nat.le_refl f.remaining
  · exact wanes_leaf _ _

theorem wanes_openElement (tag : Tag) : (openElement tag).Wanes remaining :=
  .bind wanes_release fun _ =>
  .bind .state fun _ =>
  .bind (.update fun f => Nat.le_refl f.remaining) fun _ =>
  .bind (wanes_holdOrRead _ _) fun _ => wanes_flush

theorem wanes_respond (tag : Tag) : (respond tag).Wanes remaining := by
  unfold respond
  split
  · exact wanes_closeElement _
  · exact wanes_standalone _
  · exact wanes_standalone _
  · exact wanes_openElement _

/-- What `move` does to the cursor when it succeeds. -/
theorem reading_eq_ok {α : Type} {move : Attempt Cursor α} {f g : Formatter} {a : α}
    (h : reading move f = (.ok a, g)) : move f.cursor = (.ok a, g.cursor) := by
  simp only [reading, Prod.mk.injEq] at h
  rw [← h.2]
  exact Prod.ext h.1 rfl

/-- A tag that was read is no longer to be read. -/
theorem remaining_readTag_lt {f g : Formatter} {tag : Tag} (h : readTag f = (.ok tag, g)) :
    g.remaining < f.remaining := by
  obtain ⟨_, f₁, hscan, h⟩ := Attempt.bind_eq_ok_iff.1 h
  rw [Attempt.state_bind] at h
  obtain ⟨_, f₂, hadvance, h⟩ := Attempt.bind_eq_ok_iff.1 h
  have scanned : f₁.remaining ≤ f.remaining := by
    have := wanes_reading (Cursor.wanes_scanTo ['>']) f
    rwa [hscan] at this
  have advanced : f₂.remaining < f₁.remaining := by
    obtain ⟨rest, hrest⟩ := Cursor.window_of_scanTo (reading_eq_ok hscan)
    have : (Cursor.advance true f₁.cursor).2.remaining < f₁.remaining :=
      Cursor.remaining_advance_lt hrest
    rwa [reading_eq_ok hadvance] at this
  have taken : g.remaining ≤ f₂.remaining := by
    have := wanes_takeTag f₁.cursor.place.line f₂
    rwa [h] at this
  omega

/-- A step that succeeds reads at least one tag. -/
theorem remaining_step_lt {f g : Formatter} (h : step f = (.ok (), g)) :
    g.remaining < f.remaining := by
  obtain ⟨tag, f₃, hnext, h⟩ := Attempt.bind_eq_ok_iff.1 h
  obtain ⟨_, f₁, hscan, hnext⟩ := Attempt.bind_eq_ok_iff.1 hnext
  obtain ⟨_, f₂, htake, hread⟩ := Attempt.bind_eq_ok_iff.1 hnext
  have scanned := wanes_reading (Cursor.wanes_scanTo ['<']) f
  have taken := wanes_reading Cursor.wanes_takeToken f₁
  have responded := wanes_respond tag f₃
  rw [hscan] at scanned
  rw [htake] at taken
  rw [h] at responded
  have := remaining_readTag_lt hread
  dsimp only at scanned taken responded
  omega

end Reindent.Formatter
