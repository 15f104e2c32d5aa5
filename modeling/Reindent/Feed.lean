-- SUMMARY: The text in front of a reader, taken from its source one chunk at a time.
import Reindent.Reads
import Reindent.Text.Blank

/-! # Feeds

A feed holds the unread part of the latest chunk, its window, and the reads to come. A feed whose
last refill failed may stand behind its chunk with an empty window. -/

namespace Reindent

structure Feed where
  /-- The unread part of the latest chunk; none once the source has ended. -/
  window : Option Text
  reads : Reads
  /-- Characters that the source has given so far. -/
  delivered : Nat := 0
  deriving DecidableEq, Repr

namespace Feed

/-- Where a passage through the text ended. -/
inductive Landing where
  | found
  | ended
  | failed (fault : Fault)
  deriving DecidableEq, Repr

/-- Characters in front of the reader and reads to come. -/
def remaining (f : Feed) : Nat :=
  (f.window.getD []).length + f.reads.size

/-- Takes the next chunk in place of the window. A failed read changes nothing but the source. -/
def refill (f : Feed) : Except Fault Unit × Feed :=
  match f.reads with
  | .ended => (.ok (), { f with window := none })
  | .broken fault => (.error fault, f)
  | .fault fault next => (.error fault, { f with reads := next })
  | .text chunk next =>
    if chunk.isEmpty then (.ok (), { f with window := none, reads := next })
    else (.ok (), ⟨some chunk, next, f.delivered + chunk.length⟩)

/-! ## Passing text -/

/-- Passes text, chunk after chunk, up to the first place where `cut` cuts the window, and gives
    the text passed. A failed read leaves `keep window` of the window. -/
def pass (cut : Text → Option (Text × Text)) (keep : Text → Text) (window : Text) (delivered : Nat)
    (reads : Reads) : Text × Landing × Feed :=
  match cut window with
  | some (before, after) => (before, .found, ⟨some after, reads, delivered⟩)
  | none =>
    match reads with
    | .ended => (window, .ended, ⟨none, .ended, delivered⟩)
    | .broken fault => (window, .failed fault, ⟨some (keep window), .broken fault, delivered⟩)
    | .fault fault next => (window, .failed fault, ⟨some (keep window), next, delivered⟩)
    | .text chunk next =>
      if chunk.isEmpty then (window, .ended, ⟨none, next, delivered⟩)
      else
        let (passed, landing, feed) := pass cut keep chunk (delivered + chunk.length) next
        (window ++ passed, landing, feed)

/-- Passes text up to `target`, which has to stand within one chunk. After a failed read the window
    is still there, so the next try passes it again. -/
def seek (target window : Text) (delivered : Nat) (reads : Reads) : Text × Landing × Feed :=
  pass (Text.cut? target) id window delivered reads

/-- Cuts a text in front of the first character outside class `p`. -/
def cutWhile? (p : Char → Bool) (t : Text) : Option (Text × Text) :=
  match t.dropWhile p with
  | [] => none
  | c :: rest => some (t.takeWhile p, c :: rest)

/-- Passes characters of class `p`. After a failed read the window is empty. -/
def skip (p : Char → Bool) (window : Text) (delivered : Nat) (reads : Reads) :
    Text × Landing × Feed :=
  pass (cutWhile? p) (fun _ => []) window delivered reads

/-! ## What remains -/

/-- A passage does not add to what remains, if `cut` and `keep` only shorten the window. -/
theorem remaining_pass_le {cut : Text → Option (Text × Text)} {keep : Text → Text}
    (hcut : ∀ {t before after}, cut t = some (before, after) → after.length ≤ t.length)
    (hkeep : ∀ t : Text, (keep t).length ≤ t.length) (window : Text) (delivered : Nat)
    (reads : Reads) :
    (pass cut keep window delivered reads).2.2.remaining ≤ window.length + reads.size := by
  induction reads generalizing window delivered with
  | ended =>
    unfold pass
    split
    · rename_i h
      simpa [remaining] using hcut h
    · simp [remaining]
  | broken fault =>
    unfold pass
    split
    · rename_i h
      simpa [remaining] using hcut h
    · simpa [remaining] using hkeep window
  | fault fault next _ =>
    unfold pass
    split
    · rename_i h
      simpa [remaining] using hcut h
    · have := hkeep window
      simp only [remaining, Option.getD_some, Reads.size]
      omega
  | text chunk next ih =>
    unfold pass
    split
    · rename_i h
      simpa [remaining] using hcut h
    · dsimp only
      split
      · simp only [remaining, Option.getD_none, List.length_nil, Reads.size]
        omega
      · refine Nat.le_trans (ih chunk (delivered + chunk.length)) ?_
        simp only [Reads.size]
        omega

theorem remaining_seek_le (target window : Text) (delivered : Nat) (reads : Reads) :
    (seek target window delivered reads).2.2.remaining ≤ window.length + reads.size := by
  refine remaining_pass_le (fun {t before after} h => ?_) (fun t => Nat.le_refl _) _ _ _
  have := congrArg List.length (Text.append_of_cut? h)
  simp only [List.length_append] at this
  omega

theorem length_of_cutWhile? {p : Char → Bool} {t before after : Text}
    (h : cutWhile? p t = some (before, after)) : after.length ≤ t.length := by
  unfold cutWhile? at h
  split at h
  · simp at h
  · rename_i heq
    simp only [Option.some.injEq, Prod.mk.injEq] at h
    rw [← h.2, ← heq]
    exact (List.dropWhile_sublist p).length_le

theorem remaining_skip_le (p : Char → Bool) (window : Text) (delivered : Nat) (reads : Reads) :
    (skip p window delivered reads).2.2.remaining ≤ window.length + reads.size :=
  remaining_pass_le length_of_cutWhile? (fun _ => Nat.zero_le _) _ _ _

/-- A passage that found its place ends at a cut of some window. -/
theorem pass_found {cut : Text → Option (Text × Text)} {keep : Text → Text} {window : Text}
    {delivered : Nat} {reads : Reads} (h : (pass cut keep window delivered reads).2.1 = .found) :
    ∃ w before after, cut w = some (before, after) ∧
      (pass cut keep window delivered reads).2.2.window = some after := by
  induction reads generalizing window delivered with
  | ended | broken | fault =>
    unfold pass at h ⊢
    split
    · rename_i hc
      exact ⟨_, _, _, hc, rfl⟩
    · rename_i hc
      simp [hc] at h
  | text chunk next ih =>
    unfold pass at h ⊢
    split
    · rename_i hc
      exact ⟨_, _, _, hc, rfl⟩
    · rename_i hc
      by_cases hchunk : chunk.isEmpty = true
      · simp [hc, hchunk] at h
      · simp only [hc, hchunk, Bool.false_eq_true, if_false] at h ⊢
        exact ih h

end Feed

end Reindent
