-- SUMMARY: Blank texts, and what is left of a text without its line breaks and the blanks around it.
import Mathlib.Data.List.DropRight
import Mathlib.Data.List.TakeWhile
import Reindent.Text.Blank

/-! # Blanks and line breaks

Both taking out the line breaks of a text and stripping it of the blanks around it only drop blanks,
and dropping them once is enough: `unbroken_strip_unbroken` and `strip_strip`. -/

namespace Reindent.Text

variable {s t : Text} {c : Char}

/-! ## Blank texts -/

/-- The text holds nothing but blanks. -/
def AllBlank (t : Text) : Prop :=
  ∀ c ∈ t, isBlank c = true

instance (t : Text) : Decidable t.AllBlank :=
  decidable_of_iff (t.all isBlank = true) List.all_eq_true

theorem AllBlank.append (hs : s.AllBlank) (ht : t.AllBlank) : (s ++ t).AllBlank := by
  intro c hc
  rcases List.mem_append.1 hc with hc | hc
  · exact hs c hc
  · exact ht c hc

theorem AllBlank.not_mem (h : t.AllBlank) (hc : isBlank c = false) : c ∉ t := by
  intro hmem
  rw [h c hmem] at hc
  cases hc

theorem allBlank_iff_dropWhile : t.AllBlank ↔ t.dropWhile isBlank = [] :=
  List.dropWhile_eq_nil_iff.symm

theorem allBlank_takeWhile (t : Text) : AllBlank (t.takeWhile isBlank) :=
  fun _ hc => List.mem_takeWhile_imp hc

/-- Repeating blanks gives blanks. -/
theorem AllBlank.times (h : t.AllBlank) (n : Int) : (t.times n).AllBlank := by
  intro c hc
  rw [times_eq, List.mem_flatten] at hc
  obtain ⟨u, hu, hc⟩ := hc
  rw [(List.mem_replicate.1 hu).2] at hc
  exact h c hc

/-! ## Line breaks -/

theorem unbroken_append (s t : Text) : (s ++ t).unbroken = s.unbroken ++ t.unbroken :=
  List.filter_append s t

theorem mem_unbroken_iff : c ∈ t.unbroken ↔ c ∈ t ∧ isBreak c = false := by
  simp [unbroken]

/-- Without line breaks there is nothing to take out. -/
theorem unbroken_eq_self_iff : t.unbroken = t ↔ ∀ c ∈ t, isBreak c = false := by
  simp [unbroken]

theorem AllBlank.unbroken (h : t.AllBlank) : t.unbroken.AllBlank :=
  fun c hc => h c (mem_unbroken_iff.1 hc).1

/-! ## Stripping -/

theorem strip_eq (t : Text) : t.strip = (t.dropWhile isBlank).rdropWhile isBlank :=
  rfl

theorem strip_append_of_allBlank (h : s.AllBlank) : (s ++ t).strip = t.strip := by
  rw [strip_eq, strip_eq, List.dropWhile_append_of_pos h]

theorem strip_isInfix (t : Text) : t.strip <:+: t :=
  (List.rdropWhile_prefix isBlank _).isInfix.trans (List.dropWhile_suffix isBlank).isInfix

theorem mem_of_mem_strip (h : c ∈ t.strip) : c ∈ t :=
  (strip_isInfix t).subset h

/-- What is not blank is not stripped. -/
theorem mem_strip (h : c ∈ t) (hc : isBlank c = false) : c ∈ t.strip := by
  rw [← List.takeWhile_append_dropWhile (p := isBlank) (l := t), List.mem_append] at h
  rcases h with h | h
  · exact absurd h ((allBlank_takeWhile t).not_mem hc)
  · rw [← List.rdropWhile_append_rtakeWhile (p := isBlank) (l := t.dropWhile isBlank),
      List.mem_append] at h
    rcases h with h | h
    · exact h
    · rw [List.mem_rtakeWhile_imp h] at hc
      cases hc

/-- Stripping twice is stripping once. -/
theorem strip_strip (t : Text) : t.strip.strip = t.strip := by
  have hhead : t.strip.dropWhile isBlank = t.strip := by
    obtain ⟨rest, hrest⟩ := List.rdropWhile_prefix isBlank (t.dropWhile isBlank)
    cases hstrip : t.strip with
    | nil => rfl
    | cons c u =>
      have hfirst : t.dropWhile isBlank = c :: (u ++ rest) := by
        rw [← hrest, ← strip_eq, hstrip, List.cons_append]
      have hc := List.head?_dropWhile_not isBlank t
      rw [hfirst] at hc
      exact List.dropWhile_cons_of_neg (by simpa using hc)
  rw [strip_eq, hhead, strip_eq, List.rdropWhile_idempotent]

/-- There is no line break to take out of a text that was stripped after they were taken out. -/
theorem unbroken_strip_unbroken (t : Text) : t.unbroken.strip.unbroken = t.unbroken.strip :=
  unbroken_eq_self_iff.2 fun _ hc => (mem_unbroken_iff.1 (mem_of_mem_strip hc)).2

/-- A text with anything in it has something left. -/
theorem not_allBlank_strip_unbroken (h : ¬ t.AllBlank) : ¬ t.unbroken.strip.AllBlank := by
  intro hblank
  refine h fun c hc => ?_
  by_contra hne
  have hc' : isBlank c = false := by simpa using hne
  have hbreak : isBreak c = false := by
    by_contra hbreak
    exact hne (isBlank_of_isBreak (by simpa using hbreak))
  exact hne (hblank c (mem_strip (mem_unbroken_iff.2 ⟨hc, hbreak⟩) hc'))

end Reindent.Text
