-- SUMMARY: The only references that cannot be resolved are decimal numbers with too many digits.
import Mathlib.Data.List.Basic
import Mathlib.Data.List.TakeWhile
import Reindent.Reference

/-! # References that are too long

A text is resolved in one pass, from one reference to the next. No reference reaches over the `&` of
another one, so the pass comes to every `&` of the text that it has not failed before:
`exists_of_read?`. It fails exactly if a `&#` stands in front of more decimal digits than can be read:
`resolve_eq_error_iff`. -/

namespace Reindent.Reference

variable {t after : Text} {r : Reference}

/-- A run of characters at the start of a text, with the semicolon that may follow it. -/
theorem exists_of_prefix {run : Text} (h : run <+: t) (hfree : '&' ∉ run) :
    ∃ consumed, t = consumed ++ dropSemicolon (t.drop run.length) ∧ '&' ∉ consumed := by
  have hrun : t = run ++ t.drop run.length := (List.prefix_iff_eq_append.1 h).symm
  generalize t.drop run.length = rest at hrun
  unfold dropSemicolon
  split
  · exact ⟨run ++ [';'], by simpa using hrun, by simpa using hfree⟩
  · exact ⟨run, hrun, hfree⟩

theorem dropSemicolon_of_ne (h : ∀ rest, t = ';' :: rest → False) : dropSemicolon t = t := by
  unfold dropSemicolon
  split
  · exact (h _ rfl).elim
  · rfl

theorem not_mem_takeWhile {p : Char → Bool} (hp : p '&' = false) (t : Text) :
    '&' ∉ t.takeWhile p := by
  intro hmem
  rw [List.mem_takeWhile_imp hmem] at hp
  cases hp

theorem exists_of_takeWhile {p : Char → Bool} (hp : p '&' = false) (t : Text) :
    ∃ consumed, t = consumed ++ dropSemicolon (t.drop (t.takeWhile p).length) ∧ '&' ∉ consumed :=
  exists_of_prefix (List.takeWhile_prefix p) (not_mem_takeWhile hp t)

theorem exists_of_name (t : Text) :
    ∃ consumed, t = consumed ++
      dropSemicolon (t.drop ((t.take nameLimit).takeWhile isNameChar).length) ∧ '&' ∉ consumed :=
  exists_of_prefix ((List.takeWhile_prefix _).trans (List.take_prefix _ _))
    (not_mem_takeWhile (by decide) _)

/-- A reference reaches over no `&`. -/
theorem exists_of_read? (h : read? t = some (r, after)) :
    ∃ consumed, t = consumed ++ after ∧ '&' ∉ consumed := by
  unfold read? at h
  split at h
  · split at h
    · split at h
      · rename_i mark digits _
        split at h
        · rename_i hmark
          split at h
          · cases h
          · cases h
            obtain ⟨consumed, hdigits, hfree⟩ :=
              exists_of_takeWhile (p := isHexDigit) (by decide) digits
            refine ⟨'#' :: mark :: consumed, ?_, ?_⟩
            · rw [List.cons_append, List.cons_append, ← hdigits]
            · have hne : '&' ≠ mark := by
                rintro rfl
                cases hmark
              simp [hne, hfree]
        · cases h
      · cases h
    · rename_i number _ _
      cases h
      obtain ⟨consumed, hnumber, hfree⟩ :=
        exists_of_takeWhile (p := isDecimalDigit) (by decide) number
      exact ⟨'#' :: consumed, by rw [List.cons_append, ← hnumber], by simp [hfree]⟩
  · split at h
    · cases h
    · obtain ⟨consumed, ht, hfree⟩ := exists_of_name t
      split at h
      · rename_i hrest
        cases h
        rw [hrest] at ht
        exact ⟨consumed, ht, hfree⟩
      · rename_i hrest
        cases h
        rw [dropSemicolon_of_ne hrest] at ht
        exact ⟨consumed, ht, hfree⟩

/-! ## Too many digits -/

/-- The text, behind a `&`, goes on as a decimal reference with more digits than can be read. -/
def StartsOverlong (t : Text) : Prop :=
  ∃ digits : Text, digitLimit < digits.length ∧ (∀ d ∈ digits, isDecimalDigit d = true) ∧
    '#' :: digits <+: t

/-- A `&#` in the text stands in front of more digits than can be read. -/
def HoldsOverlong (t : Text) : Prop :=
  ∃ digits : Text, digitLimit < digits.length ∧ (∀ d ∈ digits, isDecimalDigit d = true) ∧
    '&' :: '#' :: digits <:+: t

theorem not_holdsOverlong_nil : ¬ HoldsOverlong [] := by
  rintro ⟨digits, -, -, hinfix⟩
  cases List.infix_nil.1 hinfix

theorem holdsOverlong_cons {c : Char} :
    HoldsOverlong (c :: t) ↔ c = '&' ∧ StartsOverlong t ∨ HoldsOverlong t := by
  simp only [HoldsOverlong, StartsOverlong, List.infix_cons_iff, List.cons_prefix_cons]
  constructor
  · rintro ⟨digits, hlong, hdigits, ⟨rfl, hstart⟩ | hinside⟩
    · exact .inl ⟨rfl, digits, hlong, hdigits, hstart⟩
    · exact .inr ⟨digits, hlong, hdigits, hinside⟩
  · rintro (⟨rfl, digits, hlong, hdigits, hstart⟩ | ⟨digits, hlong, hdigits, hinside⟩)
    · exact ⟨digits, hlong, hdigits, .inl ⟨rfl, hstart⟩⟩
    · exact ⟨digits, hlong, hdigits, .inr hinside⟩

theorem holdsOverlong_append {consumed : Text} (hfree : '&' ∉ consumed) :
    HoldsOverlong (consumed ++ t) ↔ HoldsOverlong t := by
  induction consumed with
  | nil => rfl
  | cons c consumed ih =>
    rw [List.mem_cons, not_or] at hfree
    rw [List.cons_append, holdsOverlong_cons, ih hfree.2]
    simp [Ne.symm hfree.1]

/-- Digits are read as far as they go. -/
theorem read?_of_digits {digits : Text} (hne : digits ≠ [])
    (hdigits : ∀ d ∈ digits, isDecimalDigit d = true) (h : '#' :: digits <+: t) :
    ∃ more after, read? t = some (.decimal (digits ++ more), after) := by
  obtain ⟨rest, rfl⟩ := h
  have hrun : (digits ++ rest).takeWhile isDecimalDigit =
      digits ++ rest.takeWhile isDecimalDigit := List.takeWhile_append_of_pos hdigits
  rw [List.cons_append]
  simp only [read?, hrun]
  split
  · rename_i hnil
    exact absurd (List.append_eq_nil_iff.1 hnil).1 hne
  · exact ⟨_, _, rfl⟩

theorem digits_of_read? {digits : Text} (h : read? t = some (.decimal digits, after)) :
    '#' :: digits <+: t ∧ ∀ d ∈ digits, isDecimalDigit d = true := by
  unfold read? at h
  split at h
  · split at h
    · split at h
      · split at h
        · split at h <;> cases h
        · cases h
      · cases h
    · cases h
      exact ⟨List.cons_prefix_cons.2 ⟨rfl, List.takeWhile_prefix _⟩, fun d => List.mem_takeWhile_imp⟩
  · split at h
    · cases h
    · split at h <;> cases h

theorem ne_nil_of_long {digits : Text} (h : digitLimit < digits.length) : digits ≠ [] := by
  rintro rfl
  cases h

/-- The value of a reference is missing exactly if it has too many digits. -/
theorem value_eq_error_iff (h : read? t = some (r, after)) :
    (∃ e, r.value = .error e) ↔ StartsOverlong t := by
  constructor
  · rintro ⟨e, he⟩
    cases r with
    | decimal digits =>
      obtain ⟨hstart, hdigits⟩ := digits_of_read? h
      rw [value] at he
      split at he
      · rename_i hlong
        exact ⟨digits, hlong, hdigits, hstart⟩
      · cases he
    | hexadecimal digits => cases he
    | named body => cases he
  · rintro ⟨digits, hlong, hdigits, hstart⟩
    obtain ⟨more, after', hread⟩ := read?_of_digits (ne_nil_of_long hlong) hdigits hstart
    cases h.symm.trans hread
    refine ⟨⟨(digits ++ more).length⟩, ?_⟩
    rw [value, if_pos (by rw [List.length_append]; omega)]

theorem not_startsOverlong (h : read? t = none) : ¬ StartsOverlong t := by
  rintro ⟨digits, hlong, hdigits, hstart⟩
  obtain ⟨more, after, hread⟩ := read?_of_digits (ne_nil_of_long hlong) hdigits hstart
  cases h.symm.trans hread

theorem map_eq_error_iff {α β ε : Type} {f : α → β} {x : Except ε α} :
    (∃ e, x.map f = .error e) ↔ ∃ e, x = .error e := by
  cases x <;> simp [Except.map]

/-- A text can be resolved unless it holds a decimal reference with too many digits. -/
theorem resolve_eq_error_iff (t : Text) : (∃ e, resolve t = .error e) ↔ HoldsOverlong t := by
  fun_induction resolve t with
  | case1 => simp [not_holdsOverlong_nil]
  | case2 rest reference after hread ih =>
    obtain ⟨consumed, hrest, hfree⟩ := exists_of_read? hread
    have hvalue := value_eq_error_iff hread
    -- Whatever does not start here is behind the reference.
    have hbehind : HoldsOverlong rest ↔ HoldsOverlong after := by
      rw [hrest]
      exact holdsOverlong_append hfree
    rw [holdsOverlong_cons, ← hvalue, hbehind, ← ih]
    cases reference.value with
    | error e => simp [bind, Except.bind]
    | ok first => cases resolve after <;> simp [bind, Except.bind, pure, Except.pure]
  | case3 rest hread ih =>
    rw [map_eq_error_iff, ih, holdsOverlong_cons]
    simp [not_startsOverlong hread]
  | case4 c rest hc ih =>
    rw [map_eq_error_iff, ih, holdsOverlong_cons]
    simp [hc]

end Reindent.Reference
