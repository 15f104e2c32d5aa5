-- SUMMARY: The words of a text, and when taking out its line breaks leaves them as they are.
import Reindent.Proofs.Blanks

/-! # Words

A word is a run of characters that are not blank, taken as long as it is. A text without its line
breaks has the same words, unless somewhere nothing but line breaks kept two of them apart:
`words_unbroken_iff`. -/

namespace Reindent.Text

variable {s t before rest : Text} {c : Char}

/-! ## The words of a text -/

def words (t : Text) : List Text :=
  (t.splitOnP isBlank).filter (!·.isEmpty)

def startsWord (t : Text) : Bool :=
  t.head?.any (!isBlank ·)

/-- No word goes over a blank. -/
theorem words_append_cons (hc : isBlank c = true) (s t : Text) :
    words (s ++ c :: t) = s.words ++ t.words := by
  unfold words
  rw [List.splitOnP_append_cons s t hc, List.filter_append]

theorem words_cons_of_blank (hc : isBlank c = true) (t : Text) : words (c :: t) = t.words :=
  words_append_cons hc [] t

/-- A character that is not blank belongs to the word behind it, or is one if there is none. -/
theorem words_cons (hc : isBlank c = false) (t : Text) :
    words (c :: t) =
      if t.startsWord then t.words.modifyHead (c :: ·) else [c] :: t.words := by
  cases t with
  | nil => simp [words, startsWord, List.splitOnP_cons_eq_if_modifyHead, hc]
  | cons d t =>
    obtain ⟨w, ws, hws⟩ := List.exists_cons_of_ne_nil (List.splitOnP_ne_nil isBlank t)
    cases hd : isBlank d <;>
      simp [words, startsWord, List.splitOnP_cons_eq_if_modifyHead, hc, hd, hws]

/-! ## Words that are kept apart -/

/-- A word ends in front of `rest`, and nothing but line breaks keeps the next one away. -/
structure PartedAt (t before rest : Text) : Prop where
  eq : t = before ++ rest
  word : before.getLast?.any (!isBlank ·) = true
  broken : rest.head?.any isBreak = true
  next : rest.unbroken.startsWord = true

/-- Somewhere nothing but line breaks keeps two words apart. -/
def Parted (t : Text) : Prop :=
  ∃ before rest, t.PartedAt before rest

theorem getLast?_any_append_cons (p : Char → Bool) (s t : Text) :
    (s ++ c :: t).getLast?.any p = if t = [] then p c else t.getLast?.any p := by
  rw [List.getLast?_append_cons]
  cases t with
  | nil => rfl
  | cons d t => rw [List.getLast?_cons_cons, if_neg (List.cons_ne_nil d t)]

theorem PartedAt.append (h : t.PartedAt before rest) (s : Text) :
    (s ++ t).PartedAt (s ++ before) rest := by
  refine { h with eq := by rw [h.eq, List.append_assoc], word := ?_ }
  cases before with
  | nil => cases h.word
  | cons x before => rw [List.getLast?_append_cons, h.word]

/-- What is parted behind a blank is parted without what is in front. -/
theorem PartedAt.of_append (h : (s ++ c :: t).PartedAt (s ++ c :: before) rest)
    (hc : isBlank c = true) : t.PartedAt before rest := by
  have hword := h.word
  rw [getLast?_any_append_cons] at hword
  refine { h with eq := by simpa using h.eq, word := ?_ }
  split at hword
  · simp [hc] at hword
  · exact hword

/-- Words that are kept apart are so at the first line break or behind it. -/
theorem PartedAt.cases_of_first (h : (s ++ c :: t).PartedAt before rest)
    (hfree : ∀ x ∈ s, isBreak x = false) (hc : isBreak c = true) :
    (before = s ∧ rest = c :: t) ∨
      ∃ others, before = s ++ c :: others ∧ t.PartedAt others rest := by
  rcases List.append_eq_append_iff.1 h.eq with ⟨others, hbefore, hrest⟩ | ⟨others, hs, hrest⟩
  · cases others with
    | nil => exact .inl ⟨by simpa using hbefore, by simpa using hrest.symm⟩
    | cons x others =>
      obtain ⟨rfl, ht⟩ := List.cons.inj hrest
      subst hbefore
      exact .inr ⟨others, rfl, h.of_append (isBlank_of_isBreak hc)⟩
  · cases others with
    | nil => exact .inl ⟨by simpa using hs.symm, hrest⟩
    | cons x others =>
      have hbroken := h.broken
      rw [hrest] at hbroken
      exact absurd hbroken (by simp [hfree x (by simp [hs])])

/-- A blank in front keeps no word from another. -/
theorem parted_cons_of_blank (hc : isBlank c = true) : Parted (c :: t) ↔ t.Parted := by
  constructor
  · rintro ⟨before, rest, h⟩
    cases before with
    | nil => cases h.word
    | cons x before =>
      obtain rfl := (List.cons.inj h.eq).1
      exact ⟨before, rest, PartedAt.of_append (s := []) h hc⟩
  · rintro ⟨before, rest, h⟩
    exact ⟨_, rest, h.append [c]⟩

/-- A character that is not blank may be kept from the word that comes behind line breaks. -/
theorem parted_cons (hc : isBlank c = false) :
    Parted (c :: t) ↔
      t.Parted ∨ t.head?.any isBreak = true ∧ t.unbroken.startsWord = true := by
  constructor
  · rintro ⟨before, rest, heq, hword, hbroken, hnext⟩
    cases before with
    | nil => cases hword
    | cons x before =>
      rw [List.cons_append, List.cons.injEq] at heq
      obtain ⟨-, rfl⟩ := heq
      cases before with
      | nil => exact .inr ⟨hbroken, hnext⟩
      | cons y before =>
        rw [List.getLast?_cons_cons] at hword
        exact .inl ⟨y :: before, rest, rfl, hword, hbroken, hnext⟩
  · rintro (⟨before, rest, h⟩ | ⟨hbroken, hnext⟩)
    · exact ⟨_, rest, h.append [c]⟩
    · exact ⟨[c], t, rfl, by simp [hc], hbroken, hnext⟩

/-! ## Words without line breaks -/

theorem isBreak_of_not_blank (hc : isBlank c = false) : isBreak c = false := by
  cases hbreak : isBreak c with
  | false => rfl
  | true =>
    rw [isBlank_of_isBreak hbreak] at hc
    cases hc

theorem unbroken_cons_of_break (hc : isBreak c = true) (t : Text) :
    unbroken (c :: t) = t.unbroken := by
  simp [unbroken, hc]

theorem unbroken_cons (hc : isBreak c = false) (t : Text) :
    unbroken (c :: t) = c :: t.unbroken := by
  simp [unbroken, hc]

/-- Without its line breaks a text starts with a word if it does so with them, or has line breaks in
    front of a word. -/
theorem startsWord_unbroken (t : Text) :
    t.unbroken.startsWord = (t.startsWord || t.head?.any isBreak && t.unbroken.startsWord) := by
  cases t with
  | nil => rfl
  | cons c t =>
    cases hbreak : isBreak c with
    | true => simp [startsWord, hbreak, isBlank_of_isBreak hbreak]
    | false => simp [startsWord, hbreak, unbroken_cons hbreak]

theorem head?_any_isBreak_of_startsWord (h : t.startsWord = true) :
    t.head?.any isBreak = false := by
  cases t with
  | nil => rfl
  | cons c t => exact isBreak_of_not_blank (by simpa [startsWord] using h)

theorem modifyHead_cons_injective (c : Char) :
    Function.Injective (List.modifyHead (c :: ·) : List Text → List Text) := by
  intro ws ws' h
  cases ws <;> cases ws' <;> simp_all

/-- Taking out line breaks does not make more words. -/
theorem length_words_unbroken_le (t : Text) : t.unbroken.words.length ≤ t.words.length := by
  induction t with
  | nil => exact le_refl _
  | cons c t ih =>
    cases hc : isBlank c with
    | true =>
      rw [words_cons_of_blank hc]
      cases hbreak : isBreak c with
      | true => rwa [unbroken_cons_of_break hbreak]
      | false => rwa [unbroken_cons hbreak, words_cons_of_blank hc]
    | false =>
      rw [unbroken_cons (isBreak_of_not_blank hc), words_cons hc, words_cons hc,
        startsWord_unbroken]
      cases startsWord t with
      | true => simpa using ih
      | false =>
        split
        · simpa using Nat.le_succ_of_le ih
        · simpa using ih

/-- Taking out the line breaks keeps the words exactly if no two of them are kept apart by nothing
    else. -/
theorem words_unbroken_iff (t : Text) : t.unbroken.words = t.words ↔ ¬ t.Parted := by
  induction t with
  | nil =>
    refine iff_of_true rfl ?_
    rintro ⟨before, rest, h⟩
    obtain ⟨rfl, -⟩ := List.append_eq_nil_iff.1 h.eq.symm
    cases h.word
  | cons c t ih =>
    cases hc : isBlank c with
    | true =>
      rw [words_cons_of_blank hc, parted_cons_of_blank hc, ← ih]
      cases hbreak : isBreak c with
      | true => rw [unbroken_cons_of_break hbreak]
      | false => rw [unbroken_cons hbreak, words_cons_of_blank hc]
    | false =>
      rw [unbroken_cons (isBreak_of_not_blank hc), words_cons hc, words_cons hc,
        startsWord_unbroken, parted_cons hc, not_or, ← ih]
      cases hstart : startsWord t with
      | true =>
        rw [Bool.true_or, if_pos rfl, if_pos rfl, (modifyHead_cons_injective c).eq_iff]
        exact (and_iff_left fun h => by simp [head?_any_isBreak_of_startsWord hstart] at h).symm
      | false =>
        rw [Bool.false_or, if_neg Bool.false_ne_true, ← Bool.and_eq_true]
        split
        · -- The word behind the line breaks has become a part of the one in front of them.
          rename_i hparted
          refine iff_of_false (fun h => ?_) (fun h => h.2 hparted)
          have hlength := congrArg List.length h
          rw [List.length_modifyHead, List.length_cons] at hlength
          exact absurd (length_words_unbroken_le t) (by omega)
        · rename_i hparted
          rw [List.cons.injEq, and_iff_right rfl, and_iff_left hparted]

end Reindent.Text
