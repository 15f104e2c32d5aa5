-- SUMMARY: A text cut into its tag tokens and the texts in front of them.
import Mathlib.Data.List.TakeWhile
import Reindent.Proofs.Blanks
import Reindent.Tag

/-! # Markup

A tag token runs from a `<` through the first `>` behind it. Reading tokens from left to right cuts a
text into pieces, each a token with the text in front of it, and a tail in which no token is complete.
`Markup.ofText_text` and `Markup.text_ofText`: each text is cut in exactly one way. -/

namespace Reindent

namespace Text

/-! ## Cutting at a character -/

variable {c : Char} {t u : Text}

theorem takeWhile_ne_append (h : c ∉ t) : (t ++ c :: u).takeWhile (· != c) = t := by
  rw [List.takeWhile_append_of_pos]
  · simp
  · intro x hx
    exact bne_iff_ne.2 fun heq => h (heq ▸ hx)

theorem dropWhile_ne_append (h : c ∉ t) : (t ++ c :: u).dropWhile (· != c) = c :: u := by
  rw [List.dropWhile_append_of_pos]
  · simp
  · intro x hx
    exact bne_iff_ne.2 fun heq => h (heq ▸ hx)

theorem not_mem_takeWhile_ne (c : Char) (t : Text) : c ∉ t.takeWhile (· != c) := by
  intro h
  simpa using List.mem_takeWhile_imp h

theorem dropWhile_ne_eq_nil_iff : t.dropWhile (· != c) = [] ↔ c ∉ t := by
  rw [List.dropWhile_eq_nil_iff]
  constructor
  · intro h hmem
    simpa using h c hmem
  · intro h x hx
    exact bne_iff_ne.2 fun heq => h (heq ▸ hx)

/-- What is left at a character starts with it. -/
theorem eq_of_dropWhile_ne {x : Char} (h : t.dropWhile (· != c) = x :: u) :
    x = c ∧ t = t.takeWhile (· != c) ++ c :: u := by
  have hx : x = c := by
    have := List.head?_dropWhile_not (· != c) t
    rw [h] at this
    simpa using this
  refine ⟨hx, ?_⟩
  subst hx
  rw [← h]
  exact List.takeWhile_append_dropWhile.symm

end Text

/-! ## Pieces -/

/-- A tag token and the text in front of it. -/
structure Piece where
  gap : Text
  /-- What stands between the `<` and the `>`. -/
  body : Text
  gap_free : '<' ∉ gap
  body_free : '>' ∉ body
  deriving DecidableEq, Repr

namespace Piece

/-- The token as it stands in the text, with its line breaks. -/
def raw (p : Piece) : Text :=
  '<' :: p.body ++ ['>']

def text (p : Piece) : Text :=
  p.gap ++ p.raw

/-- The tag of the token, whose text lacks the line breaks of the token. -/
def tag (p : Piece) (location : Location) : Except DocumentError Tag :=
  Tag.ofToken p.raw.unbroken location (p.raw.breakOffset?.map Int.ofNat)

/-- Where a token stands makes no difference to its tag but for the line. -/
theorem tag_of_tag {p : Piece} {location : Location} {tag : Tag} (h : p.tag location = .ok tag)
    (location' : Location) : p.tag location' = .ok { tag with line := location'.line } := by
  unfold Piece.tag Tag.ofToken at h ⊢
  split at h
  · rename_i htoken
    rw [if_pos htoken]
    cases h
    rfl
  · cases h

theorem text_eq (p : Piece) (rest : Text) :
    p.text ++ rest = p.gap ++ '<' :: (p.body ++ '>' :: rest) := by
  simp [text, raw]

theorem flatMap_text_cons (p : Piece) (ps : List Piece) (tail : Text) :
    (p :: ps).flatMap text ++ tail =
      p.gap ++ '<' :: (p.body ++ '>' :: (ps.flatMap text ++ tail)) := by
  rw [List.flatMap_cons, List.append_assoc, text_eq]

/-- The piece that a text starts with, and what follows it. -/
def first? (t : Text) : Option (Piece × Text) :=
  match t.dropWhile (· != '<') with
  | [] => none
  | _ :: inside =>
    match inside.dropWhile (· != '>') with
    | [] => none
    | _ :: rest =>
      some (⟨t.takeWhile (· != '<'), inside.takeWhile (· != '>'), Text.not_mem_takeWhile_ne _ _,
        Text.not_mem_takeWhile_ne _ _⟩, rest)

theorem first?_text (p : Piece) (rest : Text) : first? (p.text ++ rest) = some (p, rest) := by
  simp only [first?, text_eq, Text.dropWhile_ne_append p.gap_free,
    Text.dropWhile_ne_append p.body_free, Text.takeWhile_ne_append p.gap_free,
    Text.takeWhile_ne_append p.body_free]

theorem text_of_first? {t rest : Text} {p : Piece} (h : first? t = some (p, rest)) :
    t = p.text ++ rest := by
  unfold first? at h
  split at h
  · cases h
  · rename_i inside hopen
    split at h
    · cases h
    · rename_i rest' hclose
      cases h
      rw [text_eq, ← (Text.eq_of_dropWhile_ne hclose).2]
      exact (Text.eq_of_dropWhile_ne hopen).2

theorem length_rest_lt (p : Piece) (rest : Text) : rest.length < (p.text ++ rest).length := by
  simp only [text_eq, List.length_append, List.length_cons]
  omega

end Piece

/-! ## Whole texts -/

/-- No token is complete: no `<` has a `>` anywhere behind it. -/
def Text.Unfinished (t : Text) : Prop :=
  ∀ before inside, t = before ++ '<' :: inside → '>' ∉ inside

theorem Text.Unfinished.of_not_mem {t : Text} (h : '<' ∉ t) : t.Unfinished := by
  intro before inside heq
  exact absurd (heq ▸ by simp) h

theorem Text.Unfinished.suffix {t u : Text} (h : (t ++ u).Unfinished) : u.Unfinished :=
  fun before inside heq => h (t ++ before) inside (by rw [heq, List.append_assoc])

theorem Piece.first?_eq_none_iff {t : Text} : first? t = none ↔ t.Unfinished := by
  constructor
  · intro h before inside heq hmem
    unfold first? at h
    split at h
    · rename_i hopen
      exact Text.dropWhile_ne_eq_nil_iff.1 hopen (heq ▸ by simp)
    · rename_i inside' hopen
      split at h
      · rename_i hclose
        -- The first `<` stands at or before this one, so the `>` is behind it too.
        have hfirst := (Text.eq_of_dropWhile_ne hopen).2
        have hfree := Text.not_mem_takeWhile_ne '<' t
        refine Text.dropWhile_ne_eq_nil_iff.1 hclose ?_
        rw [heq] at hfirst
        rcases List.append_eq_append_iff.1 hfirst with ⟨a, ha, ha'⟩ | ⟨a, ha, ha'⟩
        · cases a with
          | nil =>
            cases ha'
            exact hmem
          | cons x a =>
            cases ha'
            rw [heq, ha] at hfree
            exact absurd (by simp) hfree
        · cases a with
          | nil =>
            cases ha'
            exact hmem
          | cons x a =>
            rw [List.cons_append, List.cons.injEq] at ha'
            rw [ha'.2]
            simp [hmem]
      · cases h
  · intro h
    cases hfirst : first? t with
    | none => rfl
    | some found =>
      have heq := text_of_first? hfirst
      rw [text_eq] at heq
      exact absurd (by simp) (h _ _ heq)

/-- A text cut into pieces. -/
structure Markup where
  pieces : List Piece
  /-- What follows the last token. -/
  tail : Text
  unfinished : tail.Unfinished

namespace Markup

def text (m : Markup) : Text :=
  m.pieces.flatMap Piece.text ++ m.tail

/-- Puts a piece in front. -/
def cons (p : Piece) (m : Markup) : Markup :=
  { m with pieces := p :: m.pieces }

@[simp] theorem text_cons (p : Piece) (m : Markup) : (cons p m).text = p.text ++ m.text := by
  simp [cons, text]

def ofText (t : Text) : Markup :=
  match hfirst : Piece.first? t with
  | none => ⟨[], t, Piece.first?_eq_none_iff.1 hfirst⟩
  | some (p, rest) => cons p (ofText rest)
termination_by t.length
decreasing_by
  rw [Piece.text_of_first? hfirst]
  exact Piece.length_rest_lt p rest

theorem text_ofText (t : Text) : (ofText t).text = t := by
  fun_induction ofText t with
  | case1 t hfirst => simp [text]
  | case2 t p rest hfirst ih => rw [text_cons, ih, Piece.text_of_first? hfirst]

theorem ofText_of_unfinished {t : Text} (h : t.Unfinished) : ofText t = ⟨[], t, h⟩ := by
  have hnone := Piece.first?_eq_none_iff.2 h
  unfold ofText
  split
  · rfl
  · rename_i hsome
    rw [hnone] at hsome
    cases hsome

theorem ofText_piece (p : Piece) (rest : Text) : ofText (p.text ++ rest) = cons p (ofText rest) := by
  have hfirst := Piece.first?_text p rest
  rw [ofText]
  split
  · rename_i hnone
    rw [hfirst] at hnone
    cases hnone
  · rename_i hsome
    rw [hfirst] at hsome
    cases hsome
    rfl

theorem ofText_text (m : Markup) : ofText m.text = m := by
  obtain ⟨pieces, tail, unfinished⟩ := m
  induction pieces with
  | nil => exact ofText_of_unfinished unfinished
  | cons p pieces ih =>
    have htext := text_cons p ⟨pieces, tail, unfinished⟩
    rw [cons] at htext
    rw [htext, ofText_piece, ih]
    rfl

end Markup

end Reindent
