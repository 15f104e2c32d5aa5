-- SUMMARY: Text as a list of characters, with the cuts the reader and the printer make.

/-! # Text

Documents, tags and lines are lists of characters, so lengths and offsets count characters. -/

namespace Reindent

abbrev Text := List Char

namespace Text

/-! ## Line breaks -/

/-- Both halves of a `\r\n` pair are breaks. -/
def isBreak (c : Char) : Bool :=
  c == '\n' || c == '\r'

/-- The text with its line breaks taken out. -/
def unbroken (t : Text) : Text :=
  t.filter fun c => !isBreak c

/-- Offset of the first line break. -/
def breakOffset? (t : Text) : Option Nat :=
  t.findIdx? isBreak

/-! ## Cutting -/

/-- Cuts a text in front of the first place where `target` stands: `cut? "b" "abc" = ("a", "bc")`.
    The empty target stands everywhere. -/
def cut? (target : Text) : Text → Option (Text × Text)
  | [] => if target.isEmpty then some ([], []) else none
  | c :: rest =>
    if target.isPrefixOf (c :: rest) then some ([], c :: rest)
    else (cut? target rest).map fun (before, after) => (c :: before, after)

/-- Drops the characters of class `p` at the end. -/
def dropTail (p : Char → Bool) (t : Text) : Text :=
  (t.reverse.dropWhile p).reverse

/-- Drops the characters of class `p` at both ends. -/
def trim (p : Char → Bool) (t : Text) : Text :=
  dropTail p (t.dropWhile p)

/-- Repeats a text `n` times; a negative `n` gives nothing, and so does repeating nothing. -/
def times (t : Text) (n : Int) : Text :=
  match t with
  | [] => []
  | [c] => List.replicate n.toNat c
  | t => (List.replicate n.toNat t).flatten

theorem times_eq (t : Text) (n : Int) : t.times n = (List.replicate n.toNat t).flatten := by
  unfold times
  split
  · simp
  · simp
  · rfl

/-! ## Laws of cutting -/

/-- A cut loses nothing. -/
theorem append_of_cut? {target t before after : Text} (h : cut? target t = some (before, after)) :
    before ++ after = t := by
  induction t generalizing before with
  | nil =>
    simp only [cut?] at h
    split at h <;> simp_all
  | cons c rest ih =>
    simp only [cut?] at h
    split at h
    · simp_all
    · obtain ⟨⟨b, a⟩, hba, heq⟩ := Option.map_eq_some_iff.1 h
      simp only [Prod.mk.injEq] at heq
      obtain ⟨rfl, rfl⟩ := heq
      simp [ih hba]

/-- What follows a cut starts with the target. -/
theorem isPrefix_of_cut? {target t before after : Text} (h : cut? target t = some (before, after)) :
    target <+: after := by
  induction t generalizing before with
  | nil =>
    simp only [cut?] at h
    split at h <;> simp_all
  | cons c rest ih =>
    simp only [cut?] at h
    split at h
    · simp_all
    · obtain ⟨⟨b, a⟩, hba, heq⟩ := Option.map_eq_some_iff.1 h
      simp only [Prod.mk.injEq] at heq
      obtain ⟨rfl, rfl⟩ := heq
      exact ih hba

end Text

end Reindent
