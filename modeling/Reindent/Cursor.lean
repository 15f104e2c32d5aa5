-- SUMMARY: A cursor that moves forward through a chunked text and gathers tokens.
import Reindent.Attempt
import Reindent.Feed
import Reindent.Place

/-! # Cursors

A cursor shows the text of a source as one sequence of characters. What it passes goes into the
token, except for the line breaks and blanks it is told to leave out, so a token may reach over any
number of chunks. -/

namespace Reindent

structure Cursor where
  feed : Feed
  /-- Text passed and not yet taken. -/
  token : Text := []
  /-- Offset in the token at which a line break was first left out. -/
  firstBreak : Option Nat := none
  place : Place := {}
  file : Option Text := none
  deriving DecidableEq, Repr

namespace Cursor

/-- A cursor at the start of a stream that is read in chunks of `size` characters. -/
def start (stream : Stream) (size : Int) (file : Option Text) : Except Failure Cursor :=
  if size < 1 then .error (.chunkSize size)
  else
    match Feed.refill ⟨none, stream size.toNat, 0⟩ with
    | (.ok (), feed) => .ok { feed, file }
    | (.error fault, _) => .error (.ofRead fault)

def atEnd (c : Cursor) : Bool :=
  c.feed.window.isNone

/-- The character under the cursor; none at the end. -/
def peek (c : Cursor) : Except Failure (Option Char) :=
  match c.feed.window with
  | none => .ok none
  | some [] => .error .pastEnd
  | some (char :: _) => .ok (some char)

def location (c : Cursor) : Location :=
  { line := some c.place.line, file := c.file }

/-- What remains to be read. -/
def remaining (c : Cursor) : Nat :=
  c.feed.remaining

/-! ## Moving -/

/-- Adds passed text to the token, without its line breaks. -/
def absorb (c : Cursor) (passed : Text) : Cursor :=
  { c with
    token := c.token ++ passed.unbroken
    firstBreak := c.firstBreak <|> passed.breakOffset?.map (c.token.length + ·)
    place := c.place.pass passed }

/-- Moves to the next place where `target` stands, and fails if the text ends before. -/
def scanTo (target : Text) : Attempt Cursor Unit := fun c =>
  match c.feed.window with
  | none => (.error (.malformed (.endOfInput target) c.location), c)
  | some window =>
    let (passed, landing, feed) := Feed.seek target window c.feed.delivered c.feed.reads
    let c := { c.absorb passed with feed }
    match landing with
    | .found => (.ok (), c)
    | .ended => (.error (.malformed (.endOfInput target) c.location), c)
    | .failed fault => (.error (.ofRead fault), c)

/-- Moves past one character, which goes into the token, and past the blanks behind it if
    `skipBlanks`. At the end it stays. -/
def advance (skipBlanks : Bool) : Attempt Cursor Unit := fun c =>
  match c.feed.window with
  | none => (.ok (), c)
  | some [] => (.error .pastEnd, c)
  | some (char :: rest) =>
    let (passed, landing, feed) :=
      Feed.skip (skipBlanks && Text.isBlank ·) rest c.feed.delivered c.feed.reads
    let c := { c with
      feed
      token := c.token ++ [char]
      place := (c.place.step char).pass passed }
    match landing with
    | .found | .ended => (.ok (), c)
    | .failed fault => (.error (.ofRead fault), c)

/-- Takes the token, so that the next one starts here. -/
def takeToken : Attempt Cursor Text := fun c =>
  (.ok c.token, { c with token := [], firstBreak := none })

/-! ## What remains -/

theorem wanes_scanTo (target : Text) : (scanTo target).Wanes remaining := by
  intro c
  unfold scanTo
  split
  · exact Nat.le_refl _
  · rename_i window h
    have := Feed.remaining_seek_le target window c.feed.delivered c.feed.reads
    have hc : c.remaining = window.length + c.feed.reads.size := by
      simp [remaining, Feed.remaining, h]
    rw [hc]
    dsimp only
    split <;> exact this

/-- A single character looked for and found is under the cursor. -/
theorem window_of_scanTo {c c' : Cursor} {char : Char} (h : scanTo [char] c = (.ok (), c')) :
    ∃ rest, c'.feed.window = some (char :: rest) := by
  unfold scanTo at h
  split at h
  · simp at h
  · rename_i window hw
    dsimp only at h
    split at h
    · rename_i hfound
      simp only [Prod.mk.injEq, true_and] at h
      obtain ⟨w, before, after, hcut, hafter⟩ := Feed.pass_found hfound
      obtain ⟨rest, hrest⟩ := Text.isPrefix_of_cut? hcut
      refine ⟨rest, ?_⟩
      rw [← h]
      exact hafter.trans (by rw [← hrest]; rfl)
    · simp at h
    · simp at h

theorem remaining_advance_lt {c : Cursor} {char : Char} {rest : Text} {skipBlanks : Bool}
    (h : c.feed.window = some (char :: rest)) :
    (advance skipBlanks c).2.remaining < c.remaining := by
  have hc : c.remaining = (char :: rest).length + c.feed.reads.size := by
    simp [remaining, Feed.remaining, h]
  have := Feed.remaining_skip_le (skipBlanks && Text.isBlank ·) rest c.feed.delivered c.feed.reads
  unfold advance
  rw [h, hc]
  dsimp only
  have hle : rest.length + c.feed.reads.size < (char :: rest).length + c.feed.reads.size := by
    simp only [List.length_cons]
    omega
  split <;> exact Nat.lt_of_le_of_lt this hle

theorem wanes_advance (skipBlanks : Bool) : (advance skipBlanks).Wanes remaining := by
  intro c
  match h : c.feed.window with
  | none => simp [advance, h]
  | some [] => simp [advance, h]
  | some (char :: rest) => exact Nat.le_of_lt (remaining_advance_lt h)

theorem wanes_takeToken : takeToken.Wanes remaining :=
  fun c => Nat.le_refl c.remaining

end Cursor

end Reindent
