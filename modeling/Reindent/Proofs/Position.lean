-- SUMMARY: A cursor in a chunked text does what a position in the whole text does.
import Reindent.Proofs.Agreement
import Reindent.Proofs.Delivery

/-! # Positions

A position in a text is an offset, together with what has become of each character passed since the
last token was taken. It knows nothing of chunks. `Cursor.agree_perform` says that a cursor in a
chunked text and a position in the whole of it answer each call alike and are left alike, so they
answer alike for good, also after calls that have failed. -/

namespace Reindent

/-! ## Line ends -/

/-- The line ends in a text: each `\n`, and each `\r` that has no `\n` behind it. -/
def Text.lineEnds : Text → Nat
  | [] => 0
  | c :: rest =>
    (if c = '\n' ∨ c = '\r' ∧ rest.head? ≠ some '\n' then 1 else 0) + lineEnds rest

/-- A `\n` at the start of the text was counted before if a `\r` stands in front of it. -/
theorem Place.line_pass (p : Place) (t : Text) :
    (p.pass t).line + (if p.afterReturn = true ∧ t.head? = some '\n' then 1 else 0) =
      p.line + t.lineEnds := by
  induction t generalizing p with
  | nil => simp [Text.lineEnds]
  | cons c rest ih =>
    have hrest := ih (p.step c)
    by_cases hreturn : c = '\r'
    · subst hreturn
      by_cases hhead : rest.head? = some '\n'
      · simp [step, Text.lineEnds, hhead] at hrest ⊢
        omega
      · simp [step, Text.lineEnds, hhead] at hrest ⊢
        omega
    · by_cases hbreak : c = '\n'
      · subst hbreak
        cases hafter : p.afterReturn <;> simp [step, Text.lineEnds, hafter] at hrest ⊢ <;> omega
      · simp [step, Text.lineEnds, hreturn, hbreak] at hrest ⊢
        omega

theorem Place.line_pass_start (t : Text) : (Place.pass {} t).line = 1 + t.lineEnds := by
  simpa using Place.line_pass {} t

/-! ## Characters passed -/

/-- What becomes of a character that is passed. -/
inductive Fate where
  /-- It goes into the token. -/
  | kept
  /-- It is a line break that was passed in search of another character. -/
  | broken
  /-- It is a blank that was skipped behind another character. -/
  | skipped
  deriving DecidableEq, Repr

/-- Characters passed one after the other. -/
abbrev Trail := List (Char × Fate)

namespace Trail

def token : Trail → Text
  | [] => []
  | (c, .kept) :: rest => c :: token rest
  | _ :: rest => token rest

/-- Offset in the token at which a line break was first left out. -/
def firstBreak : Trail → Option Nat
  | [] => none
  | (_, .kept) :: rest => (firstBreak rest).map (1 + ·)
  | (_, .broken) :: _ => some 0
  | (_, .skipped) :: rest => firstBreak rest

theorem token_append (s t : Trail) : token (s ++ t) = s.token ++ t.token := by
  induction s with
  | nil => rfl
  | cons entry rest ih =>
    obtain ⟨c, fate⟩ := entry
    cases fate <;> simp [token, ih]

theorem firstBreak_append (s t : Trail) :
    firstBreak (s ++ t) = (s.firstBreak <|> t.firstBreak.map (s.token.length + ·)) := by
  induction s with
  | nil => simp [firstBreak, token]
  | cons entry rest ih =>
    obtain ⟨c, fate⟩ := entry
    cases fate with
    | kept =>
      cases hrest : firstBreak rest with
      | none => cases ht : t.firstBreak <;> simp [firstBreak, token, ih, hrest, ht]; omega
      | some n => simp [firstBreak, ih, hrest]
    | broken => simp [firstBreak]
    | skipped => simp [firstBreak, token, ih]

/-- A text passed in search of a character. Its line breaks are left out. -/
def searched (t : Text) : Trail :=
  t.map fun c => (c, if Text.isBreak c then .broken else .kept)

theorem token_searched (t : Text) : (searched t).token = t.unbroken := by
  induction t with
  | nil => rfl
  | cons c rest ih =>
    unfold searched Text.unbroken at ih ⊢
    cases hc : Text.isBreak c <;> simp [token, hc, ih]

theorem firstBreak_searched (t : Text) : (searched t).firstBreak = t.breakOffset? := by
  induction t with
  | nil => rfl
  | cons c rest ih =>
    unfold searched Text.breakOffset? at ih ⊢
    cases hc : Text.isBreak c with
    | true => simp [firstBreak, hc, List.findIdx?_cons]
    | false => simp [firstBreak, hc, List.findIdx?_cons, ih, Nat.add_comm]

/-- A text of which every character is kept. -/
def kept (t : Text) : Trail :=
  t.map fun c => (c, .kept)

theorem token_kept (t : Text) : (kept t).token = t := by
  induction t with
  | nil => rfl
  | cons c rest ih => exact congrArg (c :: ·) ih

theorem firstBreak_kept (t : Text) : (kept t).firstBreak = none := by
  induction t with
  | nil => rfl
  | cons c rest ih => exact congrArg (Option.map (1 + ·)) ih

/-- A text of which no character is kept. -/
def skipped (t : Text) : Trail :=
  t.map fun c => (c, .skipped)

theorem token_skipped (t : Text) : (skipped t).token = [] := by
  induction t with
  | nil => rfl
  | cons c rest ih => exact ih

theorem firstBreak_skipped (t : Text) : (skipped t).firstBreak = none := by
  induction t with
  | nil => rfl
  | cons c rest ih => exact ih

end Trail

/-! ## Positions in a text -/

structure Position where
  /-- The number of characters passed. -/
  offset : Nat := 0
  /-- The characters passed since the last token was taken. -/
  trail : Trail := []
  deriving DecidableEq, Repr

namespace Position

variable (x : Text)

def line (p : Position) : Nat :=
  1 + Text.lineEnds (x.take p.offset)

/-- The position `n` characters further on. -/
def pass (n : Nat) (mark : Text → Trail) (p : Position) : Position :=
  { offset := p.offset + n
    trail := p.trail ++ mark ((x.drop p.offset).take n) }

/-- Moves to the least offset from here on that holds `target`, or to the end if there is none. -/
def scanTo (file : Option Text) (target : Char) : Attempt Position Unit := fun p =>
  let p := p.pass x ((x.drop p.offset).findIdx (· == target)) Trail.searched
  if p.offset < x.length then (.ok (), p)
  else (.error (.malformed (.endOfInput [target]) ⟨some (p.line x), file⟩), p)

/-- Moves past one character, and past the run of blanks behind it if `skipBlanks`. At the end it
    stays. -/
def advance (skipBlanks : Bool) : Attempt Position Unit := fun p =>
  if p.offset < x.length then
    let p := p.pass x 1 Trail.kept
    let blanks := if skipBlanks then (x.drop p.offset).takeWhile Text.isBlank else []
    (.ok (), p.pass x blanks.length Trail.skipped)
  else (.ok (), p)

def takeToken : Attempt Position Text := fun p =>
  (.ok p.trail.token, { p with trail := [] })

@[simp] theorem offset_pass (n : Nat) (mark : Text → Trail) (p : Position) :
    (p.pass x n mark).offset = p.offset + n :=
  rfl

theorem advance_of_lt {x : Text} {p : Position} (h : p.offset < x.length) (skipBlanks : Bool) :
    advance x skipBlanks p =
      (.ok (), (p.pass x 1 Trail.kept).pass x
        (if skipBlanks then (x.drop (p.offset + 1)).takeWhile Text.isBlank else []).length
        Trail.skipped) := by
  rw [advance, if_pos h]
  rfl

end Position

/-! ## What a source has delivered -/

theorem Reads.Delivers.unique {reads : Reads} {s t : Text} (hs : reads.Delivers s)
    (ht : reads.Delivers t) : s = t := by
  induction hs generalizing t with
  | ended =>
    cases ht
    rfl
  | stop next =>
    cases ht with
    | stop => rfl
    | chunk hne => exact absurd rfl hne
  | chunk hne h ih =>
    cases ht with
    | stop => exact absurd rfl hne
    | chunk _ h' => rw [ih h']

namespace Feed

/-- The feed belongs to a text of `n` characters: those that it has not been given yet are still to
    come. -/
def Accounts (f : Feed) (n : Nat) : Prop :=
  match f.window with
  | none => f.delivered = n
  | some _ => ∃ others, f.reads.Delivers others ∧ f.delivered + others.length = n

theorem refill_accounts {reads : Reads} {t : Text} (h : reads.Delivers t) :
    (refill ⟨none, reads, 0⟩).2.Accounts t.length := by
  cases h with
  | ended => exact rfl
  | stop next => exact rfl
  | chunk hne h =>
    simp only [refill, List.isEmpty_iff, hne, if_false]
    exact ⟨_, h, by simp⟩

theorem pass_accounts {reads : Reads} {others : Text} (h : reads.Delivers others)
    (cut : Text → Option (Text × Text)) (keep : Text → Text) (window : Text) (delivered : Nat) :
    (pass cut keep window delivered reads).2.2.Accounts (delivered + others.length) := by
  induction h generalizing window delivered with
  | ended =>
    unfold pass
    split
    · exact ⟨[], .ended, rfl⟩
    · exact rfl
  | stop next =>
    unfold pass
    split
    · exact ⟨[], .stop next, rfl⟩
    · exact rfl
  | @chunk chunk next others hne h ih =>
    unfold pass
    split
    · exact ⟨_, .chunk hne h, rfl⟩
    · simp only [List.isEmpty_iff, hne, if_false]
      have hrest := ih chunk (delivered + chunk.length)
      rwa [Nat.add_assoc, ← List.length_append] at hrest

theorem Accounts.delivered_le {f : Feed} {n : Nat} (h : f.Accounts n) : f.delivered ≤ n := by
  unfold Accounts at h
  split at h
  · exact le_of_eq h
  · obtain ⟨others, -, rfl⟩ := h
    exact Nat.le_add_right _ _

/-- What has been delivered is what lies behind the reader, and its window. -/
theorem delivered_eq {f : Feed} {t : Text} {n : Nat} (hshows : f.Shows t) (h : f.Accounts n) :
    f.delivered + t.length = n + (f.window.getD []).length := by
  unfold Shows at hshows
  unfold Accounts at h
  cases hw : f.window with
  | none =>
    simp only [hw] at hshows h
    simp [hshows, h]
  | some window =>
    simp only [hw] at hshows h
    obtain ⟨-, others, hothers, rfl⟩ := hshows
    obtain ⟨others', hothers', rfl⟩ := h
    have hsame := hothers.unique hothers'
    subst hsame
    simp only [Option.getD_some, List.length_append]
    omega

end Feed

/-! ## Cursors and positions -/

namespace Cursor

theorem accounts_scanTo {c : Cursor} {n : Nat} (h : c.feed.Accounts n) (target : Text) :
    (scanTo target c).2.feed.Accounts n := by
  unfold scanTo
  split
  · exact h
  · rename_i window hw
    unfold Feed.Accounts at h
    rw [hw] at h
    obtain ⟨others, hothers, rfl⟩ := h
    have hpass := Feed.pass_accounts hothers (Text.cut? target) id window c.feed.delivered
    dsimp only
    split <;> exact hpass

theorem accounts_advance {c : Cursor} {n : Nat} (h : c.feed.Accounts n) (skipBlanks : Bool) :
    (advance skipBlanks c).2.feed.Accounts n := by
  unfold advance
  split
  · exact h
  · exact h
  · rename_i char rest hw
    unfold Feed.Accounts at h
    rw [hw] at h
    obtain ⟨others, hothers, rfl⟩ := h
    have hpass := Feed.pass_accounts hothers (Feed.cutWhile? (skipBlanks && Text.isBlank ·))
      (fun _ => []) rest c.feed.delivered
    dsimp only
    split <;> exact hpass

/-- The cursor has gathered what was passed on the way to a position. -/
structure Gathers (x : Text) (file : Option Text) (c : Cursor) (p : Position) : Prop where
  inside : p.offset ≤ x.length
  token : c.token = p.trail.token
  firstBreak : c.firstBreak = p.trail.firstBreak
  place : c.place = Place.pass {} (x.take p.offset)
  file : c.file = file

/-- The cursor is at a position, with the rest of the text in front of it. -/
structure Tracks (x : Text) (file : Option Text) (c : Cursor) (p : Position) : Prop
    extends Gathers x file c p where
  shows : c.feed.Shows (x.drop p.offset)
  accounts : c.feed.Accounts x.length

section

variable {x : Text} {file : Option Text} {c : Cursor} {p : Position}

theorem Gathers.line_eq (h : Gathers x file c p) : c.place.line = p.line x := by
  rw [h.place, Place.line_pass_start, Position.line]

theorem Gathers.location_eq (h : Gathers x file c p) : c.location = ⟨some (p.line x), file⟩ := by
  rw [location, h.line_eq, h.file]

/-- What is gathered from the next `n` characters. -/
theorem Gathers.pass (h : Gathers x file c p) {n : Nat} (hn : p.offset + n ≤ x.length)
    (mark : Text → Trail) :
    Gathers x file
      { c with
        token := c.token ++ (mark ((x.drop p.offset).take n)).token
        firstBreak := c.firstBreak <|>
          (mark ((x.drop p.offset).take n)).firstBreak.map (c.token.length + ·)
        place := c.place.pass ((x.drop p.offset).take n) }
      (p.pass x n mark) where
  inside := hn
  token := by rw [Position.pass, Trail.token_append, h.token]
  firstBreak := by rw [Position.pass, Trail.firstBreak_append, h.firstBreak, h.token]
  place := by rw [Position.pass, h.place, List.take_add, Place.pass_append]
  file := h.file

theorem Tracks.atEnd_iff (h : Tracks x file c p) : c.atEnd = true ↔ p.offset = x.length := by
  have hinside := h.inside
  rw [atEnd_eq h.shows, List.isEmpty_iff, List.drop_eq_nil_iff]
  omega

theorem Tracks.peek_eq (h : Tracks x file c p) : c.peek = .ok x[p.offset]? := by
  rw [Cursor.peek_eq h.shows, List.head?_drop]

/-- The source has delivered the text up to the end of the window. -/
theorem Tracks.delivered_eq (h : Tracks x file c p) :
    c.feed.delivered = p.offset + (c.feed.window.getD []).length := by
  have hinside := h.inside
  have hdelivered := Feed.delivered_eq h.shows h.accounts
  rw [List.length_drop] at hdelivered
  omega

theorem Tracks.lt_delivered (h : Tracks x file c p) (hat : p.offset < x.length) :
    p.offset < c.feed.delivered := by
  have hshows := h.shows
  have hdelivered := h.delivered_eq
  unfold Feed.Shows at hshows
  cases hw : c.feed.window with
  | none =>
    simp only [hw, List.drop_eq_nil_iff] at hshows
    exact absurd hat (not_lt.2 hshows)
  | some window =>
    simp only [hw] at hshows
    have hpos := List.length_pos_iff.2 hshows.1
    rw [hw, Option.getD_some] at hdelivered
    omega

end

/-- Looking for a character passes the text in front of it, up to its least offset. -/
theorem agree_position_scanTo (x : Text) (file : Option Text) (target : Char) :
    (scanTo [target]).Agree (Tracks x file) (Position.scanTo x file target) := by
  intro c p h
  obtain ⟨feed, hfeed, hscan⟩ := scanTo_eq h.shows target
  have haccounts := accounts_scanTo h.accounts [target]
  have hidx : (fun a : Char => !(a != target)) = (· == target) := by
    funext a
    simp [bne]
  rw [List.dropWhile_eq_drop_findIdx_not, hidx, List.drop_drop] at hfeed hscan
  rw [List.takeWhile_eq_take_findIdx_not, hidx] at hscan
  rw [hscan] at haccounts ⊢
  unfold Position.scanTo
  generalize hn : (x.drop p.offset).findIdx (· == target) = n at *
  have hle : p.offset + n ≤ x.length := by
    have hidx : n ≤ (x.drop p.offset).length := hn ▸ List.findIdx_le_length
    have hinside := h.inside
    rw [List.length_drop] at hidx
    omega
  have hgathers : Gathers x file { c.absorb ((x.drop p.offset).take n) with feed }
      (p.pass x n Trail.searched) := by
    have hpass := h.pass hle Trail.searched
    rw [Trail.token_searched, Trail.firstBreak_searched] at hpass
    exact { hpass with }
  refine ⟨?_, ?_⟩
  · by_cases hend : x.drop (p.offset + n) = []
    · have hat : ¬ (p.pass x n Trail.searched).offset < x.length :=
        not_lt.2 (List.drop_eq_nil_iff.1 hend)
      rw [if_pos hend, if_neg hat, ← hgathers.location_eq]
      rfl
    · have hat : (p.pass x n Trail.searched).offset < x.length :=
        not_le.1 fun hnil => hend (List.drop_eq_nil_iff.2 hnil)
      rw [if_neg hend, if_pos hat]
  · have htracks : Tracks x file { c.absorb ((x.drop p.offset).take n) with feed }
        (p.pass x n Trail.searched) := { hgathers with shows := hfeed, accounts := haccounts }
    dsimp only
    split <;> exact htracks

/-- Moving on passes one character, and the blanks behind it. -/
theorem agree_position_advance (x : Text) (file : Option Text) (skipBlanks : Bool) :
    (advance skipBlanks).Agree (Tracks x file) (Position.advance x skipBlanks) := by
  intro c p h
  by_cases hat : p.offset < x.length
  · have haccounts := accounts_advance h.accounts skipBlanks
    have hdrop : x.drop p.offset = x[p.offset] :: x.drop (p.offset + 1) :=
      List.drop_eq_getElem_cons hat
    obtain ⟨feed, hfeed, hadvance⟩ := advance_eq (hdrop ▸ h.shows) skipBlanks
    have hblanks : (x.drop (p.offset + 1)).takeWhile (skipBlanks && Text.isBlank ·) =
        if skipBlanks then (x.drop (p.offset + 1)).takeWhile Text.isBlank else [] := by
      cases skipBlanks <;> simp
    have hcut := List.takeWhile_append_dropWhile (p := (skipBlanks && Text.isBlank ·))
      (l := x.drop (p.offset + 1))
    rw [hadvance] at haccounts ⊢
    rw [Position.advance_of_lt hat, ← hblanks]
    generalize (x.drop (p.offset + 1)).takeWhile (skipBlanks && Text.isBlank ·) = blanks at *
    have hrest := congrArg (List.drop blanks.length) hcut
    rw [List.drop_left, List.drop_drop] at hrest
    have hone : (x.drop p.offset).take 1 = [x[p.offset]] := by
      rw [hdrop]
      rfl
    have htake : (x.drop (p.offset + 1)).take blanks.length = blanks := by
      rw [← hcut, List.take_left]
    have hle : p.offset + 1 + blanks.length ≤ x.length := by
      have hlength := congrArg List.length hcut
      rw [List.length_append, List.length_drop] at hlength
      omega
    have hgathers := (h.pass hat Trail.kept).pass hle Trail.skipped
    simp only [Position.offset_pass, hone, htake, Trail.token_kept, Trail.firstBreak_kept,
      Trail.token_skipped, Trail.firstBreak_skipped, List.append_nil, Option.map_none,
      Option.orElse_eq_orElse, Option.orElse_eq_or, Option.or_none] at hgathers
    exact ⟨rfl, { hgathers with shows := hrest ▸ hfeed, accounts := haccounts }⟩
  · have hend : c.feed.Shows [] := by
      have hnil : x.drop p.offset = [] := List.drop_eq_nil_iff.2 (not_lt.1 hat)
      exact hnil ▸ h.shows
    rw [advance_end hend, Position.advance, if_neg hat]
    exact ⟨rfl, h⟩

theorem agree_position_takeToken (x : Text) (file : Option Text) :
    takeToken.Agree (Tracks x file) Position.takeToken :=
  fun _ _ h => ⟨congrArg Except.ok h.token, { h with token := rfl, firstBreak := rfl }⟩

/-! ## Calls -/

/-- What can be asked of a cursor. -/
inductive Call where
  | scanTo (target : Char)
  | advance (skipBlanks : Bool)
  | takeToken
  deriving DecidableEq, Repr

/-- Answers a call, with the token if that was asked for. -/
def perform : Call → Attempt Cursor (Option Text)
  | .scanTo target => do
    scanTo [target]
    return none
  | .advance skipBlanks => do
    advance skipBlanks
    return none
  | .takeToken => do
    let token ← takeToken
    return some token

end Cursor

namespace Position

def perform (x : Text) (file : Option Text) : Cursor.Call → Attempt Position (Option Text)
  | .scanTo target => do
    scanTo x file target
    return none
  | .advance skipBlanks => do
    advance x skipBlanks
    return none
  | .takeToken => do
    let token ← takeToken
    return some token

end Position

namespace Attempt

variable {σ τ α β : Type}

/-- Makes one attempt after the other, each in the state that the one before it has left, whether that
    one succeeded or failed. -/
def inTurn (x : α → Attempt σ β) : List α → σ → List (Except Failure β) × σ
  | [], s => ([], s)
  | a :: rest, s =>
    let (answer, s') := x a s
    let (answers, s'') := inTurn x rest s'
    (answer :: answers, s'')

theorem Agree.inTurn {R : σ → τ → Prop} {x : α → Attempt σ β} {y : α → Attempt τ β}
    (h : ∀ a, Agree R (x a) (y a)) (as : List α) {s : σ} {t : τ} (hst : R s t) :
    (Attempt.inTurn x as s).1 = (Attempt.inTurn y as t).1 ∧
      R (Attempt.inTurn x as s).2 (Attempt.inTurn y as t).2 := by
  induction as generalizing s t with
  | nil => exact ⟨rfl, hst⟩
  | cons a rest ih =>
    obtain ⟨hanswer, hrel⟩ := h a s t hst
    obtain ⟨hanswers, hrel⟩ := ih hrel
    exact ⟨congrArg₂ List.cons hanswer hanswers, hrel⟩

end Attempt

namespace Cursor

theorem agree_perform (x : Text) (file : Option Text) (call : Call) :
    (perform call).Agree (Tracks x file) (Position.perform x file call) := by
  cases call with
  | scanTo target => exact .bind (agree_position_scanTo x file target) fun _ => .pure none
  | advance skipBlanks => exact .bind (agree_position_advance x file skipBlanks) fun _ => .pure none
  | takeToken => exact .bind (agree_position_takeToken x file) fun token => .pure (some token)

/-- A cursor that begins is at the start of its text. -/
theorem start_tracks {stream : Stream} {size : Int} {x : Text} (hsize : 1 ≤ size)
    (h : (stream size.toNat).Delivers x) (file : Option Text) :
    ∃ c, start stream size file = .ok c ∧ Tracks x file c {} := by
  obtain ⟨feed, hrefill, hfeed⟩ := Feed.refill_shows h 0
  have haccounts := Feed.refill_accounts h
  rw [hrefill] at haccounts
  refine ⟨{ feed, file }, ?_, ?_⟩
  · rw [start, if_neg (by omega), hrefill]
  · exact
      { inside := Nat.zero_le _
        token := rfl
        firstBreak := rfl
        place := rfl
        file := rfl
        shows := hfeed
        accounts := haccounts }

/-- Whatever the chunks of a text, and whatever calls are made, a cursor gives the answers of a
    position in the whole text and shows what is seen from there. It has read ahead to the end of a
    chunk, which is behind the position unless the text is at its end. -/
theorem inTurn_perform_eq_position {stream : Stream} {size : Int} {x : Text} (hsize : 1 ≤ size)
    (h : (stream size.toNat).Delivers x) (file : Option Text) :
    ∃ c, start stream size file = .ok c ∧ ∀ calls,
      ∃ answers d p, Attempt.inTurn perform calls c = (answers, d) ∧
        Attempt.inTurn (Position.perform x file) calls {} = (answers, p) ∧
        p.offset ≤ x.length ∧
        (d.atEnd = true ↔ p.offset = x.length) ∧
        d.peek = .ok x[p.offset]? ∧
        d.place.line = 1 + Text.lineEnds (x.take p.offset) ∧
        d.firstBreak = p.trail.firstBreak ∧
        p.offset ≤ d.feed.delivered ∧ d.feed.delivered ≤ x.length ∧
        (p.offset < x.length → p.offset < d.feed.delivered) := by
  obtain ⟨c, hstart, htracks⟩ := start_tracks hsize h file
  refine ⟨c, hstart, ?_⟩
  intro calls
  obtain ⟨hanswers, hafter⟩ := Attempt.Agree.inTurn (agree_perform x file) calls htracks
  refine ⟨_, _, _, rfl, Prod.ext hanswers.symm rfl, hafter.inside, hafter.atEnd_iff, hafter.peek_eq,
    hafter.line_eq, hafter.firstBreak, ?_, hafter.accounts.delivered_le, hafter.lt_delivered⟩
  rw [hafter.delivered_eq]
  exact Nat.le_add_right _ _

/-- A line break that is cut in two, a search that fails, and the token that is taken after it. -/
theorem inTurn_perform_cut_break :
    ∃ c, start (fun _ => .ofChunks [['a', '\r'], ['\n', 'b', '>', ' '], ['\t', 'c']]) 1 none = .ok c ∧
      ∃ d, Attempt.inTurn perform
          [.scanTo '>', .advance true, .takeToken, .advance false, .scanTo '<', .takeToken] c =
        ([.ok none, .ok none, .ok (some ['a', 'b', '>']), .ok none,
          .error (.malformed (.endOfInput ['<']) ⟨some 2, none⟩), .ok (some ['c'])], d) ∧
        d.atEnd = true := by
  have hdelivers : (Reads.ofChunks [['a', '\r'], ['\n', 'b', '>', ' '], ['\t', 'c']]).Delivers
      ['a', '\r', '\n', 'b', '>', ' ', '\t', 'c'] := Reads.delivers_ofChunks (by decide)
  obtain ⟨c, hstart, hcalls⟩ := @inTurn_perform_eq_position (fun _ => _) 1 _ (by decide) hdelivers none
  obtain ⟨answers, d, p, hperform, hposition, -, hatEnd, -⟩ := hcalls
    [.scanTo '>', .advance true, .takeToken, .advance false, .scanTo '<', .takeToken]
  cases hposition
  exact ⟨c, hstart, d, hperform, hatEnd.2 rfl⟩

end Cursor

end Reindent
