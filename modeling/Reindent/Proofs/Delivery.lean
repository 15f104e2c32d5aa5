-- SUMMARY: The text that a source delivers, and how a cursor moves through it, whatever the chunks.
import Mathlib.Data.List.TakeWhile
import Reindent.Formatter

/-! # Delivered text

A source delivers a text in chunks of any lengths. A feed in the middle of it shows what is still in
front of the reader: its window and all chunks to come, as one text. `Cursor.scanTo_eq` and
`Cursor.advance_eq` say what the two moves of a cursor do to that text; the chunks do not occur in
the answer. -/

namespace Reindent

/-! ## Sources -/

/-- The reads give `t` in chunks that are not empty, and then an empty one. No reader goes on after
    that. -/
inductive Reads.Delivers : Reads → Text → Prop where
  | ended : Delivers .ended []
  | stop (next : Reads) : Delivers (.text [] next) []
  | chunk {chunk : Text} {next : Reads} {t : Text} (hne : chunk ≠ []) (h : Delivers next t) :
      Delivers (.text chunk next) (chunk ++ t)

namespace Reads

theorem delivers_ofChunks {chunks : List Text} (hne : ∀ chunk ∈ chunks, chunk ≠ []) :
    (ofChunks chunks).Delivers chunks.flatten := by
  induction chunks with
  | nil => exact .ended
  | cons chunk chunks ih =>
    rw [List.forall_mem_cons] at hne
    exact .chunk hne.1 (ih hne.2)

/-- A text held in memory is delivered whatever the size of the reads. -/
theorem delivers_ofText {size : Nat} (hsize : 0 < size) (t : Text) :
    (ofText t size).Delivers t := by
  have hclose : ∀ rest : Text,
      (if rest.isEmpty then Reads.ended else .text rest .ended).Delivers rest := by
    intro rest
    cases rest with
    | nil => exact .ended
    | cons c rest => simpa using Delivers.chunk (List.cons_ne_nil c rest) .ended
  rw [ofText, if_neg (by omega)]
  fun_induction chop size _ t with
  | case1 => exact hclose []
  | case2 c rest hlast =>
    rw [if_pos hlast]
    exact hclose (c :: rest)
  | case3 c rest hmore ih =>
    rw [if_neg hmore]
    have h := Delivers.chunk (List.cons_ne_nil c (rest.take (size - 1))) ih
    rwa [List.cons_append, List.take_append_drop] at h

theorem delivers_counted {stream : Stream} {size : Nat} {t : Text} (hsize : size ≤ Capacity.count)
    (h : (stream size).Delivers t) : (counted stream size).Delivers t := by
  rw [counted, if_pos hsize]
  exact h

end Reads

/-! ## Feeds -/

namespace Feed

/-- The text in front of the reader is `t`. At the end there is no window, and before it the window
    is not empty. -/
def Shows (f : Feed) (t : Text) : Prop :=
  match f.window with
  | none => t = []
  | some window => window ≠ [] ∧ ∃ others, f.reads.Delivers others ∧ t = window ++ others

theorem Shows.isNone_window {f : Feed} {t : Text} (h : f.Shows t) :
    f.window.isNone = t.isEmpty := by
  unfold Shows at h
  split at h
  · rename_i hw
    simp [hw, h]
  · rename_i window hw
    obtain ⟨hne, others, -, rfl⟩ := h
    simp [hw, hne]

/-- A reader that begins sees the whole text of its source. -/
theorem refill_shows {reads : Reads} {t : Text} (h : reads.Delivers t) (delivered : Nat) :
    ∃ feed, refill ⟨none, reads, delivered⟩ = (.ok (), feed) ∧ feed.Shows t := by
  cases h with
  | ended => exact ⟨_, rfl, rfl⟩
  | stop next => exact ⟨_, rfl, rfl⟩
  | chunk hne h =>
    refine ⟨_, by simp [refill, hne]; rfl, ?_⟩
    exact ⟨hne, _, h, rfl⟩

theorem cutWhile?_eq (p : Char → Bool) (t : Text) :
    cutWhile? p t = if t.dropWhile p = [] then none else some (t.takeWhile p, t.dropWhile p) := by
  unfold cutWhile?
  split
  · rename_i h
    simp [h]
  · rename_i h
    simp [h]

/-- To look for one character is to pass all others. -/
theorem cut?_singleton (target : Char) (t : Text) :
    Text.cut? [target] t = cutWhile? (· != target) t := by
  rw [cutWhile?_eq]
  induction t with
  | nil => rfl
  | cons c rest ih =>
    by_cases hc : c = target
    · simp [Text.cut?, hc]
    · have hprefix : ¬ [target].isPrefixOf (c :: rest) = true := by
        simpa using Ne.symm hc
      have hpass : (fun x => x != target) c = true := by simpa using hc
      rw [Text.cut?, if_neg hprefix, ih, List.dropWhile_cons_of_pos (p := fun x => x != target) hpass,
        List.takeWhile_cons_of_pos (p := fun x => x != target) hpass]
      split <;> rfl

/-- Text that ends a passage ends it whatever comes behind it. -/
theorem takeWhile_append_of_ends {p : Char → Bool} {window : Text} (hw : window.dropWhile p ≠ [])
    (others : Text) : (window ++ others).takeWhile p = window.takeWhile p := by
  rw [List.takeWhile_append, if_neg]
  intro hlen
  have := congrArg List.length (List.takeWhile_append_dropWhile (p := p) (l := window))
  simp only [List.length_append] at this
  exact hw (List.length_eq_zero_iff.1 (by omega))

theorem dropWhile_append_of_ends {p : Char → Bool} {window : Text} (hw : window.dropWhile p ≠ [])
    (others : Text) : (window ++ others).dropWhile p = window.dropWhile p ++ others := by
  rw [List.dropWhile_append, if_neg (by simpa using hw)]

/-- A window that holds a character outside the class ends the passage. -/
theorem pass_of_ends {p : Char → Bool} {window : Text} (hw : window.dropWhile p ≠ [])
    (keep : Text → Text) (delivered : Nat) (reads : Reads) :
    pass (cutWhile? p) keep window delivered reads =
      (window.takeWhile p, .found, ⟨some (window.dropWhile p), reads, delivered⟩) := by
  unfold pass
  simp [cutWhile?_eq, hw]

theorem pass_of_dropWhile_ne_nil {p : Char → Bool} {window others : Text} {reads : Reads}
    (hw : window.dropWhile p ≠ []) (h : reads.Delivers others) (keep : Text → Text)
    (delivered : Nat) :
    ∃ feed : Feed, feed.Shows ((window ++ others).dropWhile p) ∧
      pass (cutWhile? p) keep window delivered reads =
        ((window ++ others).takeWhile p,
          if (window ++ others).dropWhile p = [] then .ended else .found, feed) := by
  rw [takeWhile_append_of_ends hw, dropWhile_append_of_ends hw, if_neg (by simp [hw])]
  refine ⟨_, ?_, pass_of_ends hw keep delivered reads⟩
  exact ⟨hw, others, h, rfl⟩

/-- A passage over the characters of a class takes them off the text in front of the reader. The
    window may be empty here: the reader may just have passed its last character. -/
theorem pass_cutWhile? {reads : Reads} {others : Text} (h : reads.Delivers others)
    (p : Char → Bool) (keep : Text → Text) (window : Text) (delivered : Nat) :
    ∃ feed : Feed, feed.Shows ((window ++ others).dropWhile p) ∧
      pass (cutWhile? p) keep window delivered reads =
        ((window ++ others).takeWhile p,
          if (window ++ others).dropWhile p = [] then .ended else .found, feed) := by
  induction h generalizing window delivered with
  | ended =>
    by_cases hw : window.dropWhile p = []
    · refine ⟨⟨none, .ended, delivered⟩, by simp [Shows, hw], ?_⟩
      simp [pass, cutWhile?_eq, hw, List.takeWhile_eq_self_iff.2 (List.dropWhile_eq_nil_iff.1 hw)]
    · exact pass_of_dropWhile_ne_nil hw .ended keep delivered
  | stop next =>
    by_cases hw : window.dropWhile p = []
    · refine ⟨⟨none, next, delivered⟩, by simp [Shows, hw], ?_⟩
      simp [pass, cutWhile?_eq, hw, List.takeWhile_eq_self_iff.2 (List.dropWhile_eq_nil_iff.1 hw)]
    · exact pass_of_dropWhile_ne_nil hw (.stop next) keep delivered
  | @chunk chunk next others hne h ih =>
    by_cases hw : window.dropWhile p = []
    · obtain ⟨feed, hfeed, heq⟩ := ih chunk (delivered + chunk.length)
      have hall := List.dropWhile_eq_nil_iff.1 hw
      rw [List.dropWhile_append_of_pos hall, List.takeWhile_append_of_pos hall]
      refine ⟨feed, hfeed, ?_⟩
      rw [pass]
      simp only [cutWhile?_eq, hw, if_true, List.isEmpty_iff, hne, if_false]
      rw [heq]
    · exact pass_of_dropWhile_ne_nil hw (.chunk hne h) keep delivered

end Feed

/-! ## Cursors -/

namespace Cursor

@[simp] theorem absorb_nil (c : Cursor) : c.absorb [] = c := by
  simp [absorb, Text.unbroken, Text.breakOffset?]

/-- What a cursor without a token takes up is its token. -/
theorem absorb_of_fresh {c : Cursor} (htoken : c.token = []) (hbreak : c.firstBreak = none)
    (passed : Text) :
    c.absorb passed =
      { c with
        token := passed.unbroken
        firstBreak := passed.breakOffset?
        place := c.place.pass passed } := by
  simp [absorb, htoken, hbreak]

theorem atEnd_eq {c : Cursor} {t : Text} (h : c.feed.Shows t) : c.atEnd = t.isEmpty :=
  h.isNone_window

theorem peek_eq {c : Cursor} {t : Text} (h : c.feed.Shows t) : c.peek = .ok t.head? := by
  unfold Feed.Shows at h
  unfold peek
  split at h
  · rename_i hw
    simp [hw, h]
  · rename_i window hw
    obtain ⟨hne, others, -, rfl⟩ := h
    cases window with
    | nil => exact absurd rfl hne
    | cons char rest => simp [hw]

/-- Looking for a character takes the text in front of it off, or all of it. -/
theorem scanTo_eq {c : Cursor} {t : Text} (h : c.feed.Shows t) (target : Char) :
    ∃ feed : Feed, feed.Shows (t.dropWhile (· != target)) ∧
      scanTo [target] c =
        (if t.dropWhile (· != target) = [] then
            .error (.malformed (.endOfInput [target]) (c.absorb (t.takeWhile (· != target))).location)
          else .ok (),
          { c.absorb (t.takeWhile (· != target)) with feed }) := by
  unfold Feed.Shows at h
  cases hw : c.feed.window with
  | none =>
    simp only [hw] at h
    subst h
    exact ⟨c.feed, by simp [Feed.Shows, hw], by simp [scanTo, hw]⟩
  | some window =>
    simp only [hw] at h
    obtain ⟨-, others, hothers, rfl⟩ := h
    obtain ⟨feed, hfeed, heq⟩ :=
      Feed.pass_cutWhile? hothers (· != target) id window c.feed.delivered
    refine ⟨feed, hfeed, ?_⟩
    have hseek : Feed.seek [target] window c.feed.delivered c.feed.reads = _ :=
      (congrArg (Feed.pass · id window c.feed.delivered c.feed.reads)
        (funext (Feed.cut?_singleton target))).trans heq
    by_cases hend : (window ++ others).dropWhile (· != target) = []
    · simp only [scanTo, hw, hseek, if_pos hend]
      rfl
    · simp only [scanTo, hw, hseek, if_neg hend]

/-- Moving on takes one character off, and the blanks behind it if they are skipped. -/
theorem advance_eq {c : Cursor} {char : Char} {t : Text} (h : c.feed.Shows (char :: t))
    (skipBlanks : Bool) :
    ∃ feed : Feed, feed.Shows (t.dropWhile (skipBlanks && Text.isBlank ·)) ∧
      advance skipBlanks c =
        (.ok (),
          { c with
            feed
            token := c.token ++ [char]
            place := (c.place.step char).pass (t.takeWhile (skipBlanks && Text.isBlank ·)) }) := by
  unfold Feed.Shows at h
  unfold advance
  split at h
  · simp at h
  · rename_i window hw
    obtain ⟨hne, others, hothers, heq⟩ := h
    cases window with
    | nil => exact absurd rfl hne
    | cons first rest =>
      rw [List.cons_append, List.cons.injEq] at heq
      obtain ⟨rfl, rfl⟩ := heq
      obtain ⟨feed, hfeed, heq⟩ :=
        Feed.pass_cutWhile? hothers (skipBlanks && Text.isBlank ·) (fun _ => []) rest
          c.feed.delivered
      refine ⟨feed, hfeed, ?_⟩
      by_cases hend : (rest ++ others).dropWhile (skipBlanks && Text.isBlank ·) = []
      · simp only [hw, Feed.skip, heq, if_pos hend]
      · simp only [hw, Feed.skip, heq, if_neg hend]

theorem advance_end {c : Cursor} (h : c.feed.Shows []) (skipBlanks : Bool) :
    advance skipBlanks c = (.ok (), c) := by
  have hw : c.feed.window = none := Option.isNone_iff_eq_none.1 h.isNone_window
  simp [advance, hw]

end Cursor

/-! ## Formatters -/

/-- A formatter that begins has the whole text in front of it. -/
theorem Formatter.start_eq_ok {stream : Stream} {s : Text} (settings : Settings)
    (hsize : 1 ≤ settings.chunkSize) (h : (stream settings.chunkSize.toNat).Delivers s)
    (sink : Sink) (file : Option Text) :
    ∃ feed : Feed, feed.Shows s ∧
      start stream sink settings file = .ok { settings, cursor := { feed, file }, sink } := by
  obtain ⟨feed, hrefill, hfeed⟩ := Feed.refill_shows h 0
  refine ⟨feed, hfeed, ?_⟩
  have hcursor : Cursor.start stream settings.chunkSize file = .ok { feed, file } := by
    rw [Cursor.start, if_neg (by omega), hrefill]
  simp only [start, hcursor]
  rfl

end Reindent
