-- SUMMARY: A file read block by block gives the text of all its bytes, whatever the blocks.
import Mathlib.Data.List.Basic
import Mathlib.Data.List.TakeWhile
import Reindent.Encoding.Decoder

/-! # Decoding

The bytes of a file are decoded block by block, and the ends of the blocks may fall anywhere: inside a
character, or behind a `\r`. What a block leaves undecoded is put in front of the next one, so the
texts of the blocks make up the text that the bytes have when they are decoded at once:
`Decoder.run_eq`. Only memory can keep the reader from getting at it, if it has no room for a block
that is asked for: `Encoding.Fits`. How large blocks are is bounded by how much is read at a time:
`Decoder.run_fits`. -/

namespace Reindent

/-! ## UTF-8 -/

namespace Utf8

/-- The bytes that are left for the next block; none if the bytes are no text. -/
def Ending.carried? : Ending → Option Bytes
  | .complete => some []
  | .inside held => some held
  | .bad _ _ _ => none

/-- Where a reader can be between two bytes. To read on from there is to read the bytes that are held
    again, from the first one. -/
structure Reached (held : Bytes) (owed : List (Nat × Nat)) (bits : Nat) : Prop where
  resumes : ∀ offset rest,
    scan offset [] [] 0 (held ++ rest) = scan (offset + held.length) held owed bits rest
  between : owed = [] → held = []
  short : held.length + owed.length ≤ 4

theorem reached_start : Reached [] [] 0 :=
  ⟨fun _ _ => rfl, fun _ => rfl, by decide⟩

/-- What one byte can do: it is refused, or it ends a character, or it leads further into one. -/
inductive Next (held : Bytes) (owed : List (Nat × Nat)) (bits : Nat) (b : UInt8) : Prop where
  | refused (h : ∀ offset, ∃ start run reason, ∀ rest,
      scan offset held owed bits (b :: rest) = ([], .bad start run reason))
  | ended (c : Char) (hlength : held.length < 4)
      (h : ∀ offset rest, scan offset held owed bits (b :: rest) =
        (scan (offset + 1) [] [] 0 rest).map (c :: ·) id)
  | inside {held' : Bytes} {owed' : List (Nat × Nat)} {bits' : Nat}
      (hreached : Reached held' owed' bits') (hlength : held'.length = held.length + 1)
      (h : ∀ offset rest, scan offset held owed bits (b :: rest) =
        scan (offset + 1) held' owed' bits' rest)

variable {held : Bytes} {owed : List (Nat × Nat)} {bits : Nat}

theorem length_begin? {b : Nat} {begun : Begun} (h : begin? b = some begun) :
    begun.owed.length ≤ 3 := by
  unfold begin? at h
  repeat' split at h
  all_goals cases h
  all_goals simp

theorem Reached.next (h : Reached held owed bits) (b : UInt8) : Next held owed bits b := by
  cases owed with
  | nil =>
    cases hbegin : begin? b.toNat with
    | none =>
      refine .refused fun offset => ⟨offset, [b], .badStart, fun rest => ?_⟩
      simp [scan, hbegin]
    | some begun =>
      obtain ⟨owed', code⟩ := begun
      cases owed' with
      | nil =>
        exact .ended (Char.ofNat code) (by simp [h.between rfl]) fun offset rest => by
          simp [scan, hbegin, Prod.map]
      | cons range ranges =>
        have hscan (offset : Nat) (held : Bytes) (bits : Nat) (rest : Bytes) :
            scan offset held [] bits (b :: rest) =
              scan (offset + 1) [b] (range :: ranges) code rest := by
          simp [scan, hbegin]
        have hlength := length_begin? hbegin
        have hreached : Reached [b] (range :: ranges) code := by
          refine ⟨fun offset rest => hscan offset [] 0 rest, by simp, ?_⟩
          simp only [List.length_cons, List.length_nil] at hlength ⊢
          omega
        exact .inside hreached (by rw [h.between rfl]; rfl) fun offset rest => hscan _ _ _ _
  | cons range ranges =>
    obtain ⟨low, high⟩ := range
    by_cases hb : low ≤ b.toNat ∧ b.toNat ≤ high
    · cases ranges with
      | nil =>
        exact .ended (Char.ofNat (bits * 64 + (b.toNat - 0x80))) h.short fun offset rest => by
          simp [scan, hb, Prod.map]
      | cons range ranges =>
        have hscan (offset : Nat) (rest : Bytes) :
            scan offset held ((low, high) :: range :: ranges) bits (b :: rest) =
              scan (offset + 1) (held ++ [b]) (range :: ranges) (bits * 64 + (b.toNat - 0x80))
                rest := by
          simp [scan, hb]
        have hshort := h.short
        refine .inside ⟨fun offset rest => ?_, by simp, ?_⟩ (by simp) hscan
        · rw [List.append_assoc, h.resumes, List.singleton_append, hscan, List.length_append]
          rfl
        · simp only [List.length_append, List.length_cons, List.length_nil] at hshort ⊢
          omega
    · exact .refused fun offset =>
        ⟨offset - held.length, held, .badContinuation, fun rest => by simp [scan, hb]⟩

/-- A text that is read to its end is the same wherever the count of the offsets starts. -/
theorem scan_complete {offset : Nat} {bytes : Bytes} {t : Text} (hreached : Reached held owed bits)
    (h : scan offset held owed bits bytes = (t, .complete)) (offset' : Nat) :
    scan offset' held owed bits bytes = (t, .complete) := by
  induction bytes generalizing offset offset' held owed bits t with
  | nil => exact h
  | cons b rest ih =>
    cases hreached.next b with
    | refused hscan =>
      obtain ⟨_, _, _, hscan⟩ := hscan offset
      rw [hscan] at h
      cases h
    | ended c _ hscan =>
      rw [hscan] at h ⊢
      cases hrest : scan (offset + 1) [] [] 0 rest with
      | mk u ending =>
        rw [hrest] at h
        cases h
        rw [ih reached_start hrest (offset' + 1)]
        rfl
    | inside hreached' _ hscan =>
      rw [hscan] at h ⊢
      exact ih hreached' h (offset' + 1)

/-- Bytes that are no text are none whatever comes behind them. -/
theorem scan_append_of_bad {offset : Nat} {xs : Bytes} {t : Text} {ending : Ending}
    (hreached : Reached held owed bits) (hxs : scan offset held owed bits xs = (t, ending))
    (hbad : ending.carried? = none) (ys : Bytes) :
    scan offset held owed bits (xs ++ ys) = (t, ending) := by
  induction xs generalizing offset held owed bits t with
  | nil =>
    rw [scan] at hxs
    cases hxs
    split at hbad <;> cases hbad
  | cons b rest ih =>
    rw [List.cons_append]
    cases hreached.next b with
    | refused hscan =>
      obtain ⟨_, _, _, hscan⟩ := hscan offset
      rw [hscan] at hxs ⊢
      exact hxs
    | ended c _ hscan =>
      rw [hscan] at hxs ⊢
      cases hrest : scan (offset + 1) [] [] 0 rest with
      | mk u ending =>
        rw [hrest] at hxs
        cases hxs
        rw [ih reached_start hrest]
        rfl
    | inside hreached' _ hscan =>
      rw [hscan] at hxs ⊢
      exact ih hreached' hxs

/-- Bytes are read in two parts if the second one is read behind what the first one leaves. -/
theorem scan_append_iff {offset : Nat} {xs ys c : Bytes} {t u : Text} {ending : Ending}
    (hreached : Reached held owed bits) (hxs : scan offset held owed bits xs = (t, ending))
    (hc : ending.carried? = some c) :
    scan offset held owed bits (xs ++ ys) = (u, .complete) ↔
      ∃ v, decode (c ++ ys) = (v, .complete) ∧ u = t ++ v := by
  induction xs generalizing offset held owed bits t u with
  | nil =>
    have hheld : t = [] ∧ c = held := by
      rw [scan] at hxs
      cases hxs
      split at hc
      · rename_i howed
        cases hc
        exact ⟨rfl, (hreached.between (List.isEmpty_iff.1 howed)).symm⟩
      · cases hc
        exact ⟨rfl, rfl⟩
    obtain ⟨rfl, rfl⟩ := hheld
    rw [List.nil_append, decode, hreached.resumes]
    constructor
    · intro h
      exact ⟨u, scan_complete hreached h _, rfl⟩
    · rintro ⟨v, h, rfl⟩
      exact scan_complete hreached h offset
  | cons b rest ih =>
    rw [List.cons_append]
    cases hreached.next b with
    | refused hscan =>
      obtain ⟨_, _, _, hscan⟩ := hscan offset
      rw [hscan] at hxs
      cases hxs
      cases hc
    | ended char _ hscan =>
      rw [hscan] at hxs ⊢
      cases hrest : scan (offset + 1) [] [] 0 rest with
      | mk t' ending' =>
        rw [hrest] at hxs
        cases hxs
        have hsplit := fun v => ih (u := v) reached_start hrest
        cases hwhole : scan (offset + 1) [] [] 0 (rest ++ ys) with
        | mk u' ending'' =>
          constructor
          · intro h
            cases h
            obtain ⟨v, hv, rfl⟩ := (hsplit _).1 hwhole
            exact ⟨v, hv, rfl⟩
          · rintro ⟨v, hv, rfl⟩
            rw [← hwhole, (hsplit _).2 ⟨v, hv, rfl⟩]
            rfl
    | inside hreached' _ hscan =>
      rw [hscan] at hxs ⊢
      exact ih hreached' hxs

/-- No character takes more than four bytes, and at most three are left over. -/
theorem length_scan {offset : Nat} {xs c : Bytes} {t : Text} {ending : Ending}
    (hreached : Reached held owed bits) (hxs : scan offset held owed bits xs = (t, ending))
    (hc : ending.carried? = some c) :
    held.length + xs.length ≤ 4 * t.length + c.length ∧ c.length ≤ 3 := by
  induction xs generalizing offset held owed bits t with
  | nil =>
    have hshort := hreached.short
    rw [scan] at hxs
    cases hxs
    split at hc
    · rename_i howed
      cases hc
      rw [hreached.between (List.isEmpty_iff.1 howed)]
      decide
    · rename_i howed
      cases hc
      cases owed with
      | nil => exact absurd rfl howed
      | cons range ranges =>
        simp only [List.length_cons, List.length_nil] at hshort ⊢
        omega
  | cons b rest ih =>
    cases hreached.next b with
    | refused hscan =>
      obtain ⟨_, _, _, hscan⟩ := hscan offset
      rw [hscan] at hxs
      cases hxs
      cases hc
    | ended char hlength hscan =>
      rw [hscan] at hxs
      cases hrest : scan (offset + 1) [] [] 0 rest with
      | mk u ending =>
        rw [hrest] at hxs
        cases hxs
        have hrest := ih reached_start hrest
        simp only [List.length_cons, List.length_nil] at hrest ⊢
        omega
    | inside hreached' hlength hscan =>
      rw [hscan] at hxs
      have hrest := ih hreached' hxs
      simp only [List.length_cons] at hrest ⊢
      omega

end Utf8

/-! ## Encodings -/

namespace Encoding

/-- The bytes are those of the text `t`, decoded all at once. -/
def Decodes (encoding : Encoding) (bytes : Bytes) (t : Text) : Prop :=
  encoding.decodeBlock bytes = (t, .complete)

instance (encoding : Encoding) (bytes : Bytes) (t : Text) : Decidable (encoding.Decodes bytes t) :=
  inferInstanceAs (Decidable (encoding.decodeBlock bytes = (t, .complete)))

variable {encoding : Encoding} {xs ys c : Bytes} {t u : Text} {ending : Utf8.Ending}

/-- A text of ASCII characters is read back from its bytes. -/
theorem decodes_of_ascii {t : Text} (h : ∀ c ∈ t, c.toNat ≤ 0x7F) :
    utf8.Decodes (t.map fun c => UInt8.ofNat c.toNat) t := by
  suffices hscan : ∀ offset, Utf8.scan offset [] [] 0 (t.map fun c => UInt8.ofNat c.toNat) =
      (t, .complete) from hscan 0
  induction t with
  | nil => exact fun _ => rfl
  | cons c t ih =>
    intro offset
    rw [List.forall_mem_cons] at h
    have hbyte : (UInt8.ofNat c.toNat).toNat = c.toNat := by
      rw [UInt8.toNat_ofNat']
      omega
    rw [List.map_cons, Utf8.scan, hbyte, Utf8.begin?, if_pos h.1]
    dsimp only
    rw [ih h.2]
    simp

/-- ASCII leaves nothing over: its bytes are all of a text, or the first one that is not ends it. -/
theorem decodeBlock_ascii (bytes : Bytes) :
    (∀ b ∈ bytes, b.toNat < 0x80) ∧
        Decodes .ascii bytes (bytes.map fun b => Char.ofNat b.toNat) ∨
      (¬ ∀ b ∈ bytes, b.toNat < 0x80) ∧ (decodeBlock .ascii bytes).2.carried? = none := by
  have hdrop (plain : UInt8 → Bool) :
      bytes.drop (bytes.takeWhile plain).length = bytes.dropWhile plain :=
    calc bytes.drop (bytes.takeWhile plain).length
      _ = (bytes.takeWhile plain ++ bytes.dropWhile plain).drop (bytes.takeWhile plain).length := by
        rw [List.takeWhile_append_dropWhile]
      _ = bytes.dropWhile plain := List.drop_left
  have hall : (∀ b ∈ bytes, b.toNat < 0x80) ↔ bytes.dropWhile (·.toNat < ascii.limit) = [] := by
    rw [List.dropWhile_eq_nil_iff]
    exact forall₂_congr fun b _ => decide_eq_true_iff.symm
  rw [hall]
  cases hrest : bytes.dropWhile (·.toNat < ascii.limit) with
  | nil =>
    have hwhole := List.takeWhile_eq_self_iff.2 (List.dropWhile_eq_nil_iff.1 hrest)
    exact .inl ⟨rfl, by simp only [Decodes, decodeBlock, hwhole, List.drop_length]⟩
  | cons b rest =>
    exact .inr ⟨List.cons_ne_nil b rest, by simp only [decodeBlock, hdrop, hrest]; rfl⟩

theorem decodes_ascii_iff {bytes : Bytes} :
    Decodes .ascii bytes t ↔
      (∀ b ∈ bytes, b.toNat < 0x80) ∧ t = bytes.map fun b => Char.ofNat b.toNat := by
  obtain ⟨hall, h⟩ | ⟨hnot, hbad⟩ := decodeBlock_ascii bytes
  · rw [Decodes, show decodeBlock .ascii bytes = _ from h, Prod.mk.injEq, and_iff_left rfl,
      and_iff_right hall, eq_comm]
  · constructor
    · intro h
      rw [show decodeBlock .ascii bytes = _ from h] at hbad
      cases hbad
    · exact fun h => absurd h.1 hnot

/-- Bytes that are no text are none whatever comes behind them. -/
theorem not_decodes_append (hxs : encoding.decodeBlock xs = (t, ending))
    (hbad : ending.carried? = none) : ¬ encoding.Decodes (xs ++ ys) u := by
  intro h
  cases encoding with
  | utf8 =>
    have hwhole : Utf8.decode (xs ++ ys) = (t, ending) :=
      Utf8.scan_append_of_bad Utf8.reached_start hxs hbad ys
    cases hwhole.symm.trans h
    cases hbad
  | latin1 =>
    cases hxs
    cases hbad
  | ascii =>
    obtain ⟨-, heq⟩ | ⟨hnot, -⟩ := decodeBlock_ascii xs
    · cases hxs.symm.trans heq
      cases hbad
    · exact hnot fun b hb => (decodes_ascii_iff.1 h).1 b (List.mem_append_left ys hb)

/-- Bytes are decoded in two parts if the second one is decoded behind what the first one leaves. -/
theorem decodes_append_iff (hxs : encoding.decodeBlock xs = (t, ending))
    (hc : ending.carried? = some c) :
    encoding.Decodes (xs ++ ys) u ↔ ∃ v, encoding.Decodes (c ++ ys) v ∧ u = t ++ v := by
  cases encoding with
  | utf8 => exact Utf8.scan_append_iff Utf8.reached_start hxs hc
  | latin1 =>
    cases hxs
    cases hc
    simp only [Decodes, decodeBlock, List.map_append, List.nil_append, Prod.mk.injEq, and_true]
    constructor
    · rintro rfl
      exact ⟨_, rfl, rfl⟩
    · rintro ⟨v, rfl, rfl⟩
      rfl
  | ascii =>
    obtain ⟨hall, heq⟩ | ⟨-, hbad⟩ := decodeBlock_ascii xs
    · cases hxs.symm.trans heq
      cases hc
      rw [List.nil_append, decodes_ascii_iff, List.map_append, List.forall_mem_append,
        and_iff_right hall]
      constructor
      · rintro ⟨hys, rfl⟩
        exact ⟨_, decodes_ascii_iff.2 ⟨hys, rfl⟩, rfl⟩
      · rintro ⟨v, hv, rfl⟩
        obtain ⟨hys, rfl⟩ := decodes_ascii_iff.1 hv
        exact ⟨hys, rfl⟩
    · rw [hxs, hc] at hbad
      cases hbad

theorem eq_nil_of_decodes (h : encoding.Decodes [] t) : t = [] := by
  cases encoding <;> cases h <;> rfl

/-- What is left over is no text by itself. -/
theorem not_decodes_of_inside (hxs : encoding.decodeBlock xs = (t, .inside c)) :
    ¬ encoding.Decodes c u := by
  intro h
  have hwhole : encoding.Decodes (xs ++ []) (t ++ u) :=
    (decodes_append_iff hxs rfl).2 ⟨u, (List.append_nil c).symm ▸ h, rfl⟩
  rw [List.append_nil, Decodes, hxs] at hwhole
  cases (Prod.mk.inj hwhole).2

theorem length_decodeBlock (hxs : encoding.decodeBlock xs = (t, ending))
    (hc : ending.carried? = some c) : xs.length ≤ 4 * t.length + c.length ∧ c.length ≤ 3 := by
  cases encoding with
  | utf8 => simpa using Utf8.length_scan Utf8.reached_start hxs hc
  | latin1 =>
    cases hxs
    cases hc
    simp only [List.length_map, List.length_nil]
    omega
  | ascii =>
    obtain ⟨-, heq⟩ | ⟨-, hbad⟩ := decodeBlock_ascii xs
    · cases hxs.symm.trans heq
      cases hc
      simp only [List.length_map, List.length_nil]
      omega
    · rw [hxs, hc] at hbad
      cases hbad

/-- Only an empty file holds no text. -/
theorem eq_nil_of_decodes_nil (h : encoding.Decodes xs []) : xs = [] := by
  obtain ⟨hlength, -⟩ := length_decodeBlock h rfl
  exact List.eq_nil_of_length_eq_zero (Nat.le_zero.1 hlength)

end Encoding

/-! ## Blocks -/

namespace Decoder

variable {d : Decoder} {memory size : Nat} {bytes block c : Bytes} {t : Text} {ending : Utf8.Ending}

theorem holdBack_append (t : Text) : (holdBack t).1 ++ (holdBack t).2 = t := by
  unfold holdBack
  split
  · rename_i hlast
    exact List.dropLast_append_getLast? '\r' hlast
  · exact List.append_nil t

theorem length_holdBack_le (t : Text) : (holdBack t).2.length ≤ 1 := by
  unfold holdBack
  split <;> simp

/-- The decoder behind a block whose text is `t` and which leaves `carried`. -/
def behind (d : Decoder) (block : Bytes) (t : Text) (carried : Bytes) : Decoder :=
  { d with
    carried
    held := (holdBack (d.held ++ t)).2
    given := d.given + (holdBack (d.held ++ t)).1.length
    lastBytes := block.length
    lastChars := (holdBack (d.held ++ t)).1.length }

theorem take_eq_ok (hblock : d.encoding.decodeBlock (d.carried ++ block) = (t, ending))
    (hc : ending.carried? = some c) :
    d.take block = .ok ((holdBack (d.held ++ t)).1, d.behind block t c) := by
  cases ending with
  | complete | inside =>
    cases hc
    rw [take, hblock]
    rfl
  | bad => cases hc

theorem take_eq_error (hblock : d.encoding.decodeBlock (d.carried ++ block) = (t, ending))
    (hbad : ending.carried? = none) : ∃ e, d.take block = .error e := by
  cases ending with
  | complete | inside => cases hbad
  | bad =>
    rw [take, hblock]
    exact ⟨_, rfl⟩

/-- The bytes carried into a block are no text by themselves. -/
def Waits (d : Decoder) : Prop :=
  d.carried = [] ∨ ∀ t, ¬ d.encoding.Decodes d.carried t

theorem waits_behind (hblock : d.encoding.decodeBlock (d.carried ++ block) = (t, ending))
    (hc : ending.carried? = some c) : (d.behind block t c).Waits := by
  cases ending with
  | complete =>
    cases hc
    exact .inl rfl
  | inside held =>
    cases hc
    exact .inr fun u => Encoding.not_decodes_of_inside hblock
  | bad => cases hc

theorem request_error {e : Excess} (h : d.request memory size = .error e) : e = .memory := by
  unfold request at h
  split at h
  · cases h
    rfl
  · cases h

/-- A block of a text is taken whole, and what is left of the text is behind what it leaves. -/
theorem take_of_decodes {rest : Bytes} (h : d.encoding.Decodes (d.carried ++ (block ++ rest)) t) :
    ∃ u c v, d.take block = .ok ((holdBack (d.held ++ u)).1, d.behind block u c) ∧
      (d.behind block u c).Waits ∧ d.encoding.Decodes (c ++ rest) v ∧ t = u ++ v := by
  rw [← List.append_assoc] at h
  cases hblock : d.encoding.decodeBlock (d.carried ++ block) with
  | mk u ending =>
    cases hc : ending.carried? with
    | none => exact absurd h (Encoding.not_decodes_append hblock hc)
    | some c =>
      obtain ⟨v, hv, heq⟩ := (Encoding.decodes_append_iff hblock hc).1 h
      exact ⟨u, c, v, take_eq_ok hblock hc, waits_behind hblock hc, hv, heq⟩

theorem refusal?_cases (d : Decoder) (memory size : Nat) :
    d.refusal? memory size = none ∨ d.refusal? memory size = some (.excess .memory) := by
  unfold refusal?
  split
  · rename_i hrequest
    cases request_error hrequest
    exact .inr rfl
  · exact .inl rfl

/-- At the end of the file nothing is left but what was held back. -/
theorem finish_eq (hwaits : d.Waits) (h : d.encoding.Decodes d.carried t) :
    d.finish memory size = (d.held ++ t, none) ∨
      (d.finish memory size).2 = some (.excess .memory) := by
  rcases hwaits with hnil | hnone
  · rw [hnil] at h
    cases Encoding.eq_nil_of_decodes h
    unfold finish
    rw [hnil, List.append_nil]
    cases hheld : d.held with
    | nil => exact .inl rfl
    | cons char held =>
      dsimp only
      exact (refusal?_cases _ _ _).imp_left fun hnone => by rw [hnone]
  · exact absurd h (hnone t)

/-- A file whose bytes are those of a text gives all of that text, unless memory has no room for a
    block that it is asked for. -/
theorem run_eq (hwaits : d.Waits) (h : d.encoding.Decodes (d.carried ++ bytes) t) :
    d.run memory size bytes = (d.held ++ t, none) ∨
      (d.run memory size bytes).2 = some (.excess .memory) := by
  fun_induction run d memory size bytes generalizing t with
  | case1 d bytes e hrequest =>
    cases request_error hrequest
    exact .inr rfl
  | case2 d n hrequest =>
    rw [List.append_nil] at h
    exact finish_eq hwaits h
  | case3 d n hrequest b rest text d' htake others stop hrun ih =>
    rw [← List.take_append_drop (n - 1) rest, ← List.cons_append] at h
    obtain ⟨u, c, v, htake', hwaits', hv, rfl⟩ := take_of_decodes h
    cases htake.symm.trans htake'
    have happend := holdBack_append (d.held ++ u)
    rcases ih hwaits' hv with hrest | hmemory
    · cases hrun.symm.trans hrest
      left
      rw [← List.append_assoc, ← List.append_assoc]
      exact congrArg (fun w : Text => (w ++ v, none)) happend
    · rw [hrun] at hmemory
      exact .inr hmemory
  | case4 d n hrequest b rest e htake =>
    rw [← List.take_append_drop (n - 1) rest, ← List.cons_append] at h
    obtain ⟨u, c, v, htake', -⟩ := take_of_decodes h
    cases htake.symm.trans htake'

/-! ## Memory -/

/-- A block gives a character for every four of its bytes, but for the bytes that are carried over and
    the character that is held back. -/
theorem lastBytes_behind (hblock : d.encoding.decodeBlock (d.carried ++ block) = (t, ending))
    (hc : ending.carried? = some c) :
    (d.behind block t c).lastBytes ≤ 4 * (d.behind block t c).lastChars + 7 := by
  obtain ⟨hbytes, hcarried⟩ := Encoding.length_decodeBlock hblock hc
  have hheld := length_holdBack_le (d.held ++ t)
  have hchars := congrArg List.length (holdBack_append (d.held ++ t))
  simp only [List.length_append] at hbytes hchars
  show block.length ≤ 4 * (holdBack (d.held ++ t)).1.length + 7
  omega

theorem estimate_le (h : d.lastBytes ≤ 4 * d.lastChars + 7) : d.estimate size ≤ 11 * size := by
  have hmissing : size - d.given % size ≤ size := Nat.sub_le _ _
  unfold estimate
  generalize size - d.given % size = missing at hmissing
  refine Nat.max_le.2 ⟨by omega, ?_⟩
  rcases Nat.eq_zero_or_pos d.lastChars with hzero | hpos
  · rw [hzero, Nat.div_zero]
    exact Nat.zero_le _
  · have hbytes : d.lastBytes ≤ 11 * d.lastChars := by omega
    refine Nat.div_le_of_le_mul ?_
    calc missing * d.lastBytes
      _ ≤ size * (11 * d.lastChars) := Nat.mul_le_mul hmissing hbytes
      _ = d.lastChars * (11 * size) := by ac_rfl

theorem request_of_le (h : d.lastBytes ≤ 4 * d.lastChars + 7) (hleast : leastBlock ≤ memory)
    (hsize : 11 * size ≤ memory) : ∃ n, d.request memory size = .ok n := by
  have hestimate : d.estimate size ≤ 11 * size := estimate_le h
  have hblock : d.blockSize size ≤ memory := by
    unfold blockSize
    split
    · exact hleast
    · exact max_le hleast (hestimate.trans hsize)
  exact ⟨_, if_neg (not_lt.2 hblock)⟩

theorem lastBytes_of_take {text : Text} {d' : Decoder} (h : d.take block = .ok (text, d')) :
    d'.lastBytes ≤ 4 * d'.lastChars + 7 := by
  cases hblock : d.encoding.decodeBlock (d.carried ++ block) with
  | mk u ending =>
    cases hc : ending.carried? with
    | none =>
      obtain ⟨e, herror⟩ := take_eq_error hblock hc
      cases h.symm.trans herror
    | some c =>
      cases h.symm.trans (take_eq_ok hblock hc)
      exact lastBytes_behind hblock hc

theorem finish_fits (hleast : leastBlock ≤ memory) (hsize : 11 * size ≤ memory) :
    (d.finish memory size).2 ≠ some (.excess .memory) := by
  unfold finish
  split
  · simp
  · obtain ⟨n, hok⟩ : ∃ n,
        request { d with given := d.given + d.held.length, lastBytes := 0 } memory size = .ok n :=
      request_of_le (Nat.zero_le _) hleast hsize
    simp [refusal?, hok]
  · simp

/-- Eleven bytes of memory for each character that is read at a time are enough, if there is room for
    the least block. -/
theorem run_fits (h : d.lastBytes ≤ 4 * d.lastChars + 7) (hleast : leastBlock ≤ memory)
    (hsize : 11 * size ≤ memory) : (d.run memory size bytes).2 ≠ some (.excess .memory) := by
  fun_induction run d memory size bytes with
  | case1 d bytes e hrequest =>
    obtain ⟨n, hok⟩ := request_of_le h hleast hsize
    cases hrequest.symm.trans hok
  | case2 d n hrequest => exact finish_fits hleast hsize
  | case3 d n hrequest b rest text d' htake others stop hrun ih =>
    have hrest := ih (lastBytes_of_take htake)
    rwa [hrun] at hrest
  | case4 d n hrequest b rest e htake => simp

end Decoder

/-! ## Files as streams -/

namespace Encoding

variable {encoding : Encoding} {memory size : Nat} {bytes : Bytes} {t : Text}

/-- Memory has room for every block that a file is asked for, read in chunks of `size` characters. -/
def Fits (encoding : Encoding) (memory : Nat) (bytes : Bytes) (size : Nat) : Prop :=
  (Decoder.run { encoding } memory size bytes).2 ≠ some (.excess .memory)

theorem fits_of_le (hleast : Decoder.leastBlock ≤ memory) (hsize : 11 * size ≤ memory) :
    encoding.Fits memory bytes size :=
  Decoder.run_fits (Nat.zero_le _) hleast hsize

/-- The first block of an empty file is as large as that of any other. -/
theorem Fits.nil (h : encoding.Fits memory bytes size) : encoding.Fits memory [] size := by
  unfold Fits Decoder.run at h ⊢
  split
  · rename_i hrequest
    rw [hrequest] at h
    exact h
  · simp [Decoder.finish]

/-- A file whose bytes are those of a text is read like that text in memory. -/
theorem stream_eq (h : encoding.Decodes bytes t) (hfits : encoding.Fits memory bytes size) :
    encoding.stream memory bytes size = Reads.counted (Reads.ofText t) size := by
  have hrun : Decoder.run { encoding } memory size bytes = (t, none) :=
    (Decoder.run_eq (.inl rfl) h).resolve_right hfits
  unfold stream Reads.counted
  dsimp only
  rw [hrun]

/-- A file that memory has no room for the blocks of is read up to where it is refused. -/
theorem stream_of_not_fits (h : ¬ encoding.Fits memory bytes size) :
    ∃ u, encoding.stream memory bytes size =
      Reads.counted (Reads.upTo (.excess .memory) u) size := by
  have hmemory := not_not.1 h
  cases hrun : Decoder.run { encoding } memory size bytes with
  | mk u stop =>
    rw [hrun] at hmemory
    cases hmemory
    refine ⟨u, ?_⟩
    unfold stream Reads.counted
    dsimp only
    rw [hrun]

end Encoding

end Reindent
