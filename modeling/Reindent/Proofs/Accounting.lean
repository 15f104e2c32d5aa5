-- SUMMARY: What the tallies of a session hold: the sums over the runs that were counted on them.
import Mathlib.Algebra.Ring.Int.Defs
import Mathlib.Data.List.Induction
import Reindent.Proofs.Counts
import Reindent.Proofs.SessionBlocks

/-! # Tallies of a session

A tally is in force from the start of its block, except in tally blocks inside, until the block is
left: `current_iff_innermost`. So the calls that are counted on it can be told from the events
alone, and it holds the sums over these calls, with what `counts_of_formatText` says of each of
them, and over what was recorded on it directly: `tallies_after`. -/

namespace Reindent

/-- What one run adds to a tally, besides a document. -/
structure Entry where
  chars : Int
  tags : Int
  lines : Int
  deriving DecidableEq, Repr

/-- The tally that holds the entries and nothing else. -/
def Tally.total (entries : List Entry) : Tally where
  documents := entries.length
  chars := (entries.map (·.chars)).sum
  tags := (entries.map (·.tags)).sum
  lines := (entries.map (·.lines)).sum

theorem Tally.total_cons (entry : Entry) (entries : List Entry) :
    total (entry :: entries) = (total entries).record entry.chars entry.tags entry.lines := by
  simp only [total, record, List.length_cons, List.map_cons, List.sum_cons, Tally.mk.injEq]
  omega

namespace Session

/-! ## Entries -/

/-- The block in front of the events is still open after them, and no tally block in it is. -/
def innermost (events : List Event) : Bool :=
  (events.foldlM opened []).any fun kinds => .tally ∉ kinds

/-- What a call adds that succeeds. What is counted for a text can be told from the text. -/
def entryOf (counts : Counts) : Call → Entry
  | .text source => ⟨source.length, (Markup.ofText source).pieces.length, source.lines.length⟩
  | .stream .. => ⟨counts.chars, counts.tags, counts.lines⟩

/-- What an event adds to tally `tally`, if `s` is the session when the tally was started and the
    events `between` have come since. Calls that fail, that are made while another tally is
    innermost or that are made apart from the session add nothing. -/
def entry? (s : Session) (tally : Nat) (between : List Event) : Event → Option Entry
  | .record tally' chars tags lines => if tally' = tally then some ⟨chars, tags, lines⟩ else none
  | .format call settings? =>
    match ((s.after between).format call settings?).1.result with
    | .error _ => none
    | .ok counts => if innermost between then some (entryOf counts call) else none
  | _ => none

/-- What events have added to tally `tally`, the latest one first. -/
def entries (s : Session) (tally : Nat) : List Event → List Entry
  | [] => []
  | event :: earlier =>
    (s.entry? tally earlier.reverse event).toList ++ s.entries tally earlier

/-! ## Tallies that are or will be in force -/

/-- The tally in force, and those that are brought back as the open blocks are left. -/
def chain (s : Session) : List (Option Nat) :=
  s.current :: s.blocks.filterMap tallyOf?

/-- What an event does to the chain. -/
inductive Moves (s t : Session) : Prop where
  | same (hchain : t.chain = s.chain) (hlength : t.tallies.length = s.tallies.length)
  | entered (hchain : t.chain = some s.tallies.length :: s.chain)
      (hlength : t.tallies.length = s.tallies.length + 1)
  | left (hchain : t.chain = s.chain.tail) (hlength : t.tallies.length = s.tallies.length)

theorem moves_leave (s : Session) : Moves s s.leave := by
  unfold leave
  split
  · exact .same rfl rfl
  · rename_i blocks h
    exact .same (by rw [chain, chain, h]; rfl) rfl
  · rename_i blocks h
    exact .left (by rw [chain, chain, h]; rfl) rfl

theorem length_tallies_format (s : Session) (call : Call) (settings? : Option Settings) :
    (s.format call settings?).2.tallies.length = s.tallies.length := by
  unfold format
  dsimp only
  split
  · unfold count
    split
    · rfl
    · simp
  · rfl

theorem moves_perform (s : Session) (event : Event) : Moves s (s.perform event) := by
  cases event with
  | configure settings => exact .same rfl rfl
  | reset => exact .same rfl rfl
  | format call settings? =>
    obtain ⟨tallies, htallies⟩ := s.format_snd call settings?
    refine .same ?_ (s.length_tallies_format call settings?)
    rw [perform, htallies]
    rfl
  | formatApart call settings? => exact .same rfl rfl
  | record tally chars tags lines => exact .same rfl (List.length_modify ..)
  | enterSettings settings => exact .same rfl rfl
  | leaveSettings => exact s.moves_leave
  | enterTally => exact .entered rfl (by simp [perform, enterTally])
  | leaveTally => exact s.moves_leave

/-- No tally occurs twice in the chain, and all in it have been started. -/
structure Sound (s : Session) : Prop where
  nodup : s.chain.Nodup
  started : ∀ tally, some tally ∈ s.chain → tally < s.tallies.length

variable {s t : Session}

theorem Sound.moves (h : s.Sound) (hmoves : Moves s t) : t.Sound := by
  cases hmoves with
  | same hchain hlength => exact ⟨hchain ▸ h.nodup, by rw [hchain, hlength]; exact h.started⟩
  | entered hchain hlength =>
    have hnew : some s.tallies.length ∉ s.chain := fun hmem => (h.started _ hmem).false
    refine ⟨by rw [hchain]; exact List.nodup_cons.2 ⟨hnew, h.nodup⟩, ?_⟩
    intro tally hmem
    rw [hchain, List.mem_cons, Option.some.injEq] at hmem
    rw [hlength]
    rcases hmem with rfl | hmem
    · exact Nat.lt_succ_self _
    · exact Nat.lt_succ_of_lt (h.started _ hmem)
  | left hchain hlength =>
    refine ⟨by rw [hchain]; exact h.nodup.tail, ?_⟩
    rw [hchain, hlength]
    exact fun tally hmem => h.started tally (List.mem_of_mem_tail hmem)

theorem Sound.after (h : s.Sound) (events : List Event) : (s.after events).Sound := by
  induction events using List.reverseRecOn with
  | nil => exact h
  | append_singleton events event ih =>
    rw [after_concat]
    exact ih.moves (moves_perform _ event)

theorem sound_start : Sound {} where
  nodup := by decide
  started tally h := by simp [chain] at h

/-- The tally has been started and will not be in force again. -/
structure Over (s : Session) (tally : Nat) : Prop where
  started : tally < s.tallies.length
  not_mem : some tally ∉ s.chain

theorem Over.moves {tally : Nat} (h : s.Over tally) (hmoves : Moves s t) : t.Over tally := by
  cases hmoves with
  | same hchain hlength => exact ⟨hlength ▸ h.started, hchain ▸ h.not_mem⟩
  | entered hchain hlength =>
    refine ⟨by rw [hlength]; exact Nat.lt_succ_of_lt h.started, ?_⟩
    rw [hchain, List.mem_cons, not_or, Option.some.injEq]
    exact ⟨h.started.ne, h.not_mem⟩
  | left hchain hlength =>
    exact ⟨hlength ▸ h.started, fun hmem => h.not_mem (List.mem_of_mem_tail (hchain ▸ hmem))⟩

/-! ## The tally in force -/

theorem opened_append {event : Event} {kinds kinds' : List BlockKind}
    (h : opened kinds event = some kinds') (outer : List BlockKind) :
    opened (kinds ++ outer) event = some (kinds' ++ outer) := by
  cases event with
  | leaveSettings =>
    obtain rfl := leaving_eq_some_iff.1 h
    rfl
  | leaveTally =>
    obtain rfl := leaving_eq_some_iff.1 h
    rfl
  | _ =>
    cases h
    rfl

/-- What is open further out makes no difference as long as it is not left. -/
theorem foldlM_opened_append {events : List Event} {kinds : List BlockKind}
    (h : events.foldlM opened [] = some kinds) (outer : List BlockKind) :
    events.foldlM opened outer = some (kinds ++ outer) := by
  induction events using List.reverseRecOn generalizing kinds with
  | nil =>
    cases h
    rfl
  | append_singleton events event ih =>
    rw [List.foldlM_append] at h ⊢
    obtain ⟨before, hbefore, hevent⟩ := Option.bind_eq_some_iff.1 h
    rw [ih hbefore]
    simp only [List.foldlM_cons, List.foldlM_nil, bind_pure] at hevent ⊢
    exact opened_append hevent outer

variable {between : List Event} {outer kinds : List BlockKind}

theorem leaving_append_eq_none {kind : BlockKind} {inner : List BlockKind}
    (hinner : leaving kind inner = none) (hne : inner ≠ []) (outer : List BlockKind) :
    leaving kind (inner ++ outer) = none := by
  cases inner with
  | nil => exact absurd rfl hne
  | cons innermost others => simpa [leaving] using hinner

/-- Only the end of a block itself leaves it. -/
theorem eq_leaveTally {event : Event} {inner : List BlockKind} (hinner : opened inner event = none)
    (h : opened (inner ++ .tally :: outer) event = some kinds) :
    inner = [] ∧ event = .leaveTally := by
  have hkind {kind : BlockKind} (hnone : leaving kind inner = none)
      (hsome : leaving kind (inner ++ .tally :: outer) = some kinds) :
      inner = [] ∧ kind = .tally := by
    by_cases hne : inner = []
    · subst hne
      exact ⟨rfl, (List.cons.inj (leaving_eq_some_iff.1 hsome)).1.symm⟩
    · rw [leaving_append_eq_none hnone hne] at hsome
      cases hsome
  cases event with
  | leaveSettings =>
    obtain ⟨-, hsettings⟩ := hkind hinner h
    cases hsettings
  | leaveTally => exact ⟨(hkind hinner h).1, rfl⟩
  | _ => cases hinner

theorem Sound.enterTally_after (hs : s.Sound) (events : List Event) :
    (s.enterTally.after events).Sound :=
  (hs.moves (s.moves_perform .enterTally)).after events

/-- Leaving the block of the tally in force. -/
theorem Sound.over_leave {tally : Nat} {before : Option Nat} {blocks : List Block} (h : t.Sound)
    (hcurrent : t.current = some tally) (hblocks : t.blocks = .tally before :: blocks) :
    t.leave.Over tally := by
  have hleave : t.leave = { t with current := before, blocks } := by rw [leave, hblocks]
  have hchain : t.chain = some tally :: t.leave.chain := by
    rw [hleave, chain, chain, hcurrent, hblocks]
    rfl
  refine ⟨?_, (List.nodup_cons.1 (hchain ▸ h.nodup)).1⟩
  rw [hleave]
  exact h.started tally (by rw [hchain]; exact List.mem_cons_self)

/-- A tally whose block has been left is not in force again. -/
theorem over_of_left (hs : s.Sound) (h : between.foldlM opened (.tally :: outer) = some kinds)
    (hleft : between.foldlM opened [] = none) :
    (s.enterTally.after between).Over s.tallies.length := by
  induction between using List.reverseRecOn generalizing kinds with
  | nil => cases hleft
  | append_singleton between event ih =>
    rw [List.foldlM_append] at h hleft
    obtain ⟨kinds', hkinds', hevent⟩ := Option.bind_eq_some_iff.1 h
    rw [after_concat]
    cases hinner : between.foldlM opened [] with
    | none => exact (ih hkinds' hinner).moves (moves_perform _ event)
    | some inner =>
      -- The block was open up to this event, so this is its end, with nothing open in it.
      rw [foldlM_opened_append hinner] at hkinds'
      cases hkinds'
      rw [hinner] at hleft
      simp only [Option.bind_eq_bind, Option.bind_some, List.foldlM_cons, List.foldlM_nil,
        Option.pure_def, Option.bind_fun_some] at hleft hevent
      obtain ⟨rfl, rfl⟩ := eq_leaveTally hleft hevent
      obtain ⟨blocks, hstands⟩ := stands_after hinner s.enterTally
      obtain rfl := List.map_eq_nil_iff.1 hstands.kinds
      have hcurrent := Option.some.inj hstands.current
      exact (hs.enterTally_after between).over_leave hcurrent hstands.blocks

theorem filterMap_tallyOf?_eq_nil_iff {blocks : List Block} :
    blocks.filterMap tallyOf? = [] ↔ BlockKind.tally ∉ blocks.map kindOf := by
  have hblock (block : Block) : tallyOf? block = none ↔ kindOf block ≠ .tally := by
    cases block <;> simp [tallyOf?, kindOf]
  simp only [List.filterMap_eq_nil_iff, hblock, List.mem_map, not_exists, not_and]

/-- A tally is in force exactly if its block is the innermost tally block. -/
theorem current_iff_innermost (hs : s.Sound)
    (h : between.foldlM opened (.tally :: outer) = some kinds) :
    (s.enterTally.after between).current = some s.tallies.length ↔ innermost between = true := by
  cases hinner : between.foldlM opened [] with
  | none =>
    have hover := over_of_left hs h hinner
    refine iff_of_false (fun hcurrent => hover.not_mem ?_) (by simp [innermost, hinner])
    rw [← hcurrent]
    exact List.mem_cons_self
  | some inner =>
    obtain ⟨blocks, hstands⟩ := stands_after hinner s.enterTally
    have hcurrent := hstands.current
    have hnodup := (hs.enterTally_after between).nodup
    rw [chain, hstands.blocks, List.filterMap_append] at hnodup
    rw [innermost, hinner, Option.any_some, decide_eq_true_eq, ← hstands.kinds,
      ← filterMap_tallyOf?_eq_nil_iff]
    constructor
    · intro heq
      by_contra hne
      obtain ⟨first, others, hbrought⟩ := List.exists_cons_of_ne_nil hne
      rw [hbrought, List.getLast?_cons_cons] at hcurrent
      -- The tally would be in force and would be brought back as well.
      have hmem := List.mem_of_getLast? hcurrent
      rw [heq, hbrought, List.nodup_cons] at hnodup
      exact hnodup.1 (List.mem_append_left _ hmem)
    · intro hnil
      rw [hnil] at hcurrent
      exact Option.some.inj hcurrent

/-! ## What tallies hold -/

theorem getElem?_tallies_count (s : Session) (counts : Counts) (tally : Nat) :
    (s.count counts).tallies[tally]? =
      if s.current = some tally then s.tallies[tally]?.map (·.add counts)
      else s.tallies[tally]? := by
  unfold count
  cases hcurrent : s.current with
  | none => rfl
  | some current =>
    by_cases heq : current = tally
    · simp [heq]
    · simp [heq]

theorem getElem?_tallies_record (s : Session) (tally' tally : Nat) (chars tags lines : Int) :
    (s.record tally' chars tags lines).tallies[tally]? =
      if tally' = tally then s.tallies[tally]?.map (·.record chars tags lines)
      else s.tallies[tally]? := by
  by_cases heq : tally' = tally
  · simp [heq, record]
  · simp [heq, record]

theorem tallies_leave (s : Session) : s.leave.tallies = s.tallies := by
  unfold leave
  split <;> rfl

/-- How many tally blocks are entered. -/
def tallyBlocks (events : List Event) : Nat :=
  events.countP (· matches .enterTally)

theorem length_tallies_after (s : Session) (events : List Event) :
    (s.after events).tallies.length = s.tallies.length + tallyBlocks events := by
  induction events using List.reverseRecOn with
  | nil => rfl
  | append_singleton events event ih =>
    rw [after_concat, tallyBlocks, List.countP_append, ← tallyBlocks]
    cases event with
    | format call settings? => simp [perform, length_tallies_format, ih]
    | record tally chars tags lines => simp [perform, record, ih]
    | enterTally => simp [perform, enterTally, ih, Nat.add_assoc]
    | leaveSettings => simp [perform, tallies_leave, ih]
    | leaveTally => simp [perform, tallies_leave, ih]
    | _ => simpa [perform, configure, reset, enterSettings] using ih

/-- What is counted on a tally is what the call adds. -/
theorem add_entryOf {settings : Settings} {call : Call} {counts : Counts}
    (h : (call.run settings).result = .ok counts) (t : Tally) :
    t.add counts = t.record (entryOf counts call).chars (entryOf counts call).tags
      (entryOf counts call).lines := by
  cases call with
  | text source =>
    obtain ⟨rfl, -⟩ := counts_of_formatText (formatText_eq_ok_iff.2 ⟨h, rfl⟩)
    rfl
  | stream source sink file => rfl

/-- One event more: a tally holds what the event adds as well. -/
theorem tallies_perform {tally : Nat} {held : List Entry}
    (hheld : (s.after between).tallies[tally]? = some (.total held))
    (hcurrent : (s.after between).current = some tally ↔ innermost between = true)
    (event : Event) :
    ((s.after between).perform event).tallies[tally]? =
      some (.total ((s.entry? tally between event).toList ++ held)) := by
  cases event with
  | format call settings? =>
    rw [perform, entry?, format_fst]
    unfold format
    cases hrun : (call.run (settings?.getD (s.after between).settings)).result with
    | error e => simpa [hrun] using hheld
    | ok counts =>
      simp only [hrun]
      rw [getElem?_tallies_count, hheld]
      by_cases hinnermost : innermost between = true
      · rw [if_pos (hcurrent.2 hinnermost), if_pos hinnermost, Option.toList_some,
          List.singleton_append, Tally.total_cons, ← add_entryOf hrun]
        rfl
      · rw [if_neg (fun heq => hinnermost (hcurrent.1 heq)), if_neg hinnermost]
        rfl
  | record tally' chars tags lines =>
    rw [perform, getElem?_tallies_record, hheld, entry?]
    by_cases heq : tally' = tally
    · rw [if_pos heq, if_pos heq, Option.toList_some, List.singleton_append, Tally.total_cons]
      rfl
    · rw [if_neg heq, if_neg heq]
      rfl
  | enterTally =>
    obtain ⟨hlength, -⟩ := List.getElem?_eq_some_iff.1 hheld
    rw [perform, enterTally, List.getElem?_append_left hlength, hheld]
    rfl
  | leaveSettings =>
    rw [perform, tallies_leave, hheld]
    rfl
  | leaveTally =>
    rw [perform, tallies_leave, hheld]
    rfl
  | _ => exact hheld

/-- A tally holds what has been added to it since it was started. -/
theorem tallies_enterTally_after (hs : s.Sound)
    (h : between.foldlM opened (.tally :: outer) = some kinds) :
    (s.enterTally.after between).tallies[s.tallies.length]? =
      some (.total (s.enterTally.entries s.tallies.length between.reverse)) := by
  induction between using List.reverseRecOn generalizing kinds with
  | nil => simp [after, enterTally, entries, Tally.total]
  | append_singleton between event ih =>
    rw [List.foldlM_append] at h
    obtain ⟨kinds', hkinds', -⟩ := Option.bind_eq_some_iff.1 h
    rw [after_concat, List.reverse_concat, entries, List.reverse_reverse]
    exact tallies_perform (ih hkinds') (current_iff_innermost hs hkinds') event

theorem after_append (s : Session) (events others : List Event) :
    s.after (events ++ others) = (s.after events).after others :=
  List.foldl_append

/-- What the tallies of a session hold, one for each tally block that was entered: the sums over
    what was added to them. A call on a text that succeeds returns the lines that are counted; if
    nothing in them ends a line early, they are counted by the line ends of what it returns. -/
theorem tallies_after {events : List Event} {kinds : List BlockKind}
    (h : events.foldlM opened [] = some kinds) :
    (after {} events).tallies.length = tallyBlocks events ∧
    (∀ before later, events = before ++ .enterTally :: later →
      (after {} events).tallies[tallyBlocks before]? =
        some (.total (entries (after {} (before ++ [.enterTally])) (tallyBlocks before)
          later.reverse))) ∧
    ∀ before source settings? rest output,
      events = before ++ .format (.text source) settings? :: rest →
      ((after {} before).format (.text source) settings?).1.output = .ok output →
      let settings := settings?.getD (after {} before).settings
      Line.layOutAll settings source.lines = .ok output ∧
        ((settings.resolveReferences = false ∨ '&' ∉ source) → settings.indent.OneLine →
          source.lines.length = output.count '\n' ∧ '\r' ∉ output) := by
  refine ⟨by simpa using length_tallies_after {} events, ?_, ?_⟩
  · rintro before later rfl
    rw [List.foldlM_append] at h
    obtain ⟨outer, -, hlater⟩ := Option.bind_eq_some_iff.1 h
    have hcount : (after {} before).tallies.length = tallyBlocks before := by
      simpa using length_tallies_after {} before
    have htally := tallies_enterTally_after (sound_start.after before) hlater
    rw [hcount] at htally
    rw [after_append, after_concat]
    exact htally
  · rintro before source settings? rest output - hok settings
    rw [format_fst, output_run_text] at hok
    cases hformat : formatText settings source with
    | error e =>
      rw [hformat] at hok
      cases hok
    | ok result =>
      rw [hformat] at hok
      cases hok
      exact ⟨(counts_of_formatText hformat).2,
        fun hkeep hindent => count_of_formatText hindent hkeep hformat⟩

/-- A call in a tally block inside and a call that fails add nothing to the tally outside, and what
    is recorded on it directly does, wherever that is. -/
theorem tallies_after_nested :
    let a : Text := ['<', 'a', '/', '>']
    let events : List Event :=
      [.enterTally, .format (.text a) none, .enterTally, .format (.text (a ++ ['\n'])) none,
        .record 0 5 2 1, .leaveTally, .format (.text ['<']) none, .formatApart (.text a) none,
        .leaveTally]
    (after {} events).tallies[0]? = some ⟨2, 9, 3, 2⟩ ∧
      (after {} events).tallies[1]? = some ⟨1, 5, 1, 1⟩ := by
  intro a events
  have h : events.foldlM opened [] = some [] := by decide
  obtain ⟨-, hsums, -⟩ := tallies_after h
  have houter := hsums [] _ rfl
  have hinner := hsums [.enterTally, .format (.text a) none] _ rfl
  refine ⟨houter.trans ?_, hinner.trans ?_⟩
  · decide +kernel
  · decide +kernel

end Session

end Reindent
