-- SUMMARY: What is in force in a session, and what its blocks bring back.
import Mathlib.Data.List.Induction
import Reindent.Session

/-! # Blocks of a session

A session is a sequence of events. Blocks are entered and left among them, always the innermost one
first, and settings and tallies are put in force in between. What a block brings back is written down
when it is entered, so it is enough to follow the blocks that are open: `stands_after`. It follows that
nothing outside a block notices what was done in it, and that the settings in force can be found by
looking back over the events, blocks that have been left being skipped: `after_wellBracketed`. -/

namespace Reindent.Session

/-! ## Events -/

/-- What can be done in a session. A block is left at its end and by a failure in the same way. -/
inductive Event where
  | configure (settings : Settings)
  | reset
  | format (call : Call) (settings? : Option Settings)
  | formatApart (call : Call) (settings? : Option Settings)
  | record (tally : Nat) (chars tags lines : Int)
  | enterSettings (settings : Settings)
  | leaveSettings
  | enterTally
  | leaveTally

def perform (s : Session) : Event → Session
  | .configure settings => s.configure settings
  | .reset => s.reset
  | .format call settings? => (s.format call settings?).2
  | .formatApart _ _ => s
  | .record tally chars tags lines => s.record tally chars tags lines
  | .enterSettings settings => s.enterSettings settings
  | .enterTally => s.enterTally
  | .leaveSettings | .leaveTally => s.leave

/-- The session after the events. -/
def after (s : Session) (events : List Event) : Session :=
  events.foldl perform s

theorem after_concat (s : Session) (events : List Event) (event : Event) :
    s.after (events ++ [event]) = (s.after events).perform event := by
  simp [after]

/-! ## Brackets -/

inductive BlockKind where
  | settings
  | tally
  deriving DecidableEq, Repr

/-- The blocks that are open once a block of the given kind is left; none if that is not the innermost
    one. -/
def leaving (kind : BlockKind) : List BlockKind → Option (List BlockKind)
  | [] => none
  | innermost :: outer => if innermost = kind then some outer else none

theorem leaving_eq_some_iff {kind : BlockKind} {kinds outer : List BlockKind} :
    leaving kind kinds = some outer ↔ kinds = kind :: outer := by
  cases kinds with
  | nil => simp [leaving]
  | cons innermost others => simp [leaving]

/-- The blocks that are open after an event, innermost first, if they are `kinds` before it. -/
def opened (kinds : List BlockKind) : Event → Option (List BlockKind)
  | .enterSettings _ => some (.settings :: kinds)
  | .enterTally => some (.tally :: kinds)
  | .leaveSettings => leaving .settings kinds
  | .leaveTally => leaving .tally kinds
  | _ => some kinds

/-- Every block that is entered is left, and no other. -/
def WellBracketed (events : List Event) : Prop :=
  events.foldlM opened [] = some []

instance (events : List Event) : Decidable (WellBracketed events) :=
  inferInstanceAs (Decidable (events.foldlM opened [] = some []))

/-! ## Looking back -/

/-- The settings in force after events, the latest one first, if `initial` were in force before them
    all. The search goes back to the last settings that were put in force, by themselves
    or with a block. Of a block that was left nothing counts; `left` is the number of such blocks that
    the search is in. -/
def lookBack (initial : Settings) (left : Nat) : List Event → Settings
  | [] => initial
  | event :: earlier =>
    match event, left with
    | .configure settings, 0 => settings
    | .reset, 0 => {}
    | .enterSettings settings, 0 => settings
    | .enterSettings _, left + 1 => lookBack initial left earlier
    | .leaveSettings, left => lookBack initial (left + 1) earlier
    | _, left => lookBack initial left earlier

/-! ## Following the blocks -/

/-- A formatting call changes nothing but the tallies. -/
theorem format_snd (s : Session) (call : Call) (settings? : Option Settings) :
    ∃ tallies, (s.format call settings?).2 = { s with tallies } := by
  unfold format
  dsimp only
  split
  · unfold count
    split
    · exact ⟨s.tallies, rfl⟩
    · exact ⟨_, rfl⟩
  · exact ⟨s.tallies, rfl⟩

theorem format_fst (s : Session) (call : Call) (settings? : Option Settings) :
    (s.format call settings?).1 = call.run (settings?.getD s.settings) := by
  unfold format
  dsimp only
  split <;> rfl

def kindOf : Block → BlockKind
  | .settings _ => .settings
  | .tally _ => .tally

def settingsOf? : Block → Option Settings
  | .settings before => some before
  | .tally _ => none

def tallyOf? : Block → Option (Option Nat)
  | .settings _ => none
  | .tally before => some before

/-- How the session `t` stands that has come from `s` by the events, with the blocks `inner` entered
    and not left. A block that brings back settings brings back those that were in force before it. -/
structure Stands (s : Session) (events : List Event) (kinds : List BlockKind) (t : Session)
    (inner : List Block) : Prop where
  blocks : t.blocks = inner ++ s.blocks
  kinds : inner.map kindOf = kinds
  settings : ∀ (left : Nat) settings,
    (t.settings :: inner.filterMap settingsOf?)[left]? = some settings →
    settings = lookBack s.settings left events.reverse
  current : (t.current :: inner.filterMap tallyOf?).getLast? = some s.current

theorem stands_start (s : Session) : Stands s [] [] s [] where
  blocks := rfl
  kinds := rfl
  settings left settings h := by
    cases left with
    | zero => exact (Option.some.inj h).symm
    | succ left => simp at h
  current := rfl

section

variable {s t : Session} {events : List Event} {kinds : List BlockKind} {inner : List Block}

/-- Events that neither put settings in force nor enter or leave a block. -/
theorem Stands.keep (h : Stands s events kinds t inner) {event : Event} (tallies : List Tally)
    (hevent : t.perform event = { t with tallies })
    (hback : ∀ left, lookBack s.settings left (event :: events.reverse) =
      lookBack s.settings left events.reverse) :
    Stands s (events ++ [event]) kinds (t.perform event) inner := by
  rw [hevent]
  refine { h with settings := ?_ }
  intro left settings hsettings
  rw [List.reverse_concat, hback]
  exact h.settings left settings hsettings

/-- Settings that are put in force by themselves. -/
theorem Stands.put (h : Stands s events kinds t inner) {event : Event} {settings : Settings}
    (hevent : t.perform event = { t with settings })
    (hback : lookBack s.settings 0 (event :: events.reverse) = settings)
    (hbehind : ∀ left, lookBack s.settings (left + 1) (event :: events.reverse) =
      lookBack s.settings (left + 1) events.reverse) :
    Stands s (events ++ [event]) kinds (t.perform event) inner := by
  rw [hevent]
  refine { h with settings := ?_ }
  intro left settings' hsettings
  rw [List.reverse_concat]
  cases left with
  | zero =>
    rw [hback]
    exact (Option.some.inj hsettings).symm
  | succ left =>
    rw [hbehind]
    exact h.settings (left + 1) settings' hsettings

theorem Stands.step (h : Stands s events kinds t inner) {event : Event} {kinds' : List BlockKind}
    (hopened : opened kinds event = some kinds') :
    ∃ inner', Stands s (events ++ [event]) kinds' (t.perform event) inner' := by
  cases event with
  | configure settings =>
    cases hopened
    exact ⟨inner, h.put rfl rfl fun _ => rfl⟩
  | reset =>
    cases hopened
    exact ⟨inner, h.put rfl rfl fun _ => rfl⟩
  | format call settings? =>
    cases hopened
    obtain ⟨tallies, htallies⟩ := t.format_snd call settings?
    exact ⟨inner, h.keep tallies htallies fun left => by cases left <;> rfl⟩
  | formatApart call settings? =>
    cases hopened
    exact ⟨inner, h.keep t.tallies rfl fun left => by cases left <;> rfl⟩
  | record tally chars tags lines =>
    cases hopened
    exact ⟨inner, h.keep _ rfl fun left => by cases left <;> rfl⟩
  | enterSettings settings =>
    cases hopened
    refine ⟨.settings t.settings :: inner, ?_, ?_, ?_, ?_⟩
    · exact congrArg _ h.blocks
    · exact congrArg _ h.kinds
    · intro left settings' hsettings
      rw [List.reverse_concat]
      cases left with
      | zero => exact (Option.some.inj hsettings).symm
      | succ left => exact h.settings left settings' hsettings
    · exact h.current
  | enterTally =>
    cases hopened
    refine ⟨.tally t.current :: inner, ?_, ?_, ?_, ?_⟩
    · exact congrArg _ h.blocks
    · exact congrArg _ h.kinds
    · intro left settings' hsettings
      rw [List.reverse_concat]
      have := h.settings left settings' hsettings
      cases left <;> exact this
    · exact h.current
  | leaveSettings =>
    obtain rfl := leaving_eq_some_iff.1 hopened
    obtain ⟨block, rest, rfl, hblock, hrest⟩ := List.map_eq_cons_iff.1 h.kinds
    cases block with
    | tally before => cases hblock
    | settings before =>
      have hleave : t.leave = { t with settings := before, blocks := rest ++ s.blocks } := by
        rw [leave, h.blocks]
        rfl
      refine ⟨rest, ?_⟩
      show Stands _ _ _ t.leave _
      rw [hleave]
      refine ⟨rfl, hrest, ?_, h.current⟩
      intro left settings' hsettings
      rw [List.reverse_concat]
      exact h.settings (left + 1) settings' hsettings
  | leaveTally =>
    obtain rfl := leaving_eq_some_iff.1 hopened
    obtain ⟨block, rest, rfl, hblock, hrest⟩ := List.map_eq_cons_iff.1 h.kinds
    cases block with
    | settings before => cases hblock
    | tally before =>
      have hleave : t.leave = { t with current := before, blocks := rest ++ s.blocks } := by
        rw [leave, h.blocks]
        rfl
      refine ⟨rest, ?_⟩
      show Stands _ _ _ t.leave _
      rw [hleave]
      refine ⟨rfl, hrest, ?_, h.current⟩
      intro left settings' hsettings
      rw [List.reverse_concat]
      have hback := h.settings left settings' hsettings
      cases left <;> exact hback

/-- How a session stands after events that leave only the innermost blocks. -/
theorem stands_after (h : events.foldlM opened [] = some kinds) (s : Session) :
    ∃ inner, Stands s events kinds (s.after events) inner := by
  induction events using List.reverseRecOn generalizing kinds with
  | nil =>
    cases h
    exact ⟨[], stands_start s⟩
  | append_singleton events event ih =>
    rw [List.foldlM_append] at h
    obtain ⟨before, hbefore, hevent⟩ := Option.bind_eq_some_iff.1 h
    obtain ⟨inner, hinner⟩ := ih hbefore
    rw [after_concat]
    refine hinner.step (?_ : opened before event = some kinds)
    simpa using hevent

/-- Well-bracketed events leave the blocks and the tally in force as they were. -/
theorem WellBracketed.after (h : WellBracketed events) (s : Session) :
    (s.after events).blocks = s.blocks ∧ (s.after events).current = s.current := by
  obtain ⟨inner, hinner⟩ := stands_after h s
  obtain rfl := List.map_eq_nil_iff.1 hinner.kinds
  exact ⟨hinner.blocks, Option.some.inj hinner.current⟩

/-- At every moment of well-bracketed events the settings in force are those that are found by looking
    back. -/
theorem WellBracketed.settings {rest : List Event} (h : WellBracketed (events ++ rest))
    (s : Session) : (s.after events).settings = lookBack s.settings 0 events.reverse := by
  rw [WellBracketed, List.foldlM_append] at h
  obtain ⟨kinds, hkinds, -⟩ := Option.bind_eq_some_iff.1 h
  obtain ⟨inner, hinner⟩ := stands_after hkinds s
  exact hinner.settings 0 _ rfl

/-- A settings block brings back the settings that were in force, whatever is done in it. -/
theorem WellBracketed.settings_block (h : WellBracketed events) (s : Session)
    (settings : Settings) :
    (s.after (.enterSettings settings :: (events ++ [.leaveSettings]))).settings = s.settings := by
  obtain ⟨hblocks, -⟩ := h.after (s.enterSettings settings)
  have hleft : s.after (.enterSettings settings :: (events ++ [.leaveSettings])) =
      ((s.enterSettings settings).after events).leave :=
    after_concat (s.enterSettings settings) events .leaveSettings
  rw [hleft, leave, hblocks]
  rfl

end

/-- The discipline of a session. Well-bracketed events leave the tally in force as it was, and a
    settings block around them brings back the settings that were in force. A formatting call among
    them without settings of its own takes those that are found by looking back, and no formatting
    call changes the settings or the tally in force. A call apart from the session is made with
    settings of its own or else the default ones, and without a tally, and changes nothing in the
    session. -/
theorem after_wellBracketed {events : List Event} (h : WellBracketed events) (s : Session) :
    (s.after events).current = s.current ∧
    (∀ settings,
      (s.after (.enterSettings settings :: (events ++ [.leaveSettings]))).settings = s.settings) ∧
    (∀ before call rest, events = before ++ .format call none :: rest →
      ((s.after before).format call none).1 = call.run (lookBack s.settings 0 before.reverse)) ∧
    (∀ before call settings? rest, events = before ++ .format call settings? :: rest →
      (s.after (before ++ [.format call settings?])).settings = (s.after before).settings ∧
        (s.after (before ++ [.format call settings?])).current = (s.after before).current) ∧
    ∀ before call settings? rest, events = before ++ .formatApart call settings? :: rest →
      formatApart call settings? = call.run (settings?.getD {}) ∧
        (format {} call settings?).2 = {} ∧
        s.after (before ++ [.formatApart call settings?]) = s.after before := by
  refine ⟨(h.after s).2, h.settings_block s, ?_, ?_, ?_⟩
  · rintro before call rest rfl
    rw [format_fst, Option.getD_none, h.settings]
  · rintro before call settings? rest rfl
    rw [after_concat]
    obtain ⟨tallies, htallies⟩ := (s.after before).format_snd call settings?
    rw [perform, htallies]
    exact ⟨rfl, rfl⟩
  · rintro before call settings? rest rfl
    refine ⟨format_fst {} call settings?, ?_, after_concat _ _ _⟩
    unfold format
    dsimp only
    split <;> rfl

/-- A call on a text returns what the text is formatted to. -/
theorem output_run_text (settings : Settings) (source : Text) :
    (Call.run settings (.text source)).output = (formatText settings source).map Prod.fst := by
  unfold formatText Call.run Report.output
  dsimp only
  cases (formatStream (Reads.counted (Reads.ofText source)) {} settings none).result <;> rfl

/-- Settings put in force in a tally block outlast it, those of a settings block do not. -/
theorem after_wellBracketed_nested :
    let tabs : Settings := { indent := ['\t'] }
    let before : List Event :=
      [.enterTally, .configure tabs, .enterSettings {}, .reset, .leaveSettings, .leaveTally]
    (after {} (before ++ [.format (.text ['<', 'a', '/', '>']) none])).current = none ∧
      ((after {} before).format (.text ['<', 'a', '/', '>']) none).1.output =
        (formatText tabs ['<', 'a', '/', '>']).map Prod.fst := by
  intro tabs before
  have h : WellBracketed (before ++ [.format (.text ['<', 'a', '/', '>']) none]) := by decide
  obtain ⟨hcurrent, -, hformat, -⟩ := after_wellBracketed h {}
  refine ⟨hcurrent, ?_⟩
  rw [hformat before _ [] rfl]
  exact output_run_text tabs _

end Reindent.Session
