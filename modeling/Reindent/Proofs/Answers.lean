-- SUMMARY: What a source answers to one read after another, and how much of it a passage hears.
import Mathlib.Data.Set.Finite.Lattice
import Reindent.Feed

/-! # Answers

A source answers each read with a chunk or with a fault. `Reads.Gives` lists its next answers, and
`Source` is the case of a source that is asked without end. Whatever reads from a source hears a list
of answers. It hears no more than these if it comes to the same whatever the source would answer after
them; `Feed.Passage` says so of a passage through the text, which hears chunks until it has found its
place, and at most one answer that is none: `Feed.exists_passage`. -/

namespace Reindent

/-- What a source answers to a read: a chunk, or a fault. -/
abbrev Answer := Except Fault Text

namespace Answer

/-- The text that comes with an answer. -/
def text : Answer → Text
  | .ok chunk => chunk
  | .error _ => []

/-- The answer is a chunk with text in it, so the source goes on. -/
def IsChunk (a : Answer) : Prop :=
  a.text ≠ []

theorem not_isChunk_empty : ¬ IsChunk (.ok []) :=
  fun h => h rfl

theorem not_isChunk_fault (fault : Fault) : ¬ IsChunk (.error fault) :=
  fun h => h rfl

end Answer

/-! ## Reads -/

namespace Reads

/-- The answer to the next read, and the reads behind it. -/
def next : Reads → Answer × Reads
  | .ended => (.ok [], .ended)
  | .broken first => (.error first, .broken first)
  | .text chunk next => (.ok chunk, next)
  | .fault first next => (.error first, next)

/-- The next answers are `log`, and then the reads go on as `rest`. -/
def Gives : Reads → List Answer → Reads → Prop
  | reads, [], rest => reads = rest
  | reads, a :: log, rest => reads.next.1 = a ∧ reads.next.2.Gives log rest

theorem gives_nil (reads : Reads) : reads.Gives [] reads :=
  rfl

theorem gives_next (reads : Reads) : reads.Gives [reads.next.1] reads.next.2 :=
  ⟨rfl, rfl⟩

theorem Gives.next_eq {reads rest : Reads} {a : Answer} (h : reads.Gives [a] rest) :
    reads.next = (a, rest) :=
  Prod.ext h.1 h.2

theorem gives_append {reads rest : Reads} {log others : List Answer} :
    reads.Gives (log ++ others) rest ↔ ∃ mid, reads.Gives log mid ∧ mid.Gives others rest := by
  induction log generalizing reads with
  | nil => simp [Gives]
  | cons a log ih => simp [Gives, ih, and_assoc]

/-- Of two lists of answers to the same reads one is the beginning of the other. -/
theorem Gives.comparable {reads rest rest' : Reads} {log log' : List Answer}
    (h : reads.Gives log rest) (h' : reads.Gives log' rest') : log <+: log' ∨ log' <+: log := by
  induction log generalizing reads log' with
  | nil => exact .inl List.nil_prefix
  | cons a log ih =>
    cases log' with
    | nil => exact .inr List.nil_prefix
    | cons a' log' =>
      obtain ⟨rfl, h⟩ := h
      obtain ⟨rfl, h'⟩ := h'
      simpa only [List.cons_prefix_cons, true_and] using ih h h'

/-- Reads can begin with any answers. -/
theorem exists_gives (log : List Answer) (rest : Reads) : ∃ reads : Reads, reads.Gives log rest := by
  induction log with
  | nil => exact ⟨rest, rfl⟩
  | cons a log ih =>
    obtain ⟨reads, h⟩ := ih
    cases a with
    | ok chunk => exact ⟨.text chunk reads, rfl, h⟩
    | error fault => exact ⟨.fault fault reads, rfl, h⟩

end Reads

/-! ## What one call hears -/

/-- How a reader hears the answers to its reads in one call. The two flags say whether it is at the end
    of the text, before the call and after it. As long as there are chunks it may go on. The empty
    chunk is the end, once and for all, and a fault makes the call fail. -/
inductive Course (failed : Prop) : Bool → List Answer → Bool → Prop where
  | silent : Course failed true [] true
  | chunks {log : List Answer} (h : ∀ a ∈ log, Answer.IsChunk a) : Course failed false log false
  | ended {log : List Answer} (h : ∀ a ∈ log, Answer.IsChunk a) :
      Course failed false (log ++ [.ok []]) true
  | fault {log : List Answer} (h : ∀ a ∈ log, Answer.IsChunk a) (fault : Fault) (hfailed : failed) :
      Course failed false (log ++ [.error fault]) false

namespace Course

variable {failed failed' : Prop} {before mid after : Bool} {log others : List Answer}

theorem imp (h : Course failed before log after) (himp : failed → failed') :
    Course failed' before log after := by
  cases h with
  | silent => exact .silent
  | chunks h => exact .chunks h
  | ended h => exact .ended h
  | fault h fault hfailed => exact .fault h fault (himp hfailed)

/-- A call may hear nothing. -/
theorem nil (before : Bool) : Course failed before [] before := by
  cases before with
  | true => exact .silent
  | false => exact .chunks (List.forall_mem_nil _)

/-- Chunks may come in front. -/
theorem chunks_append (hlog : ∀ a ∈ log, Answer.IsChunk a) (h : Course failed false others after) :
    Course failed false (log ++ others) after := by
  cases h with
  | chunks h => exact .chunks (List.forall_mem_append.2 ⟨hlog, h⟩)
  | ended h =>
    rw [← List.append_assoc]
    exact .ended (List.forall_mem_append.2 ⟨hlog, h⟩)
  | fault h fault hfailed =>
    rw [← List.append_assoc]
    exact .fault (List.forall_mem_append.2 ⟨hlog, h⟩) fault hfailed

/-- A call that has not failed may be the first part of another one. -/
theorem append (h : Course False before log mid) (h' : Course failed mid others after) :
    Course failed before (log ++ others) after := by
  cases h with
  | silent => exact h'
  | chunks h => exact h'.chunks_append h
  | ended h =>
    cases h'
    rw [List.append_nil]
    exact .ended h
  | fault h fault hfalse => exact hfalse.elim

/-- At the end there is nothing more to hear. -/
theorem eq_nil (h : Course failed true log after) : log = [] ∧ after = true := by
  cases h
  exact ⟨rfl, rfl⟩

/-- What is not the last answer is a chunk. -/
theorem isChunk_of_append (h : Course failed before (log ++ others) after) (hne : others ≠ []) :
    before = false ∧ ∀ a ∈ log, Answer.IsChunk a := by
  generalize hall : log ++ others = all at h
  have hlast {front : List Answer} {last : Answer} (hfront : ∀ a ∈ front, Answer.IsChunk a)
      (hall : log ++ others = front ++ [last]) : ∀ a ∈ log, Answer.IsChunk a := by
    have hdrop := congrArg List.dropLast hall
    rw [List.dropLast_append_of_ne_nil hne, List.dropLast_concat] at hdrop
    intro a ha
    exact hfront a (hdrop ▸ List.mem_append_left _ ha)
  cases h with
  | silent => exact absurd (List.append_eq_nil_iff.1 hall).2 hne
  | chunks h => exact ⟨rfl, fun a ha => h a (hall ▸ List.mem_append_left _ ha)⟩
  | ended h => exact ⟨rfl, hlast h hall⟩
  | fault h => exact ⟨rfl, hlast h hall⟩

/-- The empty chunk is the last answer that is heard. -/
theorem eq_concat (h : Course failed before log after) (hmem : Except.ok [] ∈ log) :
    after = true ∧ ∃ front, log = front ++ [.ok []] ∧ ∀ a ∈ front, Answer.IsChunk a := by
  cases h with
  | silent => cases hmem
  | chunks h => exact absurd (h _ hmem) Answer.not_isChunk_empty
  | ended h => exact ⟨rfl, _, rfl, h⟩
  | fault h fault =>
    rcases List.mem_append.1 hmem with hmem | hmem
    · exact absurd (h _ hmem) Answer.not_isChunk_empty
    · cases List.mem_singleton.1 hmem

end Course

/-! ## Sources that are asked without end -/

/-- What a source answers to its reads, counted from 0, however many there are. -/
abbrev Source := Nat → Answer

namespace Source

variable {source : Source} {i j m n : Nat}

/-- The `n` answers from number `i` on. -/
def answers (source : Source) (i n : Nat) : List Answer :=
  (List.range' i n).map source

/-- The text of the first `n` answers. -/
def delivered (source : Source) (n : Nat) : Text :=
  (source.answers 0 n).flatMap Answer.text

/-- The reads that bring text before the source has ended. -/
def chunks (source : Source) : Set Nat :=
  {i | Answer.IsChunk (source i) ∧ ∀ j < i, source j ≠ .ok []}

@[simp] theorem length_answers : (source.answers i n).length = n := by
  simp [answers]

theorem answers_add : source.answers i (m + n) = source.answers i m ++ source.answers (i + m) n := by
  rw [answers, ← List.range'_append_1, List.map_append]
  rfl

theorem mem_answers (hi : i ≤ j) (hj : j < i + n) : source j ∈ source.answers i n :=
  List.mem_map_of_mem (List.mem_range'_1.2 ⟨hi, hj⟩)

theorem delivered_add :
    source.delivered (m + n) = source.delivered m ++ (source.answers m n).flatMap Answer.text := by
  rw [delivered, answers_add, List.flatMap_append, Nat.zero_add]
  rfl

/-- A list of answers that agrees with those of the source as far as it goes. -/
theorem eq_answers_of_prefix {log : List Answer} (h : log <+: source.answers i n) :
    log = source.answers i log.length := by
  have hle : log.length ≤ n := by simpa using h.length_le
  obtain ⟨m, rfl⟩ := Nat.exists_eq_add_of_le hle
  rw [answers_add] at h
  obtain ⟨others, hothers⟩ := h
  exact List.append_inj_left hothers length_answers.symm

/-- An answer that is not among those in front of the last one is the last one. -/
theorem eq_of_not_mem {front : List Answer} {last : Answer}
    (h : source.answers i n = front ++ [last]) (hi : i ≤ j) (hj : j < i + n)
    (hmem : source j ∉ front) : i + n = j + 1 := by
  have hn : n = front.length + 1 := by simpa using congrArg List.length h
  subst hn
  rw [answers_add] at h
  by_contra hne
  apply hmem
  rw [← List.append_inj_left h length_answers]
  exact mem_answers hi (by omega)

/-- If a source brings text in finitely many reads only, what one call can hear of it is heard of reads
    that know finitely many of its answers: one of these is no chunk, and there the call stops. -/
theorem exists_reads (hfinite : source.chunks.Finite) (i : Nat) {before : Bool}
    (hbefore : before = false → ∀ j < i, source j ≠ .ok []) :
    ∃ reads : Reads, ∀ {log rest failed after}, reads.Gives log rest →
      Course failed before log after → log = source.answers i log.length := by
  obtain ⟨bound, hbound⟩ := hfinite.bddAbove
  -- The read with this number brings no text unless the source has ended before it.
  obtain ⟨last, hi, hlast⟩ : ∃ last, i ≤ last ∧ bound < last :=
    ⟨i + bound + 1, by omega, by omega⟩
  obtain ⟨n, hn⟩ : ∃ n, i + n = last + 1 := ⟨last + 1 - i, by omega⟩
  obtain ⟨reads, hreads⟩ := Reads.exists_gives (source.answers i n) .ended
  refine ⟨reads, fun {log rest failed after} hgives hcourse => ?_⟩
  rcases hgives.comparable hreads with hprefix | ⟨others, rfl⟩
  · exact eq_answers_of_prefix hprefix
  · by_cases hothers : others = []
    · rw [hothers, List.append_nil, length_answers]
    · obtain ⟨hgoing, hchunks⟩ := hcourse.isChunk_of_append hothers
      have hmem : last ∈ source.chunks := by
        refine ⟨hchunks _ (mem_answers hi (by omega)), fun j hj hempty => ?_⟩
        by_cases hji : j < i
        · exact hbefore hgoing j hji hempty
        · have hchunk := hchunks _ (mem_answers (not_lt.1 hji) (by omega))
          rw [hempty] at hchunk
          exact Answer.not_isChunk_empty hchunk
      exact absurd (hbound hmem) (not_le.2 hlast)

end Source

/-! ## Passages -/

namespace Feed

/-- The text in the window. -/
def ahead (f : Feed) : Text :=
  f.window.getD []

variable {cut : Text → Option (Text × Text)} {keep : Text → Text} {window : Text}
  {delivered : Nat} {reads rest : Reads}

theorem refill_of_fault {f : Feed} {fault : Fault} (h : f.reads.next = (.error fault, rest)) :
    refill f = (.error fault, { f with reads := rest }) := by
  obtain ⟨window, reads, delivered⟩ := f
  cases reads <;> cases h <;> rfl

/-- A chunk takes the place of the window. The empty one leaves none. -/
theorem refill_of_chunk {f : Feed} {chunk : Text} (h : f.reads.next = (.ok chunk, rest)) :
    refill f = (.ok (), ⟨if chunk = [] then none else some chunk, rest,
      f.delivered + chunk.length⟩) := by
  obtain ⟨window, reads, delivered⟩ := f
  cases reads <;> cases h
  · rfl
  · by_cases hchunk : chunk = [] <;> simp [refill, hchunk]

theorem pass_of_cut {before after : Text} (h : cut window = some (before, after)) :
    pass cut keep window delivered reads = (before, .found, ⟨some after, reads, delivered⟩) := by
  cases reads <;> simp [pass, h]

theorem pass_of_fault {fault : Fault} (h : cut window = none)
    (hnext : reads.next = (.error fault, rest)) :
    pass cut keep window delivered reads =
      (window, .failed fault, ⟨some (keep window), rest, delivered⟩) := by
  cases reads <;> cases hnext <;> simp [pass, h]

theorem pass_of_end (h : cut window = none) (hnext : reads.next = (.ok [], rest)) :
    pass cut keep window delivered reads = (window, .ended, ⟨none, rest, delivered⟩) := by
  cases reads <;> cases hnext <;> simp [pass, h]

theorem pass_of_chunk {chunk : Text} (h : cut window = none) (hne : chunk ≠ [])
    (hnext : reads.next = (.ok chunk, rest)) :
    pass cut keep window delivered reads =
      (window ++ (pass cut keep chunk (delivered + chunk.length) rest).1,
        (pass cut keep chunk (delivered + chunk.length) rest).2) := by
  cases reads <;> cases hnext
  · exact absurd rfl hne
  · rw [pass]
    simp [h, hne]

/-- A passage hears `log` and no more, and comes to `passed`, `landing` and `feed`, whatever the source
    would answer after that. What is in front of the reader then was there before or has come with the
    answers. -/
structure Passage (cut : Text → Option (Text × Text)) (keep : Text → Text) (window : Text)
    (delivered : Nat) (log : List Answer) (passed : Text) (landing : Landing) (feed : Feed) :
    Prop where
  outcome {reads rest : Reads} : reads.Gives log rest →
    pass cut keep window delivered reads = (passed, landing, { feed with reads := rest })
  course : Course (∃ fault, landing = .failed fault) false log feed.window.isNone
  ahead : feed.ahead <:+ window ++ log.flatMap Answer.text
  delivered : feed.delivered = delivered + (log.flatMap Answer.text).length

namespace Passage

theorem found {before after : Text} (hcut : cut window = some (before, after))
    (hafter : after <:+ window) :
    Passage cut keep window delivered [] before .found ⟨some after, .ended, delivered⟩ where
  outcome hgives := by
    rw [pass_of_cut hcut, hgives]
  course := .nil false
  ahead := by simpa [Feed.ahead] using hafter
  delivered := rfl

theorem ended (hcut : cut window = none) :
    Passage cut keep window delivered [.ok []] window .ended ⟨none, .ended, delivered⟩ where
  outcome hgives := pass_of_end hcut hgives.next_eq
  course := .ended (List.forall_mem_nil _)
  ahead := List.nil_suffix
  delivered := rfl

theorem failed (hcut : cut window = none) (hkeep : keep window <:+ window) (fault : Fault) :
    Passage cut keep window delivered [.error fault] window (.failed fault)
      ⟨some (keep window), .ended, delivered⟩ where
  outcome hgives := pass_of_fault hcut hgives.next_eq
  course := .fault (List.forall_mem_nil _) fault ⟨fault, rfl⟩
  ahead := by simpa [Feed.ahead, Answer.text] using hkeep
  delivered := rfl

/-- One chunk more. -/
theorem cons {chunk : Text} (hcut : cut window = none) (hne : chunk ≠ []) {log : List Answer}
    {passed : Text} {landing : Landing} {feed : Feed}
    (h : Passage cut keep chunk (delivered + chunk.length) log passed landing feed) :
    Passage cut keep window delivered (.ok chunk :: log) (window ++ passed) landing feed where
  outcome hgives := by
    obtain ⟨hfirst, hgives⟩ := hgives
    rw [pass_of_chunk hcut hne (Prod.ext hfirst rfl), h.outcome hgives]
  course := by
    have hchunk : ∀ a ∈ [(.ok chunk : Answer)], Answer.IsChunk a := List.forall_mem_singleton.2 hne
    exact h.course.chunks_append hchunk
  ahead := h.ahead.trans (List.suffix_append window _)
  delivered := by
    rw [h.delivered, List.flatMap_cons, List.length_append, Nat.add_assoc]
    rfl

end Passage

section

variable (cut keep)
variable (hcut : ∀ {t before after}, cut t = some (before, after) → after <:+ t)
  (hkeep : ∀ t, keep t <:+ t)

include hcut hkeep

/-- A passage hears no answer, or the next one is its last, if that is no chunk. -/
theorem exists_passage_of_last (window : Text) (delivered : Nat)
    (hlast : ¬ Answer.IsChunk reads.next.1) :
    ∃ log rest passed landing feed, reads.Gives log rest ∧
      Passage cut keep window delivered log passed landing feed := by
  cases hwindow : cut window with
  | some parts => exact ⟨_, _, _, _, _, reads.gives_nil, .found hwindow (hcut hwindow)⟩
  | none =>
    have hgives := reads.gives_next
    cases hnext : reads.next.1 with
    | ok chunk =>
      have hempty : chunk = [] := by
        rw [hnext] at hlast
        exact not_not.1 hlast
      rw [hnext, hempty] at hgives
      exact ⟨_, _, _, _, _, hgives, .ended hwindow⟩
    | error fault =>
      rw [hnext] at hgives
      exact ⟨_, _, _, _, _, hgives, .failed hwindow (hkeep window) fault⟩

/-- Every passage comes to an end, and hears no more than it has to. -/
theorem exists_passage (window : Text) (delivered : Nat) (reads : Reads) :
    ∃ log rest passed landing feed, reads.Gives log rest ∧
      Passage cut keep window delivered log passed landing feed := by
  induction reads generalizing window delivered with
  | ended | broken | fault =>
    exact exists_passage_of_last cut keep hcut hkeep window delivered fun h => h rfl
  | text chunk next ih =>
    cases hwindow : cut window with
    | some parts => exact ⟨_, _, _, _, _, Reads.gives_nil _, .found hwindow (hcut hwindow)⟩
    | none =>
      by_cases hchunk : chunk = []
      · exact exists_passage_of_last cut keep hcut hkeep window delivered fun h => h hchunk
      · obtain ⟨log, rest, passed, landing, feed, hgives, hpassage⟩ :=
          ih chunk (delivered + chunk.length)
        exact ⟨.ok chunk :: log, rest, _, _, _, ⟨rfl, hgives⟩, hpassage.cons hwindow hchunk⟩

end

end Feed

end Reindent
