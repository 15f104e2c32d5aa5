-- SUMMARY: Whole runs of the formatter, over streams and over texts.
import Reindent.Formatter.Progress
import Reindent.Log

/-! # Runs -/

namespace Reindent

/-- Formats what is left of the document. -/
def Formatter.run (f : Formatter) : Except Failure Unit × Formatter :=
  if f.cursor.atEnd then f.finish
  else
    match _h : f.step with
    | (.ok (), g) => g.run
    | (.error e, g) => (.error e, g)
termination_by f.remaining
decreasing_by exact Formatter.remaining_step_lt _h

namespace Formatter

theorem run_of_atEnd {f : Formatter} (h : f.cursor.atEnd = true) : f.run = f.finish := by
  rw [run, if_pos h]

theorem run_of_step_ok {f g : Formatter} (h : ¬ f.cursor.atEnd = true)
    (hstep : f.step = (.ok (), g)) : f.run = g.run := by
  rw [run, if_neg h]
  split
  · rename_i hstep'
    rw [hstep] at hstep'
    cases hstep'
    rfl
  · rename_i hstep'
    rw [hstep] at hstep'
    cases hstep'

theorem run_of_step_error {f g : Formatter} {e : Failure} (h : ¬ f.cursor.atEnd = true)
    (hstep : f.step = (.error e, g)) : f.run = (.error e, g) := by
  rw [run, if_neg h]
  split
  · rename_i hstep'
    rw [hstep] at hstep'
    cases hstep'
  · rename_i hstep'
    rw [hstep] at hstep'
    cases hstep'
    rfl

end Formatter

/-- What a run has counted. -/
structure Counts where
  /-- Characters that the source gave. -/
  chars : Nat := 0
  tags : Nat := 0
  lines : Nat := 0
  deriving DecidableEq, Repr

def Formatter.counts (f : Formatter) : Counts :=
  { chars := f.cursor.feed.delivered, tags := f.tags, lines := f.lines }

/-- What came of formatting a stream. -/
structure Report where
  result : Except Failure Counts
  sink : Sink
  events : List Log.Event

/-- Formats the document in `stream` into `sink`. -/
def formatStream (stream : Stream) (sink : Sink) (settings : Settings) (file : Option Text) :
    Report :=
  match Formatter.start stream sink settings file with
  | .error e => { result := .error e, sink, events := [] }
  | .ok f =>
    match f.run with
    | (.ok (), g) =>
      { result := .ok g.counts, sink := g.sink, events := [.began file, .finished g.tags g.lines] }
    | (.error e, g) => { result := .error e, sink := g.sink, events := [.began file] }

/-- Formats a document held in memory: the formatted text and what was counted on the way. -/
def formatText (settings : Settings) (source : Text) : Except Failure (Text × Counts) :=
  let report := formatStream (Reads.counted (Reads.ofText source)) {} settings none
  report.result.map fun counts => (report.sink.content, counts)

end Reindent
