-- SUMMARY: Counters over any number of runs.
import Reindent.Formatter.Run

/-! # Tallies -/

namespace Reindent

structure Tally where
  /-- Runs that succeeded. -/
  documents : Int := 0
  chars : Int := 0
  tags : Int := 0
  lines : Int := 0
  deriving DecidableEq, Repr

/-- Counts one more run. -/
def Tally.record (t : Tally) (chars tags lines : Int) : Tally :=
  { documents := t.documents + 1
    chars := t.chars + chars
    tags := t.tags + tags
    lines := t.lines + lines }

def Tally.add (t : Tally) (counts : Counts) : Tally :=
  t.record counts.chars counts.tags counts.lines

end Reindent
