-- SUMMARY: A session: the settings and the tally in force, and the blocks that change them for a while.
import Reindent.Tally

/-! # Sessions

Runs without settings of their own take those in force. A settings block puts other settings in
force and a tally block starts a new tally; leaving a block brings back what was in force when it
was entered, whatever happened inside. -/

namespace Reindent

/-- A block that has been entered, with what it brings back. -/
inductive Block where
  | settings (before : Settings)
  | tally (before : Option Nat)
  deriving DecidableEq, Repr

/-- What a call is to format. -/
inductive Call where
  | text (source : Text)
  /-- A stream, into a sink. A call on files is one of these too, once both of them are open. -/
  | stream (source : Stream) (sink : Sink) (file : Option Text)

/-- What comes of a call under the settings. -/
def Call.run (settings : Settings) : Call → Report
  | .text source => formatStream (Reads.counted (Reads.ofText source)) {} settings none
  | .stream source sink file => formatStream source sink settings file

/-- What a call on a text returns. -/
def Report.output (report : Report) : Except Failure Text :=
  report.result.map fun _ => report.sink.content

structure Session where
  settings : Settings := {}
  /-- The tally in force, by its number. -/
  current : Option Nat := none
  /-- All tallies started so far. -/
  tallies : List Tally := []
  /-- The blocks entered and not left, innermost first. -/
  blocks : List Block := []
  deriving DecidableEq, Repr

namespace Session

/-! ## Settings and blocks -/

def configure (s : Session) (settings : Settings) : Session :=
  { s with settings }

def reset (s : Session) : Session :=
  { s with settings := {} }

def enterSettings (s : Session) (settings : Settings) : Session :=
  { s with settings, blocks := .settings s.settings :: s.blocks }

def enterTally (s : Session) : Session :=
  { s with
    current := some s.tallies.length
    tallies := s.tallies ++ [{}]
    blocks := .tally s.current :: s.blocks }

/-- Leaves the innermost block, be it at its end or because of a failure inside. -/
def leave (s : Session) : Session :=
  match s.blocks with
  | [] => s
  | .settings before :: blocks => { s with settings := before, blocks }
  | .tally before :: blocks => { s with current := before, blocks }

/-! ## Counting and formatting -/

/-- Counts a run on the tally with the given number, in force or not. -/
def record (s : Session) (tally : Nat) (chars tags lines : Int) : Session :=
  { s with tallies := s.tallies.modify tally (·.record chars tags lines) }

/-- Counts a run on the tally in force, if there is one. -/
def count (s : Session) (counts : Counts) : Session :=
  match s.current with
  | none => s
  | some tally => { s with tallies := s.tallies.modify tally (·.add counts) }

/-- Formats with the given settings, or with those in force. Only a success is counted. -/
def format (s : Session) (call : Call) (settings? : Option Settings) : Report × Session :=
  let report := call.run (settings?.getD s.settings)
  match report.result with
  | .ok counts => (report, s.count counts)
  | .error _ => (report, s)

/-- Formats apart from the session, as in a new one. -/
def formatApart (call : Call) (settings? : Option Settings) : Report :=
  (format {} call settings?).1

end Session

end Reindent
