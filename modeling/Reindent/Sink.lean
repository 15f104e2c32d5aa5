-- SUMMARY: The destination of a document: what was written to it and what it refuses.
import Reindent.Encoding.Bytes
import Reindent.Fault

/-! # Sinks

A sink takes texts one by one, and takes each whole or not at all. -/

namespace Reindent

structure Sink where
  /-- Why the write with this number, counted from 0, is refused for this text. -/
  refuses : Nat → Text → Option Fault := fun _ _ => none
  /-- Writes tried so far. -/
  calls : Nat := 0
  /-- The texts written, latest first. -/
  latest : List Text := []

namespace Sink

/-- A sink that takes what an encoding can carry. -/
def encoded (encoding : Encoding) : Sink :=
  { refuses := fun _ t => (encoding.unencodable? t).map .unencodable }

/-- A refused write leaves nothing behind. -/
def write (s : Sink) (t : Text) : Except Fault Unit × Sink :=
  match s.refuses s.calls t with
  | some fault => (.error fault, { s with calls := s.calls + 1 })
  | none => (.ok (), { s with calls := s.calls + 1, latest := t :: s.latest })

/-- The texts written, in order. -/
def written (s : Sink) : List Text :=
  s.latest.reverse

def content (s : Sink) : Text :=
  s.written.flatten

end Sink

end Reindent
