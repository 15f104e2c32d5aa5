-- SUMMARY: What the successive reads of a source give: chunks of text, faults, and the end.
import Reindent.Fault

/-! # Reads

A source is described by what it answers to one read after another. An empty chunk tells the reader
that the source has ended. The number of characters asked for is the same at every read, so a
stream is a family of reads, one for each such number. -/

namespace Reindent

inductive Reads where
  /-- Every read gives the empty chunk. -/
  | ended
  /-- Every read fails. -/
  | broken (fault : Fault)
  | text (chunk : Text) (next : Reads)
  /-- This read fails and uses nothing up. -/
  | fault (fault : Fault) (next : Reads)
  deriving DecidableEq, Repr

/-- The reads of a source, by the number of characters asked for. -/
abbrev Stream := Nat → Reads

namespace Reads

/-- Characters still to come, plus one for each read that differs from the last. -/
def size : Reads → Nat
  | .ended | .broken _ => 0
  | .text chunk next => chunk.length + 1 + next.size
  | .fault _ next => 1 + next.size

/-! ## Sources of a given text -/

/-- Reads of `size` characters as long as there are so many, then whatever `close` makes of the
    rest. -/
def chop (size : Nat) (close : Text → Reads) (t : Text) : Reads :=
  match t with
  | [] => close []
  | c :: rest =>
    if size = 0 ∨ (t.drop (size - 1)).isEmpty then close t
    else .text (c :: rest.take (size - 1)) (chop size close (rest.drop (size - 1)))
termination_by t.length
decreasing_by
  simp only [List.length_drop, List.length_cons]
  omega

/-- A source that holds `t`. Asked for nothing, it gives nothing. -/
def ofText (t : Text) : Stream := fun size =>
  if size = 0 then .ended
  else chop size (fun rest => if rest.isEmpty then .ended else .text rest .ended) t

/-- A source of which `t` can be read. The first read that would go beyond fails, and so does every
    later one. -/
def upTo (fault : Fault) (t : Text) : Stream := fun size =>
  if size = 0 then .ended else chop size (fun _ => .broken fault) t

/-- A stream that can be asked only for numbers of characters that are counts. -/
def counted (stream : Stream) : Stream := fun size =>
  if size ≤ Capacity.count then stream size else .broken (.excess .count)

/-- A source that gives the chunks as they are, whatever it is asked for. -/
def ofChunks : List Text → Reads
  | [] => .ended
  | chunk :: chunks => .text chunk (ofChunks chunks)

end Reads

end Reindent
