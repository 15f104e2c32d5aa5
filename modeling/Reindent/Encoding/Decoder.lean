-- SUMMARY: Reading a file block by block: how much is asked for, and what each block gives.
import Reindent.Encoding.Bytes
import Reindent.Reads

/-! # Decoders

A file is read in blocks of bytes, each decoded as a whole. A character cut by the end of a block is
carried into the next one, and the offsets of an error count from the first byte that was not yet
decoded when its block was read. A `\r` at the end of a block is held back until more text comes or
the file ends, so that a `\r\n` is never cut in two. -/

namespace Reindent

/-- A decoder between two blocks. -/
structure Decoder where
  encoding : Encoding
  /-- The bytes of a character that the last block cut. -/
  carried : Bytes := []
  /-- The text held back. -/
  held : Text := []
  /-- Characters given so far. -/
  given : Nat := 0
  /-- Bytes of the last block. -/
  lastBytes : Nat := 0
  /-- Characters that the last block gave. -/
  lastChars : Nat := 0
  deriving DecidableEq, Repr

namespace Decoder

/-! ## Asking for bytes -/

/-- No block asked for is smaller. -/
def leastBlock : Nat := 8192

/-- Estimates are rounded to 53 binary digits, which from here on gives a number that is no count. -/
def leastUncounted : Nat := 0x7FFFFFFFFFFFFE00

/-- Bytes that the characters which a read of `size` still lacks will take: as many for each as in
    the last block, and at least one. -/
def estimate (d : Decoder) (size : Nat) : Nat :=
  let missing := size - d.given % size
  max missing (missing * d.lastBytes / d.lastChars)

/-- The bytes of the next block. An estimate that is no count is disregarded. -/
def blockSize (d : Decoder) (size : Nat) : Nat :=
  if leastUncounted ≤ d.estimate size then leastBlock else max leastBlock (d.estimate size)

/-- The number of bytes asked for next, for which memory has to have room. -/
def request (d : Decoder) (memory size : Nat) : Except Excess Nat :=
  if memory < d.blockSize size then .error .memory else .ok (d.blockSize size)

/-! ## Taking blocks -/

/-- Cuts off a `\r` at the end. -/
def holdBack (t : Text) : Text × Text :=
  if t.getLast? = some '\r' then (t.dropLast, ['\r']) else (t, [])

/-- Takes a block, and gives the text that is complete with it. A bad block gives none at all. -/
def take (d : Decoder) (block : Bytes) : Except DecodeError (Text × Decoder) :=
  let next (decoded : Text) (carried : Bytes) : Text × Decoder :=
    let (text, held) := holdBack (d.held ++ decoded)
    (text,
      { d with
        carried, held
        given := d.given + text.length
        lastBytes := block.length
        lastChars := text.length })
  match d.encoding.decodeBlock (d.carried ++ block) with
  | (decoded, .complete) => .ok (next decoded [])
  | (decoded, .inside carried) => .ok (next decoded carried)
  | (_, .bad offset run reason) => .error ⟨d.encoding, offset, run, reason⟩

/-- What stands against asking for more. -/
def refusal? (d : Decoder) (memory size : Nat) : Option Fault :=
  match d.request memory size with
  | .error e => some (.excess e)
  | .ok _ => none

/-- The end of the file gives what was held back, unless a character is still incomplete. After that
    it takes one more request to see that nothing is left. -/
def finish (d : Decoder) (memory size : Nat) : Text × Option Fault :=
  match d.carried, d.held with
  | [], [] => ([], none)
  | [], held =>
    (held, refusal? { d with given := d.given + held.length, lastBytes := 0 } memory size)
  | cut, _ => ([], some (.undecodable ⟨d.encoding, 0, cut, .cutShort⟩))

/-- The text that reads of `size` characters can get at, and what stops them from getting more. -/
def run (d : Decoder) (memory size : Nat) (bytes : Bytes) : Text × Option Fault :=
  match d.request memory size with
  | .error e => ([], some (.excess e))
  | .ok n =>
    match bytes with
    | [] => d.finish memory size
    | b :: rest =>
      match d.take (b :: rest.take (n - 1)) with
      | .ok (text, d) =>
        let (others, stop) := d.run memory size (rest.drop (n - 1))
        (text ++ others, stop)
      | .error e => ([], some (.undecodable e))
termination_by bytes.length
decreasing_by
  simp only [List.length_drop, List.length_cons]
  omega

end Decoder

namespace Encoding

/-- The text of a file as a stream. -/
def stream (encoding : Encoding) (memory : Nat) (bytes : Bytes) : Stream :=
  Reads.counted fun size =>
    match Decoder.run { encoding } memory size bytes with
    | (text, none) => Reads.ofText text size
    | (text, some fault) => Reads.upTo fault text size

end Encoding

end Reindent
