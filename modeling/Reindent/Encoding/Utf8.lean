-- SUMMARY: UTF-8, read byte by byte and written character by character.
import Reindent.Encoding

/-! # UTF-8

The first byte of a character says how many more it has and in which range the next must lie. Bytes
are refused at the first one that no character can have there. -/

namespace Reindent.Utf8

/-! ## Reading -/

/-- A character begun: the ranges of the bytes it still owes and its bits so far. -/
structure Begun where
  owed : List (Nat × Nat)
  bits : Nat

/-- The range of a byte that continues a character. -/
def continuation : Nat × Nat := (0x80, 0xBF)

/-- What a first byte begins. -/
def begin? (b : Nat) : Option Begun :=
  if b ≤ 0x7F then some ⟨[], b⟩
  else if 0xC2 ≤ b ∧ b ≤ 0xDF then some ⟨[continuation], b - 0xC0⟩
  else if b = 0xE0 then some ⟨[(0xA0, 0xBF), continuation], 0⟩
  else if b = 0xED then some ⟨[(0x80, 0x9F), continuation], b - 0xE0⟩
  else if 0xE1 ≤ b ∧ b ≤ 0xEF then some ⟨[continuation, continuation], b - 0xE0⟩
  else if b = 0xF0 then some ⟨[(0x90, 0xBF), continuation, continuation], 0⟩
  else if 0xF1 ≤ b ∧ b ≤ 0xF3 then some ⟨[continuation, continuation, continuation], b - 0xF0⟩
  else if b = 0xF4 then some ⟨[(0x80, 0x8F), continuation, continuation], b - 0xF0⟩
  else none

/-- How a run of bytes ends. -/
inductive Ending where
  | complete
  /-- Inside a character, of which these bytes are there. -/
  | inside (held : Bytes)
  /-- At bytes, with their offset, that are no text. -/
  | bad (offset : Nat) (run : Bytes) (reason : DecodeReason)
  deriving DecidableEq, Repr

/-- Reads on at `offset`, inside a character that owes `owed` and of which `held` is there, or
    between two characters if it owes nothing. -/
def scan (offset : Nat) (held : Bytes) (owed : List (Nat × Nat)) (bits : Nat) :
    Bytes → Text × Ending
  | [] => ([], if owed.isEmpty then .complete else .inside held)
  | b :: rest =>
    match owed with
    | [] =>
      match begin? b.toNat with
      | none => ([], .bad offset [b] .badStart)
      | some ⟨[], code⟩ =>
        let (text, ending) := scan (offset + 1) [] [] 0 rest
        (Char.ofNat code :: text, ending)
      | some ⟨range :: ranges, code⟩ => scan (offset + 1) [b] (range :: ranges) code rest
    | (low, high) :: ranges =>
      if low ≤ b.toNat ∧ b.toNat ≤ high then
        let code := bits * 64 + (b.toNat - 0x80)
        match ranges with
        | [] =>
          let (text, ending) := scan (offset + 1) [] [] 0 rest
          (Char.ofNat code :: text, ending)
        | range :: others => scan (offset + 1) (held ++ [b]) (range :: others) code rest
      else ([], .bad (offset - held.length) held .badContinuation)

def decode (bytes : Bytes) : Text × Ending :=
  scan 0 [] [] 0 bytes

/-! ## Writing -/

def encodeChar (c : Char) : Bytes :=
  let n := c.toNat
  let byte (lead shift : Nat) : UInt8 := UInt8.ofNat (lead + n / shift % 64)
  if n < 0x80 then [UInt8.ofNat n]
  else if n < 0x800 then [byte 0xC0 64, byte 0x80 1]
  else if n < 0x10000 then [byte 0xE0 4096, byte 0x80 64, byte 0x80 1]
  else [byte 0xF0 262144, byte 0x80 4096, byte 0x80 64, byte 0x80 1]

def encode (t : Text) : Bytes :=
  t.flatMap encodeChar

end Reindent.Utf8
