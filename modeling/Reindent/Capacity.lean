-- SUMMARY: How large counts and texts may be, and what is too large.
import Reindent.Text

/-! # Capacity

Counts of characters are kept in 64 bits with a sign, on every machine. How much memory there is
differs from one machine to another: where the caller decides how much is asked for, memory is a
parameter, in bytes. What a run holds of its document and writes is not measured, and memory is taken
to hold it. -/

namespace Reindent

/-- What is too large. -/
inductive Excess where
  /-- A count that 64 bits do not hold. -/
  | count
  /-- A text of more characters than can be counted. -/
  | length
  /-- More than memory holds. -/
  | memory
  deriving DecidableEq, Repr

def Excess.message : Excess → String
  | .count => "cannot fit 'int' into an index-sized integer"
  | .length => "repeated string is too long"
  | .memory => ""

namespace Capacity

/-- The largest count. -/
def count : Nat := 0x7FFFFFFFFFFFFFFF

/-- Whether 64 bits hold `n`. -/
def counts (n : Int) : Bool :=
  -(count + 1 : Int) ≤ n && n ≤ count

end Capacity

namespace Text

/-- What stands against repeating a text `n` times, if every character takes one byte. Even where the
    result would be empty, `n` has to be a count. -/
def excess? (memory : Nat) (t : Text) (n : Int) : Option Excess :=
  let length := t.length * n.toNat
  if !Capacity.counts n then some .count
  else if Capacity.count < length then some .length
  else if memory < length then some .memory
  else none

/-- Repeats a text `n` times, if that is not too much. -/
def repeated (memory : Nat) (t : Text) (n : Int) : Except Excess Text :=
  match t.excess? memory n with
  | some e => .error e
  | none => .ok (t.times n)

end Text

end Reindent
