-- SUMMARY: The line number of a place in a text, counted character by character.
import Reindent.Text

/-! # Places

`\n`, `\r\n` and a lone `\r` each end one line. The count goes character by character, so a
`\r\n` pair may be cut in two without being counted twice. -/

namespace Reindent

/-- A place in a text: its line, counted from 1, and whether a `\r` stands right before it. -/
structure Place where
  line : Nat := 1
  afterReturn : Bool := false
  deriving DecidableEq, Repr

namespace Place

/-- The place behind `c`. -/
def step (p : Place) (c : Char) : Place :=
  { line := if c == '\r' || (c == '\n' && !p.afterReturn) then p.line + 1 else p.line
    afterReturn := c == '\r' }

/-- The place behind `t`. -/
def pass (p : Place) (t : Text) : Place :=
  t.foldl step p

@[simp] theorem pass_nil (p : Place) : p.pass [] = p := rfl

@[simp] theorem pass_cons (p : Place) (c : Char) (t : Text) :
    p.pass (c :: t) = (p.step c).pass t := rfl

theorem pass_append (p : Place) (s t : Text) : p.pass (s ++ t) = (p.pass s).pass t :=
  List.foldl_append

end Place

end Reindent
