-- SUMMARY: The characters that count as blank between and around texts.
import Reindent.Text

/-! # Blanks

Blank characters are the separators and line ends of Unicode, the ASCII controls from tab to
carriage return and the four information separators `U+001C` to `U+001F`. The zero width space
`U+200B` and the byte order mark `U+FEFF` are not blank. -/

namespace Reindent.Text

def isBlank (c : Char) : Bool :=
  let n := c.toNat
  (0x09 ≤ n && n ≤ 0x0D) || (0x1C ≤ n && n ≤ 0x20) || n == 0x85 || n == 0xA0 || n == 0x1680 ||
  (0x2000 ≤ n && n ≤ 0x200A) || n == 0x2028 || n == 0x2029 || n == 0x202F || n == 0x205F ||
  n == 0x3000

/-- The text without the blanks around it. -/
def strip (t : Text) : Text :=
  trim isBlank t

theorem isBlank_of_isBreak {c : Char} (h : isBreak c = true) : isBlank c = true := by
  simp only [isBreak, Bool.or_eq_true, beq_iff_eq] at h
  rcases h with rfl | rfl <;> decide

end Reindent.Text
