-- SUMMARY: Texts in quotes, with everything that does not print written as an escape.
import Reindent.Text.Printable

/-! # Quoted texts

Messages show a text in single quotes, or in double quotes if it holds a single quote and no double
one. Line ends, tabs, the backslash and the quote in use are escaped, and so is every character
that does not print. -/

namespace Reindent.Text

/-- The number `n` in small hexadecimal digits, filled up with zeros to `width`. -/
def hexDigits (width n : Nat) : Text :=
  let digits := Nat.toDigits 16 n
  List.replicate (width - digits.length) '0' ++ digits

/-- A character by its number: `\x1b`, `\u200b` or `\U0001f600`, the shortest that holds it. -/
def escapeByCode (c : Char) : Text :=
  let n := c.toNat
  if n < 0x100 then '\\' :: 'x' :: hexDigits 2 n
  else if n < 0x10000 then '\\' :: 'u' :: hexDigits 4 n
  else '\\' :: 'U' :: hexDigits 8 n

/-- How `c` is written between two `quote`s. -/
def escape (quote c : Char) : Text :=
  if c == quote || c == '\\' then ['\\', c]
  else if c == '\n' then ['\\', 'n']
  else if c == '\r' then ['\\', 'r']
  else if c == '\t' then ['\\', 't']
  else if isPrintable c then [c]
  else escapeByCode c

/-- The quote that `t` is put in. -/
def quoteFor (t : Text) : Char :=
  if t.contains '\'' && !t.contains '"' then '"' else '\''

def quoted (t : Text) : Text :=
  let quote := quoteFor t
  quote :: t.flatMap (escape quote) ++ [quote]

end Reindent.Text
