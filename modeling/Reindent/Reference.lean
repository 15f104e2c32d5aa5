-- SUMMARY: Character references in element text: reading them and putting in what they stand for.
import Reindent.Reference.Name
import Reindent.Text

/-! # Character references

A reference starts at `&`. It is a decimal number `&#60;`, a hexadecimal number `&#x3C;`, or a name
such as `&lt;`; the semicolon may be missing. Texts are resolved from left to right in one pass, so
what a reference brings in is not read again. -/

namespace Reindent

inductive Reference where
  | decimal (digits : Text)
  | hexadecimal (digits : Text)
  /-- A name, with its semicolon if it has one. -/
  | named (body : Text)
  deriving DecidableEq, Repr

namespace Reference

/-! ## Reading -/

def isDecimalDigit (c : Char) : Bool :=
  '0' ≤ c && c ≤ '9'

def isHexDigit (c : Char) : Bool :=
  isDecimalDigit c || ('a' ≤ c && c ≤ 'f') || ('A' ≤ c && c ≤ 'F')

/-- Characters that a name runs over. -/
def isNameChar (c : Char) : Bool :=
  !(c == '\t' || c == '\n' || c == '\x0c' || c == ' ' || c == '<' || c == '&' || c == '#' ||
    c == ';')

/-- A name has at most this many characters in front of its semicolon. -/
def nameLimit : Nat := 32

def dropSemicolon : Text → Text
  | ';' :: rest => rest
  | t => t

/-- The reference whose text, behind the `&`, starts `t`, and what follows it. -/
def read? (t : Text) : Option (Reference × Text) :=
  match t with
  | '#' :: number =>
    match number.takeWhile isDecimalDigit with
    | [] =>
      match number with
      | mark :: digits =>
        if mark == 'x' || mark == 'X' then
          match digits.takeWhile isHexDigit with
          | [] => none
          | hex => some (.hexadecimal hex, dropSemicolon (digits.drop hex.length))
        else none
      | [] => none
    | digits => some (.decimal digits, dropSemicolon (number.drop digits.length))
  | _ =>
    match (t.take nameLimit).takeWhile isNameChar with
    | [] => none
    | name =>
      match t.drop name.length with
      | ';' :: rest => some (.named (name ++ [';']), rest)
      | rest => some (.named name, rest)

/-! ## Meaning -/

/-- A decimal number of more digits than can be read. -/
structure Overlong where
  digits : Nat
  deriving DecidableEq, Repr

/-- Decimal numbers are read up to this many digits. -/
def digitLimit : Nat := 4300

def digitValue (c : Char) : Nat :=
  if isDecimalDigit c then c.toNat - '0'.toNat
  else if 'a' ≤ c then c.toNat - 'a'.toNat + 10
  else c.toNat - 'A'.toNat + 10

def number (base : Nat) (digits : Text) : Nat :=
  digits.foldl (fun n c => n * base + digitValue c) 0

/-- The characters that the numbers from `0x80` to `0x9F` stand for, as in the code page that
    documents with such numbers were written in. -/
def codePage : List Nat :=
  [0x20AC, 0x81, 0x201A, 0x192, 0x201E, 0x2026, 0x2020, 0x2021, 0x2C6, 0x2030, 0x160, 0x2039, 0x152,
   0x8D, 0x17D, 0x8F, 0x90, 0x2018, 0x2019, 0x201C, 0x201D, 0x2022, 0x2013, 0x2014, 0x2DC, 0x2122,
   0x161, 0x203A, 0x153, 0x9D, 0x17E, 0x178]

/-- Control characters and noncharacters, which a number may name but never brings in. -/
def isDropped (n : Nat) : Bool :=
  (0x1 ≤ n && n ≤ 0x8) || n == 0xB || (0xE ≤ n && n ≤ 0x1F) || n == 0x7F ||
  (0xFDD0 ≤ n && n ≤ 0xFDEF) || n % 0x10000 == 0xFFFE || n % 0x10000 == 0xFFFF

/-- What a numeric reference to `n` stands for. A number that is no character gives `U+FFFD`. -/
def character (n : Nat) : Text :=
  if n == 0 then ['\uFFFD']
  else if 0x80 ≤ n && n ≤ 0x9F then [Char.ofNat ((codePage[n - 0x80]?).getD n)]
  else if (0xD800 ≤ n && n ≤ 0xDFFF) || 0x10FFFF < n then ['\uFFFD']
  else if isDropped n then []
  else [Char.ofNat n]

/-- The longest name of at most `n` and at least two characters that starts `body`, put in. -/
def expandStart? (body : Text) : Nat → Option Text
  | 0 | 1 => none
  | n + 2 =>
    match expansion? (body.take (n + 2)) with
    | some t => some (t ++ body.drop (n + 2))
    | none => expandStart? body (n + 1)

/-- A known name gives what it stands for. Otherwise the longest known name at the start is put in,
    and a reference without one is left as it is. -/
def expand (body : Text) : Text :=
  match expansion? body with
  | some t => t
  | none => (expandStart? body (body.length - 1)).getD ('&' :: body)

def value : Reference → Except Overlong Text
  | .decimal digits =>
    if digitLimit < digits.length then .error ⟨digits.length⟩ else .ok (character (number 10 digits))
  | .hexadecimal digits => .ok (character (number 16 digits))
  | .named body => .ok (expand body)

/-! ## Resolving a text -/

theorem length_dropSemicolon_le (t : Text) : (dropSemicolon t).length ≤ t.length := by
  unfold dropSemicolon
  split <;> simp

theorem length_of_read? {t after : Text} {r : Reference} (h : read? t = some (r, after)) :
    after.length ≤ t.length := by
  have semi (n : Nat) (u : Text) : (dropSemicolon (u.drop n)).length ≤ u.length :=
    Nat.le_trans (length_dropSemicolon_le _) (by simp)
  unfold read? at h
  split at h
  · split at h
    · split at h
      · split at h
        · split at h
          · simp at h
          · simp only [Option.some.injEq, Prod.mk.injEq] at h
            rw [← h.2]
            exact Nat.le_succ_of_le (Nat.le_succ_of_le (semi _ _))
        · simp at h
      · simp at h
    · simp only [Option.some.injEq, Prod.mk.injEq] at h
      rw [← h.2]
      exact Nat.le_succ_of_le (semi _ _)
  · split at h
    · simp at h
    · split at h
      · rename_i hrest
        simp only [Option.some.injEq, Prod.mk.injEq] at h
        have := congrArg List.length hrest
        simp only [List.length_drop, List.length_cons] at this
        rw [← h.2]
        omega
      · simp only [Option.some.injEq, Prod.mk.injEq] at h
        simp [← h.2]

/-- The text with what its references stand for put in. -/
def resolve (t : Text) : Except Overlong Text :=
  match t with
  | [] => .ok []
  | c :: rest =>
    if c = '&' then
      match _h : read? rest with
      | some (reference, after) => do
        let first ← reference.value
        let others ← resolve after
        return first ++ others
      | none => (resolve rest).map (c :: ·)
    else (resolve rest).map (c :: ·)
termination_by t.length
decreasing_by
  · have := length_of_read? _h
    simp only [List.length_cons]
    omega
  · simp
  · simp

end Reference

end Reindent
