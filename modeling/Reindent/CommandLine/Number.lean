-- SUMMARY: Whole numbers as they may be given on the command line.
import Reindent.Text.Blank
import Reindent.Text.Digit

/-! # Numbers

A number may have blanks around it and a sign in front. Its digits may be of any script, and single
underscores may stand between them. -/

namespace Reindent.CommandLine

/-- Blanks, less the information separators. -/
def isNumberBlank (c : Char) : Bool :=
  Text.isBlank c && !(0x1C ≤ c.toNat && c.toNat ≤ 0x1F)

/-- Numbers are read up to this many digits. -/
def digitLimit : Nat := 4300

/-- The number with the given digits in groups, none of which is empty. -/
def readGroups? (groups : List Text) : Option Nat := do
  let digits ← groups.flatten.mapM Text.digitValue?
  if groups.any (·.isEmpty) || digitLimit < digits.length then none
  else some (digits.foldl (fun n d => n * 10 + d) 0)

def readNat? (t : Text) : Option Nat :=
  readGroups? (t.splitOnP (· == '_'))

def readInt? (t : Text) : Option Int :=
  match Text.trim isNumberBlank t with
  | '-' :: digits => (readNat? digits).map fun n => -(n : Int)
  | '+' :: digits => (readNat? digits).map Int.ofNat
  | digits => (readNat? digits).map Int.ofNat

def isDigit (c : Char) : Bool :=
  (Text.digitValue? c).isSome

/-- One or more digits. -/
def isDigits (t : Text) : Bool :=
  !t.isEmpty && t.all isDigit

/-- One line break at the end does not count. -/
def dropLastBreak (t : Text) : Text :=
  if t.getLast? == some '\n' then t.dropLast else t

/-- Whether an argument is a value although it starts with a dash: `-5`, `-0.5` or `-.5`. -/
def isNegativeNumber : Text → Bool
  | '-' :: rest =>
    let body := dropLastBreak rest
    isDigits body ||
    match body.dropWhile isDigit with
    | '.' :: places => isDigits places
    | _ => false
  | _ => false

end Reindent.CommandLine
