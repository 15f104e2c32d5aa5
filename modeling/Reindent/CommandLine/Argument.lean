-- SUMMARY: What each argument of a command line is: a value, a switch, or the mark that ends switches.
import Reindent.CommandLine.Number
import Reindent.CommandLine.Usage

/-! # Arguments

Arguments are sorted before any of them is acted on. Long spellings may be cut short as long as
only one fits, and a value may be attached to a switch: `--input=x`, `-i=x`, `-ix`. -/

namespace Reindent.CommandLine

inductive Argument where
  /-- A value, or a text that belongs nowhere. -/
  | plain
  /-- The mark `--`; all that follows is plain. -/
  | mark
  | named (switch : Switch) (spelling : Text) (attached : Option Text)
  /-- Like a switch, but none that is known. -/
  | unknown
  deriving DecidableEq, Repr

namespace Argument

/-- Cuts an argument at its first `=`. -/
def cutAtEquals (t : Text) : Text × Option Text :=
  match t.dropWhile (· != '=') with
  | _ :: value => (t.takeWhile (· != '='), some value)
  | [] => (t, none)

/-- The switches, with the attached value, that an argument may be a spelling of without being
    one in full. -/
def candidates (t : Text) : List (Switch × Text × Option Text) :=
  match t with
  | '-' :: '-' :: _ =>
    let (start, attached) := cutAtEquals t
    (Switch.spellings.filter fun (spelling, _) => start.isPrefixOf spelling).map
      fun (spelling, switch) => (switch, spelling, attached)
  | _ =>
    (Switch.spellings.filter fun (spelling, _) => spelling == t.take 2).map
      fun (spelling, switch) => (switch, spelling, some (t.drop 2))

/-- An argument that starts with a dash and is no spelling in full. -/
def ofDashed (t : Text) : Except UsageError Argument :=
  match candidates t with
  | [(switch, spelling, attached)] => .ok (.named switch spelling attached)
  | [] =>
    if isNegativeNumber t || t.contains ' ' then .ok .plain else .ok .unknown
  | several => .error (.ambiguous t (several.map (·.2.1)))

def ofText (t : Text) : Except UsageError Argument :=
  if t.head? != some '-' then .ok .plain
  else
    match Switch.ofSpelling? t with
    | some switch => .ok (.named switch t none)
    | none =>
      if t.length == 1 then .ok .plain
      else
        match cutAtEquals t with
        | (start, some attached) =>
          match Switch.ofSpelling? start with
          | some switch => .ok (.named switch start (some attached))
          | none => ofDashed t
        | (_, none) => ofDashed t

/-- Sorts the arguments up to the mark; the others are plain. -/
def sort : List Text → Except UsageError (List (Text × Argument))
  | [] => .ok []
  | t :: rest =>
    if t == ['-', '-'] then .ok ((t, .mark) :: rest.map fun other => (other, .plain))
    else do
      let argument ← ofText t
      let others ← sort rest
      return (t, argument) :: others

end Argument

end Reindent.CommandLine
