-- SUMMARY: Paths of files, in one spelling each, and the path that output goes to by default.
import Reindent.Failure

/-! # Paths

Repeated slashes, a slash at the end and the component `.` make no difference to a path. Two
slashes in front do; three or more are as one. The component `..` is kept. -/

namespace Reindent

/-- What a path starts from. -/
inductive Root where
  | here
  | slash
  | twoSlashes
  deriving DecidableEq, Repr

structure Path where
  root : Root
  parts : List Text
  deriving DecidableEq, Repr

namespace Path

/-- Cuts a text at the slashes. -/
def components (t : Text) : List Text :=
  t.splitOnP (· == '/')

def ofText (t : Text) : Path :=
  { root := match t with
      | '/' :: '/' :: '/' :: _ => .slash
      | '/' :: '/' :: _ => .twoSlashes
      | '/' :: _ => .slash
      | _ => .here
    parts := (components t).filter fun part => !(part == [] || part == ['.']) }

def toText (p : Path) : Text :=
  let start := match p.root with
    | .here => []
    | .slash => ['/']
    | .twoSlashes => ['/', '/']
  match start ++ ['/'].intercalate p.parts with
  | [] => ['.']
  | t => t

/-- The last component; none if there is no component. -/
def name? (p : Path) : Option Text :=
  p.parts.getLast?

/-- A name cut in front of the last dot, if that is neither its first nor its last character. -/
def cutName (name : Text) : Text × Text :=
  let suffix := (name.reverse.takeWhile (· != '.')).reverse
  let stem := name.take (name.length - suffix.length - 1)
  if suffix.isEmpty || stem.isEmpty then (name, []) else (stem, '.' :: suffix)

/-- The path of the output for an input without one of its own: `a/b.xml` gives
    `a/b_formatted.xml`. -/
def formatted (p : Path) : Except Failure Path :=
  match p.name? with
  | none => .error (.namelessPath p.toText)
  | some name =>
    let (stem, suffix) := cutName name
    .ok { p with parts := p.parts.dropLast ++ [stem ++ "_formatted".toList ++ suffix] }

end Path

end Reindent
