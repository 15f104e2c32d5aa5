-- SUMMARY: How a document is to be laid out and read.
import Reindent.Text

/-! # Settings -/

namespace Reindent

structure Settings where
  /-- Repeated once for each level of nesting. -/
  indent : Text := [' ', ' ']
  /-- Characters asked for at each read. Sizes below 1 are refused when reading starts. -/
  chunkSize : Int := 4096
  /-- Whether character references in element text are resolved. -/
  resolveReferences : Bool := true
  deriving DecidableEq, Repr

/-- What stands in front of a line at a depth of nesting. Memory is taken to hold it. -/
def Settings.indentation (s : Settings) (depth : Int) : Text :=
  s.indent.times depth

end Reindent
