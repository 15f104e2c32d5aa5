-- SUMMARY: The switches of the command line and how they are spelled.
import Reindent.Text

/-! # Switches -/

namespace Reindent.CommandLine

inductive Switch where
  | help
  | input
  | output
  | indent
  | verbose
  deriving DecidableEq, Repr

namespace Switch

/-- Every spelling, in the order in which they are shown. -/
def spellings : List (Text × Switch) :=
  [("-h".toList, .help), ("--help".toList, .help), ("-i".toList, .input),
   ("--input".toList, .input), ("-o".toList, .output), ("--output".toList, .output),
   ("--indent".toList, .indent), ("-v".toList, .verbose), ("--verbose".toList, .verbose)]

def ofSpelling? (t : Text) : Option Switch :=
  spellings.lookup t

/-- Whether a value has to follow. -/
def takesValue : Switch → Bool
  | .input | .output | .indent => true
  | .help | .verbose => false

/-- All spellings of one switch, as in messages about it. -/
def label (s : Switch) : Text :=
  ['/'].intercalate ((spellings.filter (·.2 == s)).map (·.1))

end Switch

end Reindent.CommandLine
