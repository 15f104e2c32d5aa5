-- SUMMARY: What the command line says about its use, and what it says about misuse.
import Reindent.CommandLine.Switch
import Reindent.Text.Quoted

/-! # Usage -/

namespace Reindent.CommandLine

def usage : String :=
  "usage: tagline [-h] -i INPUT [-o OUTPUT] [--indent N] [-v]\n"

def help : String :=
  usage ++
  "\n" ++
  "Re-indent an XML document with one tag per line\n" ++
  "\n" ++
  "options:\n" ++
  "  -h, --help            show this help message and exit\n" ++
  "  -i INPUT, --input INPUT\n" ++
  "                        Path to an xml file to format\n" ++
  "  -o OUTPUT, --output OUTPUT\n" ++
  "                        Path to where the output should be stored\n" ++
  "  --indent N            Spaces per nesting level (default: 2)\n" ++
  "  -v, --verbose         Log debug output to stderr\n"

/-- How a command line is wrong. -/
inductive UsageError where
  | ambiguous (argument : Text) (candidates : List Text)
  | missingValue (switch : Switch)
  | notNumber (switch : Switch) (value : Text)
  /-- A value for a switch that takes none. -/
  | needlessValue (switch : Switch) (value : Text)
  | missingInput
  | unrecognized (arguments : List Text)
  | negativeIndent
  deriving DecidableEq, Repr

def UsageError.message : UsageError → Text
  | .ambiguous argument candidates =>
    "ambiguous option: ".toList ++ argument ++ " could match ".toList ++
      [',', ' '].intercalate candidates
  | .missingValue switch =>
    "argument ".toList ++ switch.label ++ ": expected one argument".toList
  | .notNumber switch value =>
    "argument ".toList ++ switch.label ++ ": invalid int value: ".toList ++ value.quoted
  | .needlessValue switch value =>
    "argument ".toList ++ switch.label ++ ": ignored explicit argument ".toList ++ value.quoted
  | .missingInput =>
    "the following arguments are required: ".toList ++ Switch.input.label
  | .unrecognized arguments =>
    "unrecognized arguments: ".toList ++ [' '].intercalate arguments
  | .negativeIndent => "--indent must not be negative".toList

end Reindent.CommandLine
