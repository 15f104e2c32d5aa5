-- SUMMARY: What a run tells about itself, and the log that shows it.
import Reindent.Text

/-! # The log

Events go to named channels below the channel of the program. They are shown only once the log has
been set up for it. -/

namespace Reindent

/-- Thousandths of a second as seconds with three places: `1.250`. -/
def showSeconds (milliseconds : Nat) : String :=
  let places := toString (milliseconds % 1000)
  let zeros := String.ofList (List.replicate (3 - places.length) '0')
  s!"{milliseconds / 1000}.{zeros}{places}"

namespace Log

inductive Event where
  | began (file : Option Text)
  | finished (tags lines : Nat)
  deriving DecidableEq, Repr

def Event.message (milliseconds : Nat) : Event → String
  | .began none | .began (some []) => "Formatting <stream>"
  | .began (some file) => s!"Formatting {String.ofList file}"
  | .finished tags lines =>
    s!"Formatted {tags} tags into {lines} lines in {showSeconds milliseconds}s"

inductive Level where
  | unset
  | debug
  deriving DecidableEq, Repr

def Level.number : Level → Nat
  | .unset => 0
  | .debug => 10

end Log

/-- The state of the program's channel. -/
structure Log where
  handlers : Nat := 0
  level : Log.Level := .unset
  deriving DecidableEq, Repr

namespace Log

/-- The channel of the program. -/
def root : Text := "tagline".toList

/-- The channel of a part of the program. A name that is not below the program's is put there. -/
def channel (name : Text) : Text :=
  if name == root || (root ++ ['.']).isPrefixOf name then name else root ++ '.' :: name

/-- Shows events from now on, if `verbose`. Setting up twice adds no second handler. -/
def setUp (verbose : Bool) (log : Log) : Log :=
  if verbose then { handlers := max 1 log.handlers, level := .debug } else log

/-- The line that shows a message. -/
def line (channel : Text) (message : String) : String :=
  s!"{String.ofList channel}: {message}\n"

end Log

end Reindent
