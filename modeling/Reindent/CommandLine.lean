-- SUMMARY: The program as a function of its arguments and the files it finds.
import Reindent.CommandLine.Invocation
import Reindent.FormatFile

/-! # The command line -/

namespace Reindent.CommandLine

/-- What a call of the program does. What it prints depends on the time it took, which is given in
    thousandths of a second. -/
structure Outcome where
  /-- The exit code, or a failure that the program does not answer for. -/
  code : Except Failure Nat
  stdout : Nat → String := fun _ => ""
  stderr : Nat → String := fun _ => ""
  tree : FileTree

/-- The lines of the log for a run, if it is to be shown. -/
def logLines (verbose : Bool) (events : List Log.Event) (milliseconds : Nat) : String :=
  match (Log.setUp verbose {}).level with
  | .unset => ""
  | .debug =>
    let channel := Log.channel "formatter".toList
    String.join (events.map fun event => Log.line channel (event.message milliseconds))

def errorLine (message : Text) : String :=
  s!"tagline: error: {String.ofList message}\n"

def successLines (output : Path) (milliseconds : Nat) : String :=
  s!"Wrote {String.ofList output.toText}\nTime: {showSeconds milliseconds}s\n"

/-- Formats a file as ordered. -/
def obey (memory : Nat) (tree : FileTree) (order : Invocation.Order) : Outcome :=
  let settings : Settings := { indent := order.indent }
  let report :=
    formatFile memory tree (.ofText order.input) (order.output.map .ofText) "utf-8".toList settings
  let log := logLines order.verbose report.events
  match report.result with
  | .ok output =>
    { code := .ok 0, stdout := successLines output, stderr := log, tree := report.tree }
  | .error e =>
    match e.family? with
    | some _ =>
      { code := .ok 1, stderr := fun ms => log ms ++ errorLine e.message, tree := report.tree }
    | none => { code := .error e, stderr := log, tree := report.tree }

/-- Runs the program on a machine with so much memory. -/
def run (memory : Nat) (tree : FileTree) (arguments : List Text) : Outcome :=
  match Invocation.parse memory arguments with
  | .ok order => obey memory tree order
  | .error (.failure e) => { code := .error e, tree }
  | .error .help => { code := .ok 0, stdout := fun _ => help, tree }
  | .error (.misuse e) =>
    { code := .ok 2, stderr := fun _ => usage ++ errorLine e.message, tree }

end Reindent.CommandLine
