-- SUMMARY: Formatting one file of a tree into another.
import Reindent.Encoding.Decoder
import Reindent.FileTree
import Reindent.Formatter.Run

/-! # Formatting files

The input is opened first, then the output, which is emptied by that, and only then the input is
read. What was written before a failure stays in the output. -/

namespace Reindent

/-! ## Opening the files -/

/-- What a call has opened. -/
structure Opened where
  /-- The path of the output. -/
  output : Path
  source : FileId
  target : FileId
  encoding : Encoding
  /-- The tree with the output in it, and empty. -/
  tree : FileTree
  deriving DecidableEq, Repr

/-- Where the output goes. -/
def outputPath (input : Path) : Option Path → Except Failure Path
  | some output => .ok output
  | none => input.formatted

/-- Finds the encoding of a name. -/
def encodingOf (name : Text) : Except Failure Encoding :=
  match Encoding.ofName? name with
  | some encoding => .ok encoding
  | none => .error (.unknownEncoding name)

/-- Opens the input and the output. Without `output?` the path of the output is derived from the
    input's. -/
def openFiles (tree : FileTree) (input : Path) (output? : Option Path) (encodingName : Text) :
    Except Failure Opened := do
  let output ← outputPath input output?
  if encodingName.contains '\x00' then
    throw (.misuse "embedded null character")
  let source ← tree.openForReading input
  let encoding ← encodingOf encodingName
  let (target, tree) ← tree.openForWriting output
  return { output, source, target, encoding, tree }

/-! ## Formatting -/

/-- What came of formatting a file. -/
structure FileReport where
  /-- The path of the output. -/
  result : Except Failure Path
  tree : FileTree
  events : List Log.Event

/-- The bytes of texts that were written one after the other. Texts that cannot be encoded are not
    among them, since their writes are refused. -/
def Encoding.bytesOf (encoding : Encoding) (texts : List Text) : Bytes :=
  texts.flatMap fun t => (encoding.encode t).toOption.getD []

/-- Formats the input into the output, once both are open. -/
def formatOpened (memory : Nat) (opened : Opened) (input : Path) (settings : Settings) :
    FileReport :=
  let bytes := (opened.tree.content? opened.source).getD []
  let report :=
    formatStream (opened.encoding.stream memory bytes) (.encoded opened.encoding) settings
      (some input.toText)
  { result := report.result.map fun _ => opened.output
    tree := opened.tree.write opened.target (opened.encoding.bytesOf report.sink.written)
    events := report.events }

/-- Formats a file of the tree on a machine with so much memory. A call that does not come to open
    both files changes nothing. -/
def formatFile (memory : Nat) (tree : FileTree) (input : Path) (output? : Option Path)
    (encodingName : Text) (settings : Settings) : FileReport :=
  match openFiles tree input output? encodingName with
  | .error e => { result := .error e, tree, events := [] }
  | .ok opened => formatOpened memory opened input settings

end Reindent
