-- SUMMARY: The formatter: reads a document tag by tag and writes it one tag per line.
import Reindent.Builder
import Reindent.Cursor
import Reindent.HeldTag
import Reindent.Reference
import Reindent.Sink

/-! # The formatter

A document is read in one pass. Each step reads one tag, or an element with nothing but text in it,
and writes the lines that are settled by it. A stack of opening tags gives the depth of nesting.

A run that fails leaves the formatter as it was when it failed, and a later run goes on from there:
lines that could not be written stay in the output buffer. -/

namespace Reindent

structure Formatter where
  settings : Settings
  cursor : Cursor
  sink : Sink
  /-- The tags that are open, innermost first. -/
  stack : List Tag := []
  held : Option HeldTag := none
  /-- Lines of this step, not yet written. -/
  out : Builder := {}
  /-- Tags read so far. -/
  tags : Nat := 0
  /-- Lines laid out so far. -/
  lines : Nat := 0

namespace Formatter

def start (stream : Stream) (sink : Sink) (settings : Settings) (file : Option Text) :
    Except Failure Formatter := do
  let cursor ← Cursor.start stream settings.chunkSize file
  return { settings, cursor, sink }

def depth (f : Formatter) : Nat :=
  f.stack.length

/-- What remains to be read. -/
def remaining (f : Formatter) : Nat :=
  f.cursor.remaining

def location (f : Formatter) (line : Option Int) : Location :=
  { line, file := f.cursor.file }

/-- Moves the cursor. -/
def reading {α : Type} (move : Attempt Cursor α) : Attempt Formatter α := fun f =>
  let (result, cursor) := move f.cursor
  (result, { f with cursor })

/-! ## Reading tags -/

/-- Takes the token as a tag that ends on `line`. -/
def takeTag (line : Nat) : Attempt Formatter Tag := do
  Attempt.update fun f => { f with tags := f.tags + 1 }
  let breakAt := (← Attempt.state).cursor.firstBreak
  let token ← reading Cursor.takeToken
  let f ← Attempt.state
  Attempt.lift <|
    (Tag.ofToken token (f.location (some line)) (breakAt.map Int.ofNat)).mapError .document

/-- Reads from the `<` under the cursor through the next `>`, and past the blanks behind it. -/
def readTag : Attempt Formatter Tag := do
  reading (Cursor.scanTo ['>'])
  let line := (← Attempt.state).cursor.place.line
  reading (Cursor.advance true)
  takeTag line

/-- Reads the next tag. The text in front of it is dropped. -/
def nextTag : Attempt Formatter Tag := do
  reading (Cursor.scanTo ['<'])
  let _ ← reading Cursor.takeToken
  readTag

/-! ## Writing lines -/

/-- Lays out one line. -/
def emit (line : Text) : Attempt Formatter Unit :=
  Attempt.update fun f => { f with out := f.out.appendLine line, lines := f.lines + 1 }

/-- Lays out a tag at the present depth. -/
def emitTag (tag : Tag) : Attempt Formatter Unit := do
  let f ← Attempt.state
  emit (f.settings.indentation f.depth ++ tag.text)

/-- Lays out the held tag, if there is one, as it is. -/
def release : Attempt Formatter Unit := do
  let f ← Attempt.state
  match f.held with
  | none => pure ()
  | some held =>
    emit (held.line f.settings)
    Attempt.update fun f => { f with held := none }

/-- Writes what has been laid out. If that fails it stays in the buffer. -/
def flush : Attempt Formatter Unit := fun f =>
  if f.out.isEmpty then (.ok (), f)
  else
    match f.sink.write f.out.build with
    | (.ok (), sink) => (.ok (), { f with sink, out := f.out.clear })
    | (.error fault, sink) => (.error (.ofWrite fault), { f with sink })

/-! ## Elements -/

/-- Fails unless `close` closes `tag`. -/
def expectClosed (tag close : Tag) : Attempt Formatter Unit := do
  let f ← Attempt.state
  if tag.closedBy close then pure ()
  else Attempt.fail (.mismatch tag.text close.text (f.location close.line))

/-- Lays out the end of an element, fused with its opening tag if that is still held. -/
def emitEnd (tag : Tag) : Attempt Formatter Unit := do
  let f ← Attempt.state
  match HeldTag.fuse? f.held tag f.settings with
  | some line =>
    Attempt.update fun f => { f with held := none }
    emit line
  | none =>
    release
    emitTag tag

/-- A closing tag ends the innermost element. -/
def closeElement (tag : Tag) : Attempt Formatter Unit := do
  let f ← Attempt.state
  match f.stack with
  | [] => Attempt.fail (.malformed (.strayClose tag.text) (f.location tag.line))
  | opened :: outer =>
    Attempt.update fun f => { f with stack := outer }
    expectClosed opened tag
    emitEnd tag
    flush

/-- A tag that stands alone. -/
def standalone (tag : Tag) : Attempt Formatter Unit := do
  release
  emitTag tag
  flush

/-- The references of an element's text resolved, if the settings ask for it. -/
def resolved (settings : Settings) (text : Text) : Except Failure Text :=
  if settings.resolveReferences then
    (Reference.resolve text).mapError fun e => .longReference e.digits
  else .ok text

/-- Fails unless the tag behind the text of the element `tag` closes it. -/
def expectTextClosed (tag close : Tag) : Attempt Formatter Unit := do
  let f ← Attempt.state
  if close.kind = .closing then expectClosed tag close
  else Attempt.fail (.malformed (.mixedContent close.text tag.text) (f.location close.line))

/-- An element that holds a single run of text, read behind its opening tag. -/
def leaf (tag : Tag) (depth : Nat) : Attempt Formatter Unit := do
  reading (Cursor.scanTo ['<'])
  let raw ← reading Cursor.takeToken
  let settings := (← Attempt.state).settings
  let text ← Attempt.lift (resolved settings raw.strip)
  let close ← readTag
  expectTextClosed tag close
  Attempt.update fun f => { f with stack := f.stack.tail }
  emit (settings.indentation depth ++ tag.text ++ text ++ close.text)

/-- Holds an opening tag if another tag is right behind it, and reads its element's text if not. -/
def holdOrRead (tag : Tag) (depth : Nat) : Attempt Formatter Unit := do
  let f ← Attempt.state
  match ← Attempt.lift f.cursor.peek with
  | some '<' => Attempt.update fun f => { f with held := some ⟨tag, depth⟩ }
  | _ => leaf tag depth

/-- An opening tag. -/
def openElement (tag : Tag) : Attempt Formatter Unit := do
  release
  let depth := (← Attempt.state).depth
  Attempt.update fun f => { f with stack := tag :: f.stack }
  holdOrRead tag depth
  flush

/-! ## Runs -/

/-- What is done about a tag that has been read. -/
def respond (tag : Tag) : Attempt Formatter Unit :=
  match tag.kind with
  | .closing => closeElement tag
  | .selfClosing | .declaration => standalone tag
  | .opening => openElement tag

def step : Attempt Formatter Unit := do
  respond (← nextTag)

/-- At the end of the text no element may be open. -/
def finish : Attempt Formatter Unit := fun f =>
  if f.stack.isEmpty then (.ok (), f)
  else (.error (.malformed (.unclosed (f.stack.reverse.map (·.text))) f.cursor.location), f)

end Formatter

end Reindent
