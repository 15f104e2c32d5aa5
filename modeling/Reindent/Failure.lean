-- SUMMARY: Everything that can end a formatting run early, by cause, with its message.
import Reindent.Fault

/-! # Failures

A failure of the document says where in which file it was noticed. Failures of a stream carry the
fault behind them. Both belong to the families that a caller is told about; a few mistakes of the
caller do not. -/

namespace Reindent

/-! ## Documents -/

/-- Where in which file something was noticed. -/
structure Location where
  line : Option Int := none
  file : Option Text := none
  deriving DecidableEq, Repr

namespace Location

/-- The text `file:line`, without the parts that are not known. -/
def label (l : Location) : Text :=
  let file := match l.file with
    | none | some [] => []
    | some name => name ++ [':']
  let line := match l.line with
    | none => []
    | some n => (toString n).toList ++ [':']
  file ++ line

/-- What stands in front of a message. The colons at the end give way to a space. -/
def lead (l : Location) : Text :=
  match l.label with
  | [] => []
  | label => Text.dropTail (· == ':') label ++ [' ']

end Location

/-- How a document is truncated or outside the supported grammar. -/
inductive Defect where
  | brokenTag (text : Text)
  | endOfInput (lookingFor : Text)
  | strayClose (tag : Text)
  | mixedContent (tag inside : Text)
  /-- The tags left open at the end, outermost first. -/
  | unclosed (tags : List Text)
  | described (text : Text)
  deriving DecidableEq, Repr

def Defect.detail : Defect → Text
  | .brokenTag text => "Malformed tag ".toList ++ text.quoted
  | .endOfInput target => "Unexpected end of input while looking for ".toList ++ target.quoted
  | .strayClose tag => "Close tag ".toList ++ tag ++ " has no matching open tag".toList
  | .mixedContent tag inside =>
    "Mixed content is not supported: text followed by ".toList ++ tag ++ " inside ".toList ++ inside
  | .unclosed tags =>
    "Unexpected end of input, unclosed tags: ".toList ++ [' '].intercalate tags
  | .described text => text

inductive Problem where
  | malformed (defect : Defect)
  | mismatch (openTag closeTag : Text)
  | described (text : Text)
  deriving DecidableEq, Repr

def Problem.detail : Problem → Text
  | .malformed defect => defect.detail
  | .mismatch openTag closeTag =>
    "Start and end tags do not match: ".toList ++ openTag ++ " vs. ".toList ++ closeTag
  | .described text => text

/-- What is wrong with a document, and where. -/
structure DocumentError where
  problem : Problem
  location : Location
  deriving DecidableEq, Repr

def DocumentError.message (e : DocumentError) : Text :=
  e.location.lead ++ e.problem.detail

/-! ## Streams -/

inductive StreamError where
  | reading (fault : Fault)
  | writing (fault : Fault)
  | opening (path : Text) (fault : OpenFault)
  | described (text : Text)
  deriving DecidableEq, Repr

def StreamError.message : StreamError → Text
  | .reading fault => s!"Failed to read input: {fault.message}".toList
  | .writing fault => s!"Failed to write output: {fault.message}".toList
  | .opening path fault => path ++ s!": {fault.message}".toList
  | .described text => text

/-! ## All failures -/

inductive Failure where
  | document (error : DocumentError)
  | stream (error : StreamError)
  | described (text : Text)
  /-- A stream did not take a request. This is passed on as it came. -/
  | misuse (message : String)
  | chunkSize (size : Int)
  /-- A decimal reference of so many digits. -/
  | longReference (digits : Nat)
  /-- The cursor was asked for a character behind the end of what it has read. -/
  | pastEnd
  | unknownEncoding (name : Text)
  /-- A path without a last name, which no name can be derived from. -/
  | namelessPath (path : Text)
  | excess (excess : Excess)
  /-- Where a path was asked for there was no value. -/
  | valuelessPath
  /-- Where the width of the indent was asked for there was no value. -/
  | valuelessIndent
  deriving DecidableEq, Repr

namespace Failure

def malformed (defect : Defect) (location : Location) : Failure :=
  .document ⟨.malformed defect, location⟩

def mismatch (openTag closeTag : Text) (location : Location) : Failure :=
  .document ⟨.mismatch openTag closeTag, location⟩

/-- What a failed read becomes. -/
def ofRead : Fault → Failure
  | .misuse message => .misuse message
  | .excess e => .excess e
  | fault => .stream (.reading fault)

/-- What a failed write becomes. -/
def ofWrite : Fault → Failure
  | .misuse message => .misuse message
  | .excess e => .excess e
  | fault => .stream (.writing fault)

def message : Failure → Text
  | .document error => error.message
  | .stream error => error.message
  | .described text => text
  | .misuse message => message.toList
  | .chunkSize size => s!"chunk_size must be positive, got {size}".toList
  | .longReference digits =>
    (s!"Exceeds the limit (4300 digits) for integer string conversion: value has {digits} digits; " ++
      "use sys.set_int_max_str_digits() to increase the limit").toList
  | .pastEnd => "string index out of range".toList
  | .unknownEncoding name => "unknown encoding: ".toList ++ name
  | .namelessPath path => "PosixPath(".toList ++ path.quoted ++ ") has an empty name".toList
  | .excess e => e.message.toList
  | .valuelessPath => "expected str, bytes or os.PathLike object, not list".toList
  | .valuelessIndent => "'<' not supported between instances of 'list' and 'int'".toList

/-! ## Families -/

/-- The families of failures that callers are told about. -/
inductive Family where
  | any
  | stream
  | format
  | malformed
  | mismatch
  deriving DecidableEq, Repr

/-- The family and all that it is part of, narrowest first. -/
def Family.lineage : Family → List Family
  | .any => [.any]
  | .stream => [.stream, .any]
  | .format => [.format, .any]
  | .malformed => [.malformed, .format, .any]
  | .mismatch => [.mismatch, .format, .any]

/-- The narrowest family of a failure; none for the mistakes of a caller. -/
def family? : Failure → Option Family
  | .document ⟨.malformed _, _⟩ => some .malformed
  | .document ⟨.mismatch _ _, _⟩ => some .mismatch
  | .document ⟨.described _, _⟩ => some .format
  | .stream _ => some .stream
  | .described _ => some .any
  | _ => none

end Failure

end Reindent
