-- SUMMARY: Tags: their kinds, their names, and how a token becomes one.
import Reindent.Failure

/-! # Tags

A tag runs from `<` to `>`. Its text is kept as it was read, less the line breaks in it. -/

namespace Reindent

inductive TagKind where
  /-- Written `<name …>`. -/
  | opening
  /-- Written `</name>`. -/
  | closing
  /-- Written `<name …/>`. -/
  | selfClosing
  /-- Written `<?name …?>`. -/
  | declaration
  deriving DecidableEq, Repr

def TagKind.label : TagKind → String
  | .opening => "OPEN"
  | .closing => "CLOSE"
  | .selfClosing => "SELF_CLOSING"
  | .declaration => "DECLARATION"

structure Tag where
  text : Text
  kind : TagKind
  name : Text
  /-- The line the tag ends on, if known. -/
  line : Option Int := none
  deriving DecidableEq, Repr

namespace Tag

/-! ## Names -/

/-- Characters that end a name. Only ASCII blanks do, so a name may hold other blanks. -/
def isDelimiter (c : Char) : Bool :=
  c == ' ' || c == '\t' || c == '\n' || c == '\r' || c == '\x0c' || c == '\x0b' || c == '/' ||
  c == '>'

/-- Offset of the name in a tag's text. -/
def nameStart (text : Text) : Nat :=
  if ['<', '/'].isPrefixOf text then 2 else 1

/-- The name in a tag's text: what stands behind `<` or `</`, up to a delimiter. -/
def nameOf (text : Text) : Text :=
  (text.drop (nameStart text)).takeWhile (!isDelimiter ·)

/-! ## Reading -/

/-- Puts a space where a line break was taken out of the name: the break ended the name there. -/
def splitName (text : Text) (breakAt : Int) : Text :=
  let start : Int := nameStart text
  if start < breakAt ∧ breakAt < start + (nameOf text).length then
    text.take breakAt.toNat ++ ' ' :: text.drop breakAt.toNat
  else text

def isToken (text : Text) : Bool :=
  3 ≤ text.length && text.head? == some '<' && text.getLast? == some '>'

def kindOf (text : Text) : TagKind :=
  if text[1]? == some '/' then .closing
  else if text[1]? == some '?' then .declaration
  else if text[text.length - 2]? == some '/' then .selfClosing
  else .opening

/-- The tag of a token, in which a line break was taken out at offset `breakAt?`. -/
def ofToken (text : Text) (location : Location) (breakAt? : Option Int) : Except DocumentError Tag :=
  if isToken text then
    let text := match breakAt? with
      | none => text
      | some breakAt => splitName text breakAt
    .ok { text, kind := kindOf text, name := nameOf text, line := location.line }
  else .error ⟨.malformed (.brokenTag text), location⟩

/-! ## Use -/

/-- Whether the tag stands alone, with nothing to close. -/
def isStandalone (tag : Tag) : Bool :=
  tag.kind == .selfClosing || tag.kind == .declaration

/-- Whether `close` closes `tag`. -/
def closedBy (tag close : Tag) : Bool :=
  tag.name == close.name

/-- The tag with its kind, as shown in diagnostics. -/
def describe (tag : Tag) : Text :=
  s!"Tag({tag.kind.label}, ".toList ++ tag.text.quoted ++ [')']

end Tag

end Reindent
