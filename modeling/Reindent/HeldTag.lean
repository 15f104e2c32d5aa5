-- SUMMARY: An opening tag that is held back until it is known whether its element is empty.
import Reindent.Settings
import Reindent.Tag

/-! # Held tags

An opening tag with another tag right behind it is held back. If the next tag closes it, the two
are fused into one self-closing tag; otherwise it is written as it is. -/

namespace Reindent

structure HeldTag where
  tag : Tag
  /-- Depth of nesting that the tag is written at. -/
  depth : Int
  deriving DecidableEq, Repr

namespace HeldTag

/-- The line of a tag that is not fused. -/
def line (held : HeldTag) (settings : Settings) : Text :=
  settings.indentation held.depth ++ held.tag.text

/-- The line of a fused tag: `<a x="1">` becomes `<a x="1"/>`. -/
def fusedLine (held : HeldTag) (settings : Settings) : Text :=
  settings.indentation held.depth ++ held.tag.text.dropLast ++ ['/', '>']

/-- The line of a held tag fused with the tag behind it, if that one closes it. -/
def fuse? (held? : Option HeldTag) (close : Tag) (settings : Settings) : Option Text :=
  match held? with
  | none => none
  | some held =>
    if close.kind = .closing ∧ held.tag.closedBy close then some (held.fusedLine settings) else none

end HeldTag

end Reindent
