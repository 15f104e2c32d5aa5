-- SUMMARY: Text gathered in parts and joined once.
import Reindent.Text

/-! # Builders

The size of a builder is the number of its parts. Empty texts are no parts. -/

namespace Reindent

structure Builder where
  parts : List Text := []
  deriving DecidableEq, Repr

namespace Builder

def append (b : Builder) (t : Text) : Builder :=
  if t.isEmpty then b else ⟨b.parts ++ [t]⟩

/-- Appends a text and, as a part of its own, the end of its line. -/
def appendLine (b : Builder) (t : Text) : Builder :=
  ⟨(b.append t).parts ++ [['\n']]⟩

def build (b : Builder) : Text :=
  b.parts.flatten

def clear (_ : Builder) : Builder :=
  {}

def size (b : Builder) : Nat :=
  b.parts.length

def isEmpty (b : Builder) : Bool :=
  b.parts.isEmpty

@[simp] theorem build_append (b : Builder) (t : Text) : (b.append t).build = b.build ++ t := by
  unfold append
  split
  · rename_i h
    simp [List.isEmpty_iff.1 h]
  · simp [build]

@[simp] theorem build_appendLine (b : Builder) (t : Text) :
    (b.appendLine t).build = b.build ++ t ++ ['\n'] := by
  rw [← build_append]
  simp [appendLine, build]

end Builder

end Reindent
