-- SUMMARY: Documents as trees, the texts that spell them, and the lines they are printed in.
import Reindent.Proofs.Layout

/-! # Documents

A document is a list of items: tags that stand alone, elements with items in them, and elements with
text in them. A text spells a document if its tags are those of the document, in order. In front of
most tags any text may stand that is no tag; only right behind an opening tag it has to be blank, or
the text of the element.

`Item.linesAll` prints a document by recursion on it. -/

namespace Reindent

/-! ## Items -/

/-- The tags of an element. -/
structure TagPair where
  opening : Tag
  closing : Tag
  opens : opening.kind = .opening
  closes : closing.kind = .closing
  matched : opening.closedBy closing = true
  deriving DecidableEq, Repr

inductive Item where
  | standalone (tag : Tag) (alone : tag.isStandalone = true)
  | element (tags : TagPair) (children : List Item)
  /-- An element that holds nothing but text. -/
  | leaf (tags : TagPair) (text : Text)

/-- The lines of an element around those in it. An element without any is one fused tag. -/
def Line.around (depth : Nat) (opening closing : Text) (inner : List Line) : List Line :=
  if inner = [] then [⟨depth, opening.dropLast ++ ['/', '>'], [], []⟩]
  else ⟨depth, opening, [], []⟩ :: (inner ++ [⟨depth, closing, [], []⟩])

namespace Item

/-! ## Printing -/

mutual

/-- The lines of an item at a depth of nesting. -/
def lines (depth : Nat) : Item → List Line
  | standalone tag _ => [⟨depth, tag.text, [], []⟩]
  | element tags children =>
    Line.around depth tags.opening.text tags.closing.text (linesAll (depth + 1) children)
  | leaf tags text => [⟨depth, tags.opening.text, text.unbroken.strip, tags.closing.text⟩]

def linesAll (depth : Nat) : List Item → List Line
  | [] => []
  | item :: items => item.lines depth ++ linesAll depth items

end

@[simp] theorem linesAll_nil (depth : Nat) : linesAll depth [] = [] := by
  rw [linesAll]

@[simp] theorem linesAll_cons (depth : Nat) (item : Item) (items : List Item) :
    linesAll depth (item :: items) = item.lines depth ++ linesAll depth items := by
  rw [linesAll]

theorem lines_ne_nil (depth : Nat) (item : Item) : item.lines depth ≠ [] := by
  cases item with
  | standalone tag alone => simp [lines]
  | element tags children =>
    rw [lines, Line.around]
    split <;> simp
  | leaf tags text => simp [lines]

theorem linesAll_eq_nil_iff {depth : Nat} {items : List Item} :
    linesAll depth items = [] ↔ items = [] := by
  cases items with
  | nil => simp
  | cons item items => simp [lines_ne_nil]

mutual

/-- The texts of the elements that hold text, as they are printed but for their references. -/
def texts : Item → List Text
  | standalone _ _ => []
  | element _ children => textsAll children
  | leaf _ text => [text.unbroken.strip]

def textsAll : List Item → List Text
  | [] => []
  | item :: items => item.texts ++ textsAll items

end

mutual

theorem text_of_mem_lines {l : Line} (depth : Nat) (item : Item) (h : l ∈ item.lines depth) :
    l.text = [] ∨ l.text ∈ item.texts := by
  cases item with
  | standalone tag alone =>
    rw [lines, List.mem_singleton] at h
    exact .inl (by rw [h])
  | element tags children =>
    rw [lines, Line.around] at h
    rw [texts]
    split at h
    · rw [List.mem_singleton] at h
      exact .inl (by rw [h])
    · simp only [List.mem_cons, List.mem_append, List.not_mem_nil, or_false] at h
      rcases h with rfl | h | rfl
      · exact .inl rfl
      · exact text_of_mem_linesAll (depth + 1) children h
      · exact .inl rfl
  | leaf tags text =>
    rw [lines, List.mem_singleton] at h
    exact .inr (by simp [h, texts])

/-- Only elements that hold text have text in their lines. -/
theorem text_of_mem_linesAll {l : Line} (depth : Nat) (items : List Item)
    (h : l ∈ linesAll depth items) : l.text = [] ∨ l.text ∈ textsAll items := by
  cases items with
  | nil => simp at h
  | cons item items =>
    rw [textsAll, List.mem_append]
    rw [linesAll_cons, List.mem_append] at h
    rcases h with h | h
    · exact (text_of_mem_lines depth item h).imp_right .inl
    · exact (text_of_mem_linesAll depth items h).imp_right .inr

end

/-- The lines of a document laid out. -/
def print (settings : Settings) (items : List Item) : Except Failure Text :=
  Line.layOutAll settings (linesAll 0 items)

/-! ## Spelling -/

/-- The pieces spell the items. If `behindOpen` holds they stand right behind an opening tag, and the
    text in front of the first of them has to be blank. -/
inductive Spelled : Bool → List Item → List Piece → Prop where
  | nil {behindOpen : Bool} : Spelled behindOpen [] []
  | standalone {behindOpen : Bool} {tag : Tag} {items : List Item} {p : Piece} {ps : List Piece}
      (hgap : behindOpen = true → p.gap.AllBlank) (htag : p.tag {} = .ok tag)
      (halone : tag.isStandalone = true) (hitems : Spelled false items ps) :
      Spelled behindOpen (.standalone tag halone :: items) (p :: ps)
  | element {behindOpen : Bool} {tags : TagPair} {children items : List Item} {p q : Piece}
      {inner ps : List Piece} (hgap : behindOpen = true → p.gap.AllBlank)
      (hopening : p.tag {} = .ok tags.opening) (hchildren : Spelled true children inner)
      (hempty : children = [] → q.gap.AllBlank) (hclosing : q.tag {} = .ok tags.closing)
      (hitems : Spelled false items ps) :
      Spelled behindOpen (.element tags children :: items) (p :: (inner ++ q :: ps))
  | leaf {behindOpen : Bool} {tags : TagPair} {items : List Item} {p q : Piece} {ps : List Piece}
      (hgap : behindOpen = true → p.gap.AllBlank) (hopening : p.tag {} = .ok tags.opening)
      (htext : ¬ q.gap.AllBlank) (hclosing : q.tag {} = .ok tags.closing)
      (hitems : Spelled false items ps) :
      Spelled behindOpen (.leaf tags q.gap :: items) (p :: q :: ps)

/-- Each item has a tag. -/
theorem Spelled.eq_nil_iff {behindOpen : Bool} {items : List Item} {ps : List Piece}
    (h : Spelled behindOpen items ps) : items = [] ↔ ps = [] := by
  cases h <;> simp

/-- The text spells the items, with blanks behind them. No items are spelled by the empty text
    only. -/
def Serialises (items : List Item) (t : Text) : Prop :=
  ∃ ps tail, t = ps.flatMap Piece.text ++ tail ∧ Spelled false items ps ∧ tail.AllBlank ∧
    (items = [] → tail = [])

end Item

end Reindent
