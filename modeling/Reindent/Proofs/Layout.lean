-- SUMMARY: The lines that a text is laid out in, said of its pieces alone, without streams or sinks.
import Reindent.Formatter
import Reindent.Proofs.Markup

/-! # Layout

What a formatter lays out is settled by the pieces of the text. A stage is what it has to remember
between two tags: the open tags, whether the innermost one is still held back, and the place in the
text. `Stage.next` takes the stage past one tag, or past the two tags of an element that holds text,
and gives the lines that are settled by it; `Stage.run` does so for all pieces.

How the lines look in the end is left to `Line.layOut`. -/

namespace Reindent

/-! ## Texts -/

namespace Formatter

@[simp] theorem resolved_nil (settings : Settings) : resolved settings [] = .ok [] := by
  unfold resolved
  split
  · rw [Reference.resolve]
    rfl
  · rfl

theorem resolved_of_not_resolve {settings : Settings} (h : settings.resolveReferences = false)
    (text : Text) : resolved settings text = .ok text := by
  simp [resolved, h]

end Formatter

/-! ## Lines -/

/-- A line before it is indented and the references in its text are resolved. -/
structure Line where
  depth : Nat
  /-- The tag in front of the text, or all of a line that holds no text. -/
  before : Text
  text : Text := []
  after : Text := []
  deriving DecidableEq, Repr

namespace Line

def layOut (settings : Settings) (l : Line) : Except Failure Text :=
  (Formatter.resolved settings l.text).map fun text =>
    settings.indentation l.depth ++ l.before ++ text ++ l.after

theorem layOut_of_resolved {settings : Settings} {l : Line} {text : Text}
    (h : Formatter.resolved settings l.text = .ok text) :
    l.layOut settings = .ok (settings.indentation l.depth ++ l.before ++ text ++ l.after) := by
  rw [layOut, h]
  rfl

/-- A line without text is laid out as it stands. -/
theorem layOut_of_tag (settings : Settings) (depth : Nat) (text : Text) :
    layOut settings ⟨depth, text, [], []⟩ = .ok (settings.indentation depth ++ text) := by
  simp [layOut, Except.map]

/-- The lines one after the other, each with its line end. -/
def layOutAll (settings : Settings) : List Line → Except Failure Text
  | [] => .ok []
  | l :: ls =>
    match l.layOut settings with
    | .error e => .error e
    | .ok t => (layOutAll settings ls).map (t ++ '\n' :: ·)

theorem layOutAll_cons_eq_ok_iff {settings : Settings} {l : Line} {ls : List Line} {out : Text} :
    layOutAll settings (l :: ls) = .ok out ↔
      ∃ t u, l.layOut settings = .ok t ∧ layOutAll settings ls = .ok u ∧ out = t ++ '\n' :: u := by
  cases hl : l.layOut settings with
  | error e => simp [layOutAll, hl]
  | ok t =>
    cases hls : layOutAll settings ls with
    | error e => simp [layOutAll, hl, hls, Except.map]
    | ok u => simp [layOutAll, hl, hls, Except.map, eq_comm]

theorem layOutAll_append (settings : Settings) (ls ms : List Line) :
    layOutAll settings (ls ++ ms) =
      match layOutAll settings ls with
      | .error e => .error e
      | .ok t => (layOutAll settings ms).map (t ++ ·) := by
  induction ls with
  | nil => cases h : layOutAll settings ms <;> simp [layOutAll, h, Except.map]
  | cons l ls ih =>
    simp only [List.cons_append, layOutAll, ih]
    cases l.layOut settings with
    | error e => rfl
    | ok t =>
      cases layOutAll settings ls with
      | error e => rfl
      | ok u => cases layOutAll settings ms <;> simp [Except.map]

theorem layOutAll_append_eq_ok_iff {settings : Settings} {ls ms : List Line} {out : Text} :
    layOutAll settings (ls ++ ms) = .ok out ↔
      ∃ t u, layOutAll settings ls = .ok t ∧ layOutAll settings ms = .ok u ∧ out = t ++ u := by
  rw [layOutAll_append]
  cases layOutAll settings ls with
  | error e => simp
  | ok t => cases layOutAll settings ms <;> simp [Except.map, eq_comm]

/-- The texts that are written for groups of lines: one for each group that has lines. -/
def writes (settings : Settings) : List (List Line) → Except Failure (List Text)
  | [] => .ok []
  | group :: groups =>
    match layOutAll settings group with
    | .error e => .error e
    | .ok t => (writes settings groups).map ((if group = [] then [] else [t]) ++ ·)

theorem writes_cons_eq_ok_iff {settings : Settings} {group : List Line} {groups : List (List Line)}
    {ts : List Text} :
    writes settings (group :: groups) = .ok ts ↔
      ∃ t us, layOutAll settings group = .ok t ∧ writes settings groups = .ok us ∧
        ts = (if group = [] then [] else [t]) ++ us := by
  rw [writes]
  cases layOutAll settings group with
  | error e => simp
  | ok t => cases writes settings groups <;> simp [Except.map, eq_comm]

/-- Cutting the lines into groups makes no difference to what is written in all. -/
theorem layOutAll_flatten (settings : Settings) (groups : List (List Line)) :
    layOutAll settings groups.flatten = (writes settings groups).map List.flatten := by
  induction groups with
  | nil => rfl
  | cons group groups ih =>
    rw [List.flatten_cons, layOutAll_append, writes, ih]
    cases hgroup : layOutAll settings group with
    | error e => rfl
    | ok t =>
      cases writes settings groups with
      | error e => rfl
      | ok ts =>
        by_cases hnil : group = []
        · subst hnil
          cases hgroup
          simp [Except.map]
        · simp [Except.map, hnil]

/-- Only references can keep a line from being laid out. -/
theorem exists_layOutAll_iff {settings : Settings} {ls : List Line} :
    (∃ out, layOutAll settings ls = .ok out) ↔
      ∀ l ∈ ls, ∃ u, Formatter.resolved settings l.text = .ok u := by
  induction ls with
  | nil => simp [layOutAll]
  | cons l ls ih =>
    rw [List.forall_mem_cons, ← ih]
    cases hl : Formatter.resolved settings l.text with
    | error e => simp [layOutAll, layOut, hl, Except.map]
    | ok u => cases hls : layOutAll settings ls <;> simp [layOutAll, layOut, hl, hls, Except.map]

theorem exists_layOutAll_of_not_resolve {settings : Settings}
    (h : settings.resolveReferences = false) (ls : List Line) :
    ∃ out, layOutAll settings ls = .ok out :=
  exists_layOutAll_iff.2 fun l _ => ⟨l.text, Formatter.resolved_of_not_resolve h l.text⟩

end Line

/-! ## Stages -/

/-- What is remembered between two tags. -/
structure Stage where
  /-- The tags that are open, innermost first. -/
  opened : List Tag := []
  /-- Whether the innermost open tag is held back. -/
  held : Bool := false
  /-- The place behind the last tag. -/
  place : Place := {}
  file : Option Text := none
  deriving DecidableEq, Repr

namespace Stage

def depth (s : Stage) : Nat :=
  s.opened.length

/-- The line of the tag that is held back, if one is. -/
def heldLines (s : Stage) : List Line :=
  match s.held, s.opened with
  | true, tag :: outer => [⟨outer.length, tag.text, [], []⟩]
  | _, _ => []

/-- The location that is reached by passing a text. -/
def location (s : Stage) (passed : Text) : Location :=
  ⟨some (s.place.pass passed).line, s.file⟩

/-- The tag of a piece. It ends on the line of its `>`. -/
def tagOf (s : Stage) (p : Piece) : Except DocumentError Tag :=
  p.tag (s.location (p.gap ++ '<' :: p.body))

def behind (s : Stage) (p : Piece) : Stage :=
  { s with place := s.place.pass p.text }

/-- What is wrong with a text that goes on without a complete tag. -/
def cutShort (s : Stage) (tail : Text) : DocumentError :=
  ⟨.malformed (.endOfInput (if '<' ∈ tail then ['>'] else ['<'])), s.location tail⟩

/-- A closing tag. If the tag it closes is held back, the two are fused. -/
def close (s : Stage) (tag : Tag) : Except DocumentError (List Line × Stage) :=
  match s.opened with
  | [] => .error ⟨.malformed (.strayClose tag.text), ⟨tag.line, s.file⟩⟩
  | innermost :: outer =>
    if innermost.closedBy tag then
      let line := if s.held then innermost.text.dropLast ++ ['/', '>'] else tag.text
      .ok ([⟨outer.length, line, [], []⟩], { s with opened := outer, held := false })
    else .error ⟨.mismatch innermost.text tag.text, ⟨tag.line, s.file⟩⟩

/-- An element that holds text: `tag` opens it, and `p` is the text with the tag behind it. -/
def leaf (s : Stage) (tag : Tag) (p : Piece) : Except DocumentError (List Line × Stage) :=
  match s.tagOf p with
  | .error e => .error e
  | .ok close =>
    if close.kind ≠ .closing then
      .error ⟨.malformed (.mixedContent close.text tag.text), ⟨close.line, s.file⟩⟩
    else if tag.closedBy close then
      .ok (s.heldLines ++ [⟨s.depth, tag.text, p.gap.unbroken.strip, close.text⟩],
        { s.behind p with held := false })
    else .error ⟨.mismatch tag.text close.text, ⟨close.line, s.file⟩⟩

/-- Whether another tag is next, with nothing but blanks in front of it. -/
def tagNext (ps : List Piece) (tail : Text) : Prop :=
  ((ps.flatMap Piece.text ++ tail).dropWhile Text.isBlank).head? = some '<'

instance (ps : List Piece) (tail : Text) : Decidable (tagNext ps tail) :=
  inferInstanceAs (Decidable (_ = _))

/-- An opening tag. It is held back if another tag is next. -/
def openElement (s : Stage) (tag : Tag) (ps : List Piece) (tail : Text) :
    Except DocumentError (List Line × Stage × List Piece) :=
  if tagNext ps tail then
    .ok (s.heldLines, { s with opened := tag :: s.opened, held := true }, ps)
  else
    match ps with
    | [] => .error (s.cutShort tail)
    | p :: ps =>
      match s.leaf tag p with
      | .error e => .error e
      | .ok (lines, t) => .ok (lines, t, ps)

/-- Takes the stage past the tag of `p`, with the pieces `ps` and then `tail` behind it. Gives the
    lines that are settled, and the pieces that are left. -/
def next (s : Stage) (p : Piece) (ps : List Piece) (tail : Text) :
    Except DocumentError (List Line × Stage × List Piece) :=
  match s.tagOf p with
  | .error e => .error e
  | .ok tag =>
    match tag.kind with
    | .closing =>
      match (s.behind p).close tag with
      | .error e => .error e
      | .ok (lines, t) => .ok (lines, t, ps)
    | .selfClosing | .declaration =>
      .ok (s.heldLines ++ [⟨s.depth, tag.text, [], []⟩], { s.behind p with held := false }, ps)
    | .opening => (s.behind p).openElement tag ps tail

/-! ## What one step can do -/

/-- A step of the layout: `Turn tail s ps lines t rest` goes from stage `s` with the pieces `ps`
    ahead to stage `t` with the pieces `rest` ahead, and settles `lines`. -/
inductive Turn (tail : Text) :
    Stage → List Piece → List Line → Stage → List Piece → Prop where
  | close {s : Stage} {p : Piece} {ps : List Piece} {tag innermost : Tag} {outer : List Tag}
      (htag : s.tagOf p = .ok tag) (hkind : tag.kind = .closing)
      (hopened : s.opened = innermost :: outer) (hclosed : innermost.closedBy tag = true) :
      Turn tail s (p :: ps)
        [⟨outer.length, if s.held then innermost.text.dropLast ++ ['/', '>'] else tag.text, [], []⟩]
        { s.behind p with opened := outer, held := false } ps
  | standalone {s : Stage} {p : Piece} {ps : List Piece} {tag : Tag}
      (htag : s.tagOf p = .ok tag) (halone : tag.isStandalone = true) :
      Turn tail s (p :: ps) (s.heldLines ++ [⟨s.depth, tag.text, [], []⟩])
        { s.behind p with held := false } ps
  | hold {s : Stage} {p : Piece} {ps : List Piece} {tag : Tag}
      (htag : s.tagOf p = .ok tag) (hkind : tag.kind = .opening) (hnext : tagNext ps tail) :
      Turn tail s (p :: ps) s.heldLines { s.behind p with opened := tag :: s.opened, held := true } ps
  | leaf {s : Stage} {p q : Piece} {ps : List Piece} {tag close : Tag}
      (htag : s.tagOf p = .ok tag) (hkind : tag.kind = .opening) (hnext : ¬ tagNext (q :: ps) tail)
      (hclose : (s.behind p).tagOf q = .ok close) (hclosing : close.kind = .closing)
      (hclosed : tag.closedBy close = true) :
      Turn tail s (p :: q :: ps)
        (s.heldLines ++ [⟨s.depth, tag.text, q.gap.unbroken.strip, close.text⟩])
        { (s.behind p).behind q with held := false } ps

variable {tail : Text} {s t : Stage} {p : Piece} {ps rest : List Piece} {lines : List Line}

theorem next_of_turn (h : Turn tail s (p :: ps) lines t rest) :
    s.next p ps tail = .ok (lines, t, rest) := by
  cases h with
  | close htag hkind hopened hclosed =>
    simp [next, close, behind, htag, hkind, hopened, hclosed]
  | standalone htag halone =>
    rename_i tag
    unfold Tag.isStandalone at halone
    cases hkind : tag.kind <;> simp [next, htag, hkind] at halone ⊢
  | hold htag hkind hnext =>
    simp only [next, openElement, htag, hkind, if_pos hnext]
    rfl
  | leaf htag hkind hnext hclose hclosing hclosed =>
    simp only [next, openElement, Stage.leaf, htag, hkind, if_neg hnext, hclose, hclosing, hclosed]
    rfl

theorem of_close_eq_ok {tag : Tag} (h : s.close tag = .ok (lines, t)) :
    ∃ innermost outer, s.opened = innermost :: outer ∧ innermost.closedBy tag = true ∧
      lines = [⟨outer.length,
        if s.held then innermost.text.dropLast ++ ['/', '>'] else tag.text, [], []⟩] ∧
      t = { s with opened := outer, held := false } := by
  unfold close at h
  split at h
  · cases h
  · rename_i innermost outer hopened
    split at h
    · rename_i hclosed
      cases h
      exact ⟨innermost, outer, hopened, hclosed, rfl, rfl⟩
    · cases h

theorem of_leaf_eq_ok {tag : Tag} (h : s.leaf tag p = .ok (lines, t)) :
    ∃ close, s.tagOf p = .ok close ∧ close.kind = .closing ∧ tag.closedBy close = true ∧
      lines = s.heldLines ++ [⟨s.depth, tag.text, p.gap.unbroken.strip, close.text⟩] ∧
      t = { s.behind p with held := false } := by
  unfold leaf at h
  split at h
  · cases h
  · rename_i close hclose
    split at h
    · cases h
    · rename_i hclosing
      split at h
      · rename_i hclosed
        cases h
        exact ⟨close, hclose, Decidable.not_not.1 hclosing, hclosed, rfl, rfl⟩
      · cases h

theorem turn_of_next (h : s.next p ps tail = .ok (lines, t, rest)) :
    Turn tail s (p :: ps) lines t rest := by
  unfold next at h
  split at h
  · cases h
  · rename_i tag htag
    split at h
    · rename_i hkind
      split at h
      · cases h
      · rename_i hclose
        cases h
        obtain ⟨innermost, outer, hopened, hclosed, rfl, rfl⟩ := of_close_eq_ok hclose
        exact .close htag hkind hopened hclosed
    · rename_i hkind
      cases h
      exact .standalone htag (by simp [Tag.isStandalone, hkind])
    · rename_i hkind
      cases h
      exact .standalone htag (by simp [Tag.isStandalone, hkind])
    · rename_i hkind
      unfold openElement at h
      split at h
      · rename_i hnext
        cases h
        exact .hold htag hkind hnext
      · rename_i hnext
        split at h
        · cases h
        · split at h
          · cases h
          · rename_i hleaf
            cases h
            obtain ⟨close, hclose, hclosing, hclosed, rfl, rfl⟩ := of_leaf_eq_ok hleaf
            exact .leaf htag hkind hnext hclose hclosing hclosed

theorem length_of_turn {ps : List Piece} (h : Turn tail s ps lines t rest) :
    rest.length < ps.length := by
  cases h <;> simp only [List.length_cons] <;> omega

/-! ## Whole texts -/

/-- What comes of the end of the text, behind the last tag. -/
def finish (s : Stage) (tail : Text) : Except DocumentError Unit :=
  if ¬ tail.AllBlank then .error (s.cutShort tail)
  else if s.opened = [] then .ok ()
  else .error ⟨.malformed (.unclosed (s.opened.reverse.map (·.text))), s.location tail⟩

/-- The lines of all pieces, in groups, one for each step, and what comes of it. -/
def run (tail : Text) (s : Stage) (ps : List Piece) :
    List (List Line) × Except DocumentError Unit :=
  match ps with
  | [] => ([], s.finish tail)
  | p :: ps =>
    match _hnext : s.next p ps tail with
    | .error e => ([], .error e)
    | .ok (lines, t, rest) =>
      let (groups, result) := run tail t rest
      (lines :: groups, result)
termination_by ps.length
decreasing_by exact length_of_turn (turn_of_next _hnext)

@[simp] theorem run_nil (tail : Text) (s : Stage) : run tail s [] = ([], s.finish tail) := by
  rw [run]

theorem run_of_turn {ps : List Piece} (h : Turn tail s ps lines t rest) :
    run tail s ps = (lines :: (run tail t rest).1, (run tail t rest).2) := by
  cases ps with
  | nil => cases h
  | cons p ps =>
    have hnext := next_of_turn h
    rw [run]
    split
    · rename_i herror
      rw [hnext] at herror
      cases herror
    · rename_i hok
      rw [hnext] at hok
      cases hok
      rfl

/-! ## Several steps -/

/-- Any number of steps, with the lines of all of them. -/
inductive Turns (tail : Text) :
    Stage → List Piece → List Line → Stage → List Piece → Prop where
  | none {s : Stage} {ps : List Piece} : Turns tail s ps [] s ps
  | more {s t u : Stage} {ps qs rs : List Piece} {lines others : List Line}
      (hturn : Turn tail s ps lines t qs) (hturns : Turns tail t qs others u rs) :
      Turns tail s ps (lines ++ others) u rs

theorem Turns.trans {u : Stage} {ps qs rs : List Piece} {others : List Line}
    (h : Turns tail s ps lines t qs) (h' : Turns tail t qs others u rs) :
    Turns tail s ps (lines ++ others) u rs := by
  induction h with
  | none => exact h'
  | more hturn hturns ih =>
    rw [List.append_assoc]
    exact .more hturn (ih h')

/-- A run goes through the steps and on from there. -/
theorem run_of_turns {ps : List Piece} (h : Turns tail s ps lines t rest) :
    (run tail s ps).1.flatten = lines ++ (run tail t rest).1.flatten ∧
      (run tail s ps).2 = (run tail t rest).2 := by
  induction h with
  | none => exact ⟨rfl, rfl⟩
  | more hturn hturns ih =>
    rw [run_of_turn hturn]
    exact ⟨by simp [ih.1], ih.2⟩

end Stage

/-- The lines of a text, in groups, and what comes of laying it out. An empty text has no lines; a
    text without any tag is cut short, even if it is blank. -/
def Text.layout (t : Text) (file : Option Text) : List (List Line) × Except DocumentError Unit :=
  let m := Markup.ofText t
  if m.pieces = [] ∧ m.tail ≠ [] then ([], .error (Stage.cutShort { file } m.tail))
  else Stage.run m.tail { file } m.pieces

theorem Text.layout_eq_run {t : Text} {file : Option Text} (h : (t.layout file).2 = .ok ()) :
    t.layout file = Stage.run (Markup.ofText t).tail { file } (Markup.ofText t).pieces := by
  by_cases hnone : (Markup.ofText t).pieces = [] ∧ (Markup.ofText t).tail ≠ []
  · rw [layout, if_pos hnone] at h
    cases h
  · rw [layout, if_neg hnone]

end Reindent
