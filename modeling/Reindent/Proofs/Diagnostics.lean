-- SUMMARY: What a failed run says about its text: the tags it names and the line it gives.
import Mathlib.Data.List.Forall2
import Reindent.Proofs.BrokenTags
import Reindent.Proofs.Position
import Reindent.Proofs.ViablePrefix

/-! # Diagnostics

Of the tags in front of a place, those stay open that are left when each element, with its two tags
and all between them, is taken away: `Tag.LeavesOpen`. That is what the stack of a formatter holds,
so the tags that a failure names are found in the text without it. `Formatter.run_diagnosed`:
whatever the chunks, a run that fails says what is wrong with its text as `Diagnosed` has it, on the
line of the tag where it stopped or on the last line of the text. -/

namespace Reindent

/-! ## Tags that stay open -/

namespace Tag

/-- Nothing stays open between the tags: they stand alone, or come in pairs that match. -/
inductive Balanced : List Tag → Prop where
  | nil : Balanced []
  | alone {tag : Tag} {tags : List Tag} (halone : tag.isStandalone = true) (h : Balanced tags) :
      Balanced (tag :: tags)
  | pair {opening closing : Tag} {inner tags : List Tag} (hopening : opening.kind = .opening)
      (hinner : Balanced inner) (hclosing : closing.kind = .closing)
      (hname : opening.name = closing.name) (h : Balanced tags) :
      Balanced (opening :: (inner ++ closing :: tags))

/-- The tags that stay open among others, innermost first. Whatever comes behind the innermost of
    them is balanced. -/
inductive LeavesOpen : List Tag → List Tag → Prop where
  | none {tags : List Tag} (h : Balanced tags) : LeavesOpen tags []
  | more {opening : Tag} {tags inner opened : List Tag} (h : LeavesOpen tags opened)
      (hopening : opening.kind = .opening) (hinner : Balanced inner) :
      LeavesOpen (tags ++ opening :: inner) (opening :: opened)

variable {tag close : Tag} {tags others opened : List Tag}

theorem Balanced.append (h : Balanced tags) (h' : Balanced others) : Balanced (tags ++ others) := by
  induction h with
  | nil => exact h'
  | alone halone _ ih => exact .alone halone ih
  | pair hopening hinner hclosing hname _ _ ih =>
    rw [List.cons_append, List.append_assoc, List.cons_append]
    exact .pair hopening hinner hclosing hname ih

/-- What is balanced leaves open what was open before. -/
theorem LeavesOpen.append (h : LeavesOpen tags opened) (h' : Balanced others) :
    LeavesOpen (tags ++ others) opened := by
  cases h with
  | none h => exact .none (h.append h')
  | more h hopening hinner =>
    rw [List.append_assoc, List.cons_append]
    exact .more h hopening (hinner.append h')

theorem LeavesOpen.concat_alone (h : LeavesOpen tags opened) (halone : tag.isStandalone = true) :
    LeavesOpen (tags ++ [tag]) opened :=
  h.append (.alone halone .nil)

theorem LeavesOpen.concat_opening (h : LeavesOpen tags opened) (hkind : tag.kind = .opening) :
    LeavesOpen (tags ++ [tag]) (tag :: opened) :=
  .more h hkind .nil

/-- A tag that closes the innermost open one makes an element with it. -/
theorem LeavesOpen.concat_closing (h : LeavesOpen tags (tag :: opened))
    (hkind : close.kind = .closing) (hname : tag.name = close.name) :
    LeavesOpen (tags ++ [close]) opened := by
  cases h with
  | more h hopening hinner =>
    rw [List.append_assoc, List.cons_append]
    exact h.append (.pair hopening hinner hkind hname .nil)

/-- The tags that are open behind one more, if a closing tag closes the innermost one. -/
def stack (opened : List Tag) (tag : Tag) : List Tag :=
  match tag.kind with
  | .opening => tag :: opened
  | .closing => opened.tail
  | .selfClosing | .declaration => opened

theorem Balanced.foldl_stack (h : Balanced tags) (opened : List Tag) :
    tags.foldl stack opened = opened := by
  induction h generalizing opened with
  | nil => rfl
  | @alone tag _ halone _ ih =>
    have hstack : stack opened tag = opened := by
      unfold isStandalone at halone
      cases hkind : tag.kind <;> simp_all [stack]
    rw [List.foldl_cons, hstack, ih]
  | pair hopening _ hclosing _ _ ihinner ih =>
    rw [List.foldl_cons, List.foldl_append, ihinner, List.foldl_cons, ih]
    simp [stack, hopening, hclosing]

theorem LeavesOpen.foldl_stack (h : LeavesOpen tags opened) : tags.foldl stack [] = opened := by
  induction h with
  | none h => exact h.foldl_stack []
  | more _ hopening hinner ih =>
    rw [List.foldl_append, ih, List.foldl_cons, hinner.foldl_stack]
    simp [stack, hopening]

/-- There is only one way to take the elements away. -/
theorem LeavesOpen.iff_eq (h : LeavesOpen tags opened) (others : List Tag) :
    LeavesOpen tags others ↔ others = opened := by
  constructor
  · intro h'
    rw [← h.foldl_stack, h'.foldl_stack]
  · rintro rfl
    exact h

/-- The tag without the line it was read on. -/
def unplaced (tag : Tag) : Tag :=
  { tag with line := none }

end Tag

/-! ## Failures, seen from the text -/

/-- The tags of the pieces. -/
def Tagged : List Piece → List Tag → Prop :=
  List.Forall₂ fun p tag => p.tag {} = .ok tag

/-- What is wrong with the tag of `p` where the tags `opened` are open, innermost first. -/
inductive Offends (opened : List Tag) (p : Piece) : Problem → Prop where
  | broken (hlength : p.raw.unbroken.length < 3) :
      Offends opened p (.malformed (.brokenTag p.raw.unbroken))
  | stray {close : Tag} (htag : p.tag {} = .ok close) (hkind : close.kind = .closing)
      (hopened : opened = []) : Offends opened p (.malformed (.strayClose close.text))
  | mismatch {innermost close : Tag} (htag : p.tag {} = .ok close) (hkind : close.kind = .closing)
      (hopened : opened.head? = some innermost) (hname : innermost.name ≠ close.name) :
      Offends opened p (.mismatch innermost.text close.text)
  | mixed {innermost tag : Tag} (htag : p.tag {} = .ok tag) (hkind : tag.kind ≠ .closing)
      (hopened : opened.head? = some innermost) (htext : ¬ p.gap.AllBlank) :
      Offends opened p (.malformed (.mixedContent tag.text innermost.text))

/-- The line behind a text. -/
def Text.endLine (t : Text) (file : Option Text) : Location :=
  ⟨some (1 + t.lineEnds : Nat), file⟩

/-- What may be said of the text `s` when `count` of its tags have been read: the last of them is at
    fault, or the text ends too soon. -/
inductive Diagnosed (s : Text) (file : Option Text) (count : Nat) : DocumentError → Prop where
  | atTag {before after : List Piece} {p : Piece} {tags opened : List Tag} {problem : Problem}
      (hpieces : (Markup.ofText s).pieces = before ++ p :: after)
      (hcount : count = before.length + 1) (htags : Tagged before tags)
      (hopened : ∀ others, Tag.LeavesOpen tags others ↔ others = opened)
      (hoffends : Offends opened p problem) :
      Diagnosed s file count
        ⟨problem, Text.endLine (before.flatMap Piece.text ++ p.gap ++ '<' :: p.body) file⟩
  | cutShort {target : Text} :
      Diagnosed s file count ⟨.malformed (.endOfInput target), s.endLine file⟩
  | unclosed {tags opened : List Tag} (htags : Tagged (Markup.ofText s).pieces tags)
      (hopened : ∀ others, Tag.LeavesOpen tags others ↔ others = opened) (hne : opened ≠ []) :
      Diagnosed s file count
        ⟨.malformed (.unclosed (opened.reverse.map (·.text))), s.endLine file⟩

/-! ## Stages -/

namespace Stage

variable {tail : Text} {file : Option Text} {s t : Stage} {ps rest front : List Piece} {p : Piece}
  {lines : List Line} {tag : Tag} {e : DocumentError}

/-- The stage behind the pieces `ps` of a text, whose tags are `tags`. -/
structure Follows (s : Stage) (file : Option Text) (ps : List Piece) (tags : List Tag) : Prop where
  tagged : Tagged ps tags
  opened : Tag.LeavesOpen tags (s.opened.map Tag.unplaced)
  place : s.place = Place.pass {} (ps.flatMap Piece.text)
  file : s.file = file

theorem follows_start (file : Option Text) : Follows { file } file [] [] :=
  ⟨.nil, .none .nil, rfl, rfl⟩

variable {before : List Piece} {tags : List Tag}

theorem Follows.location_eq (h : s.Follows file before tags) (passed : Text) :
    s.location passed = Text.endLine (before.flatMap Piece.text ++ passed) file := by
  rw [location, Text.endLine, h.place, h.file, ← Place.pass_append, Place.line_pass_start]

section

variable (h : s.Follows file before tags) (htag : s.tagOf p = .ok tag) (held : Bool)
include h htag

/-- A tag further, with the tags that are open then. -/
theorem Follows.concat {opened : List Tag}
    (hopened : Tag.LeavesOpen (tags ++ [tag.unplaced]) (opened.map Tag.unplaced)) :
    Follows { s.behind p with opened, held } file (before ++ [p]) (tags ++ [tag.unplaced]) where
  tagged := List.rel_append h.tagged (.cons (tag_of_tagOf htag) .nil)
  opened := hopened
  place := by simp [behind, h.place, Place.pass_append]
  file := h.file

theorem Follows.alone (halone : tag.isStandalone = true) :
    Follows { s.behind p with held } file (before ++ [p]) (tags ++ [tag.unplaced]) :=
  h.concat htag held (h.opened.concat_alone halone)

theorem Follows.opening (hkind : tag.kind = .opening) :
    Follows { s.behind p with opened := tag :: s.opened, held } file (before ++ [p])
      (tags ++ [tag.unplaced]) :=
  h.concat htag held (h.opened.concat_opening hkind)

theorem Follows.closing {innermost : Tag} {outer : List Tag} (hkind : tag.kind = .closing)
    (hopened : s.opened = innermost :: outer) (hclosed : innermost.closedBy tag = true) :
    Follows { s.behind p with opened := outer, held } file (before ++ [p])
      (tags ++ [tag.unplaced]) := by
  have hleaves := h.opened
  rw [hopened] at hleaves
  exact h.concat htag held (hleaves.concat_closing hkind (beq_iff_eq.1 hclosed))

end

/-- One step further. -/
theorem Turn.follows (hturn : Turn tail s ps lines t rest) (h : s.Follows file before tags) :
    ∃ front others, ps = front ++ rest ∧ t.Follows file (before ++ front) others := by
  cases hturn with
  | close htag hkind hopened hclosed =>
    exact ⟨[_], _, rfl, h.closing htag false hkind hopened hclosed⟩
  | standalone htag halone => exact ⟨[_], _, rfl, h.alone htag false halone⟩
  | hold htag hkind => exact ⟨[_], _, rfl, h.opening htag true hkind⟩
  | leaf htag hkind _ hclose hclosing hclosed =>
    have hleaf := (h.opening htag false hkind).closing hclose false hclosing rfl hclosed
    rw [List.append_assoc] at hleaf
    exact ⟨[_, _], _, rfl, hleaf⟩

theorem Turns.follows (hturns : Turns tail s ps lines t rest) (h : s.Follows file before tags) :
    ∃ front others, ps = front ++ rest ∧ t.Follows file (before ++ front) others := by
  induction hturns generalizing before tags with
  | none => exact ⟨[], tags, rfl, by rwa [List.append_nil]⟩
  | more hturn _ ih =>
    obtain ⟨front, others, rfl, hfront⟩ := hturn.follows h
    obtain ⟨front', others', rfl, hfront'⟩ := ih hfront
    rw [List.append_assoc] at hfront'
    exact ⟨front ++ front', others', by rw [List.append_assoc], hfront'⟩

/-! ## Tags at fault -/

/-- What is wrong with a token that makes no tag. -/
theorem of_tagOf_eq_error (h : s.tagOf p = .error e) :
    e = ⟨.malformed (.brokenTag p.raw.unbroken), s.location (p.gap ++ '<' :: p.body)⟩ ∧
      p.raw.unbroken.length < 3 := by
  have hlength : p.raw.unbroken.length < 3 := by
    by_contra hlong
    obtain ⟨text, htag, -⟩ :=
      Piece.tag_eq (Nat.not_lt.1 hlong) (s.location (p.gap ++ '<' :: p.body))
    rw [tagOf, htag] at h
    cases h
  refine ⟨?_, hlength⟩
  unfold tagOf Piece.tag Tag.ofToken at h
  split at h
  · cases h
  · cases h
    rfl

/-- A tag is on the line of its `>`. -/
theorem location_of_tagOf (h : s.tagOf p = .ok tag) :
    ⟨tag.line, s.file⟩ = s.location (p.gap ++ '<' :: p.body) := by
  have htag := Piece.tag_of_tag h (s.location (p.gap ++ '<' :: p.body))
  rw [← tagOf, h] at htag
  have hline := congrArg Tag.line (Except.ok.inj htag)
  rw [hline]
  rfl

/-- What a stage says of a closing tag that it refuses. -/
theorem of_close_eq_error (h : (s.behind p).close tag = .error e) (htag : s.tagOf p = .ok tag)
    (hkind : tag.kind = .closing) :
    Offends (s.opened.map Tag.unplaced) p e.problem ∧
      e.location = s.location (p.gap ++ '<' :: p.body) := by
  have hread : p.tag {} = .ok tag.unplaced := tag_of_tagOf htag
  rw [← location_of_tagOf htag]
  unfold close at h
  split at h
  · rename_i hopened
    cases h
    have hnil : s.opened.map Tag.unplaced = [] := congrArg _ hopened
    have hoffends := Offends.stray hread hkind hnil
    exact ⟨hoffends, rfl⟩
  · rename_i innermost outer hopened
    split at h
    · cases h
    · rename_i hclosed
      cases h
      have hcons : (s.opened.map Tag.unplaced).head? = some innermost.unplaced := by
        rw [show s.opened = innermost :: outer from hopened]
        rfl
      have hoffends := Offends.mismatch hread hkind hcons fun heq => hclosed (beq_iff_eq.2 heq)
      exact ⟨hoffends, rfl⟩

/-- What a stage says of the tag behind the text of an element. -/
theorem of_leaf_eq_error {opened : List Tag} (h : s.leaf tag p = .error e)
    (htext : ¬ p.gap.AllBlank) :
    Offends (tag.unplaced :: opened) p e.problem ∧
      e.location = s.location (p.gap ++ '<' :: p.body) := by
  unfold leaf at h
  split at h
  · rename_i hclose
    cases h
    obtain ⟨rfl, hlength⟩ := of_tagOf_eq_error hclose
    exact ⟨.broken hlength, rfl⟩
  · rename_i close hclose
    have hread : p.tag {} = .ok close.unplaced := tag_of_tagOf hclose
    have hhead : (tag.unplaced :: opened).head? = some tag.unplaced := rfl
    rw [← location_of_tagOf hclose]
    split at h
    · rename_i hkind
      cases h
      have hoffends := Offends.mixed hread hkind hhead htext
      exact ⟨hoffends, rfl⟩
    · rename_i hkind
      split at h
      · cases h
      · rename_i hclosed
        cases h
        have hoffends := Offends.mismatch hread (not_not.1 hkind) hhead
          fun heq => hclosed (beq_iff_eq.2 heq)
        exact ⟨hoffends, rfl⟩

/-- A tag that is refused is at fault, seen from the tags in front of it. -/
theorem Refuses.offends (hrefuses : s.Refuses front p e) (h : s.Follows file before tags) :
    ∃ others opened, Tagged (before ++ front) others ∧
      (∀ us, Tag.LeavesOpen others us ↔ us = opened) ∧ Offends opened p e.problem ∧
      e.location =
        Text.endLine ((before ++ front).flatMap Piece.text ++ p.gap ++ '<' :: p.body) file := by
  rw [List.append_assoc]
  cases hrefuses with
  | broken htag =>
    obtain ⟨rfl, hlength⟩ := of_tagOf_eq_error htag
    rw [List.append_nil, ← h.location_eq]
    exact ⟨tags, _, h.tagged, h.opened.iff_eq, .broken hlength, rfl⟩
  | close htag hkind hclose =>
    rw [List.append_nil, ← h.location_eq]
    exact ⟨tags, _, h.tagged, h.opened.iff_eq, of_close_eq_error hclose htag hkind⟩
  | leaf htag hkind htext hleaf =>
    have hopening := h.opening htag false hkind
    rw [← hopening.location_eq]
    obtain ⟨hoffends, hlocation⟩ := of_leaf_eq_error hleaf htext
    exact ⟨_, _, hopening.tagged, hopening.opened.iff_eq, hoffends, hlocation⟩

/-! ## Texts that end too soon -/

theorem not_allBlank_of_tagNext (h : tagNext [] tail) : ¬ tail.AllBlank := by
  intro hblank
  rw [tagNext, List.flatMap_nil, List.nil_append, Text.allBlank_iff_dropWhile.1 hblank] at h
  cases h

/-- What a run says of a text that ends behind `ps` though one more tag is asked for. -/
theorem of_run_eq_error (hready : s.Ready ps) (h : (s.run tail ps).2 = .error e) :
    (∃ target, e = ⟨.malformed (.endOfInput target), s.location (ps.flatMap Piece.text ++ tail)⟩) ∨
      ps = [] ∧ s.opened ≠ [] ∧
        e = ⟨.malformed (.unclosed (s.opened.reverse.map (·.text))), s.location tail⟩ := by
  obtain rfl | ⟨p, tag, rfl, htag, hkind⟩ := hready
  · rw [run_nil, finish] at h
    split at h
    · cases h
      exact .inl ⟨_, rfl⟩
    · split at h
      · cases h
      · rename_i hopened
        cases h
        exact .inr ⟨rfl, hopened, rfl⟩
  · left
    have hlocation : s.location ([p].flatMap Piece.text ++ tail) = (s.behind p).location tail := by
      simp [location, behind, Place.pass_append]
    rw [hlocation]
    by_cases hnext : tagNext [] tail
    · rw [run_of_turn (.hold htag hkind hnext), run_nil, finish,
        if_pos (not_allBlank_of_tagNext hnext)] at h
      cases h
      exact ⟨_, rfl⟩
    · have herror : s.next p [] tail = .error ((s.behind p).cutShort tail) := by
        simp only [next, openElement, htag, hkind, if_neg hnext]
      rw [run] at h
      split at h
      · rename_i herror'
        rw [herror] at herror'
        cases herror'
        cases h
        exact ⟨_, rfl⟩
      · rename_i hok
        rw [herror] at hok
        cases hok

end Stage

/-! ## Runs -/

namespace Formatter

variable {settings : Settings} {written : List Text} {g : Formatter}

/-- Without references to resolve, a run fails with what is wrong with its text. -/
theorem RunOutcome.exists_error {layout : List (List Line) × Except DocumentError Unit}
    {failure : Failure} (h : RunOutcome settings written layout (.error failure, g))
    (hresolve : settings.resolveReferences = false) :
    ∃ e, failure = .document e ∧ layout.2 = .error e := by
  cases h with
  | @refused _ _ e _ _ hts hfailure hg =>
    rcases hfailure with rfl | ⟨text, htext⟩
    · exact ⟨e, rfl, rfl⟩
    · rw [resolved_of_not_resolve hresolve] at htext
      cases htext
  | @unresolved groups _ _ _ hts =>
    obtain ⟨out, hout⟩ := Line.exists_layOutAll_of_not_resolve hresolve groups.flatten
    rw [Line.layOutAll_flatten, hts] at hout
    cases hout

variable {s : Text} {file : Option Text} {t : Stage} {before rest : List Piece} {tags : List Tag}
  {e : DocumentError}

/-- A text that ends though one more tag is asked for. -/
theorem diagnosed_of_ready {count : Nat} (hpieces : (Markup.ofText s).pieces = before ++ rest)
    (hfollows : t.Follows file before tags) (hready : t.Ready rest)
    (herror : (t.run (Markup.ofText s).tail rest).2 = .error e) : Diagnosed s file count e := by
  have hs :
      before.flatMap Piece.text ++ (rest.flatMap Piece.text ++ (Markup.ofText s).tail) = s := by
    rw [← List.append_assoc, ← List.flatMap_append, ← hpieces]
    exact Markup.text_ofText s
  rcases Stage.of_run_eq_error hready herror with ⟨target, rfl⟩ | ⟨rfl, hopened, rfl⟩
  · rw [hfollows.location_eq, hs]
    exact .cutShort
  · rw [List.append_nil] at hpieces
    rw [List.flatMap_nil, List.nil_append] at hs
    have hunclosed : Diagnosed s file count _ :=
      .unclosed (hpieces ▸ hfollows.tagged) hfollows.opened.iff_eq (by simpa using hopened)
    rw [← List.map_reverse, List.map_map] at hunclosed
    rw [hfollows.location_eq, hs]
    exact hunclosed

/-- A run from the start that the layout of its text stops is diagnosed. -/
theorem diagnosed_of_stops {feed : Feed} (hshows : feed.Shows s)
    (hresolve : settings.resolveReferences = false) {sink : Sink}
    (hsink : ∀ call t, sink.refuses call t = none)
    (hsome : ¬ ((Markup.ofText s).pieces = [] ∧ (Markup.ofText s).tail ≠ []))
    (hlayout : (Stage.run (Markup.ofText s).tail { file } (Markup.ofText s).pieces).2 = .error e) :
    Diagnosed s file (run { settings, cursor := { feed, file }, sink }).2.tags e := by
  obtain ⟨t, rest, hturns, hstops⟩ := Stage.stops_of_run hlayout
  obtain ⟨before, tags, hpieces, hfollows⟩ := hturns.follows (Stage.follows_start file)
  rw [List.nil_append] at hfollows
  rcases hstops with ⟨front, p, after, rfl, hrefuses⟩ | ⟨hready, -⟩
  · have hstands := stands_of_start hshows settings file sink hsink hsome
    obtain ⟨f, written, hrun, hf, hpassed⟩ :=
      stands_of_turns hstands (Markup.ofText s).unfinished hresolve hturns
    have hcount := tags_of_refuses hf (Markup.ofText s).unfinished hresolve hrefuses
    obtain ⟨others, opened, htags, hopened, hoffends, hlocation⟩ := hrefuses.offends hfollows
    obtain ⟨problem, location⟩ := e
    cases hlocation
    have hcut : (Markup.ofText s).pieces = (before ++ front) ++ p :: after := by simp [hpieces]
    refine .atTag hcut ?_ htags hopened hoffends
    rw [hrun, hcount]
    rw [hpieces, List.length_append] at hpassed
    simp only [List.length_append, List.length_cons] at hpassed ⊢
    omega
  · rw [(Stage.run_of_turns hturns).2] at hlayout
    exact diagnosed_of_ready hpieces hfollows hready hlayout

/-- Whatever the chunks of the source and the place that it writes to, a run that fails because of
    its text says what is wrong there. -/
theorem run_diagnosed {stream : Stream} {s : Text} {settings : Settings}
    (hsize : 1 ≤ settings.chunkSize) (hresolve : settings.resolveReferences = false)
    (h : (stream settings.chunkSize.toNat).Delivers s) {sink : Sink}
    (hsink : ∀ call t, sink.refuses call t = none) (file : Option Text) :
    ∃ f, start stream sink settings file = .ok f ∧
      ∀ failure g, f.run = (.error failure, g) →
        ∃ e, failure = .document e ∧ Diagnosed s file g.tags e := by
  obtain ⟨feed, hshows, hstart⟩ := start_eq_ok settings hsize h sink file
  refine ⟨_, hstart, ?_⟩
  intro failure g hrun
  have houtcome := outcome_layout hshows settings file sink hsink
  rw [hrun] at houtcome
  obtain ⟨e, rfl, hlayout⟩ := houtcome.exists_error hresolve
  refine ⟨e, rfl, ?_⟩
  by_cases hnone : (Markup.ofText s).pieces = [] ∧ (Markup.ofText s).tail ≠ []
  · have hs := Markup.text_ofText s
    rw [Markup.text, hnone.1, List.flatMap_nil, List.nil_append] at hs
    rw [Text.layout, if_pos hnone] at hlayout
    cases hlayout
    rw [Stage.cutShort, (Stage.follows_start file).location_eq, hs]
    exact .cutShort
  · rw [Text.layout, if_neg hnone] at hlayout
    have hdiagnosed := diagnosed_of_stops hshows hresolve hsink hnone hlayout
    rwa [hrun] at hdiagnosed

/-- A closing tag on the second line does not match the open one. The line end between them is cut
    in two. -/
theorem run_diagnosed_mismatch :
    let s : Text := ['<', 'a', '>', '\r', '\n', '<', '/', 'b', '>']
    let settings : Settings := { resolveReferences := false }
    ∃ f g, start (fun _ => Reads.ofChunks [s.take 4, s.drop 4]) {} settings none = .ok f ∧
      f.run = (.error (.mismatch ['<', 'a', '>'] ['<', '/', 'b', '>'] ⟨some 2, none⟩), g) ∧
      Diagnosed s none g.tags ⟨.mismatch ['<', 'a', '>'] ['<', '/', 'b', '>'], ⟨some 2, none⟩⟩ := by
  intro s settings
  let f : Formatter :=
    { settings, cursor := { feed := ⟨some (s.take 4), .text (s.drop 4) .ended, 4⟩ }, sink := {} }
  have hf : start (fun _ => Reads.ofChunks [s.take 4, s.drop 4]) {} settings none = .ok f := rfl
  have hdelivers : (Reads.ofChunks [s.take 4, s.drop 4]).Delivers s :=
    .chunk (by decide) (.chunk (by decide) .ended)
  obtain ⟨f', hstart, hfails⟩ := @run_diagnosed (fun _ => _) s settings (by decide) rfl hdelivers {}
    (fun _ _ => rfl) none
  rw [hf] at hstart
  cases hstart
  have hfirst : step f = (.ok (), (step f).2) := rfl
  have hsecond : step (step f).2 =
      (.error (.mismatch ['<', 'a', '>'] ['<', '/', 'b', '>'] ⟨some 2, none⟩),
        (step (step f).2).2) := rfl
  have hrun := (run_of_step_ok (by decide) hfirst).trans (run_of_step_error (by decide) hsecond)
  obtain ⟨e, he, hdiagnosed⟩ := hfails _ _ hrun
  cases he
  exact ⟨f, _, hf, hrun, hdiagnosed⟩

end Formatter

end Reindent
