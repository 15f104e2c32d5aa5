-- SUMMARY: The texts that can be laid out are those that spell a document, and are printed as it.
import Reindent.Proofs.Document
import Reindent.Proofs.Simulation

/-! # The language of the formatter

The layout of a text takes one tag after the other and remembers the open ones; documents are trees.
`turns_of_spelled` takes a layout through the pieces of a list of items, by induction on how they are
spelled. `closes_of_run` is the way back: what a layout that succeeds still has in front of it at any
stage are the rests of the open elements, innermost first. -/

namespace Reindent

/-! ## Tags in their places -/

namespace Stage

variable {s t : Stage} {p : Piece} {ps : List Piece} {tail : Text} {tag : Tag}

theorem tag_of_tagOf (h : s.tagOf p = .ok tag) : p.tag {} = .ok { tag with line := none } :=
  Piece.tag_of_tag h {}

theorem tagOf_of_tag (h : p.tag {} = .ok tag) :
    s.tagOf p = .ok { tag with line := (s.location (p.gap ++ '<' :: p.body)).line } :=
  Piece.tag_of_tag h _

/-- A tag is next if nothing but blanks stands in front of it. -/
theorem tagNext_cons_iff : tagNext (p :: ps) tail ↔ p.gap.AllBlank := by
  unfold tagNext
  rw [List.flatMap_cons, List.append_assoc, Piece.text_eq]
  constructor
  · intro h
    by_contra hgap
    have hne : p.gap.dropWhile Text.isBlank ≠ [] := fun hnil =>
      hgap (Text.allBlank_iff_dropWhile.2 hnil)
    obtain ⟨c, cs, hcs⟩ := List.exists_cons_of_ne_nil hne
    rw [List.dropWhile_append, if_neg (by simpa using hne), hcs, List.cons_append,
      List.head?_cons, Option.some.injEq] at h
    exact p.gap_free ((List.dropWhile_suffix Text.isBlank).mem (by rw [hcs, h]; simp))
  · intro hgap
    rw [List.dropWhile_append_of_pos hgap, List.dropWhile_cons_of_neg (by decide)]
    rfl

end Stage

/-! ## From documents to layouts -/

namespace Item

open Stage

variable {items children : List Item} {inner rest : List Piece} {q : Piece} {tail : Text}

/-- Behind an opening tag another tag is next, be it of a child or its own. -/
theorem Spelled.tagNext (h : Spelled true children inner) (hempty : children = [] → q.gap.AllBlank) :
    Stage.tagNext (inner ++ q :: rest) tail := by
  cases h with
  | nil => exact tagNext_cons_iff.2 (hempty rfl)
  | standalone hgap => exact tagNext_cons_iff.2 (hgap rfl)
  | element hgap => exact tagNext_cons_iff.2 (hgap rfl)
  | leaf hgap => exact tagNext_cons_iff.2 (hgap rfl)

/-- A layout goes through the pieces of a list of items and is at the same depth behind them. If the
    tag in front of them was held back, it is laid out before the first item. -/
theorem turns_of_spelled (tail : Text) {behindOpen : Bool} (h : Spelled behindOpen items inner)
    (s : Stage) (hheld : s.held = behindOpen) (rest : List Piece) :
    ∃ t, Turns tail s (inner ++ rest)
        ((if items = [] then [] else s.heldLines) ++ linesAll s.depth items) t rest ∧
      t.opened = s.opened ∧ t.held = (behindOpen && items.isEmpty) := by
  -- Behind an item nothing is held back, so the lines of the items that follow it come alone.
  have hfree (s : Stage) (hs : s.held = false) (items : List Item) :
      (if items = [] then [] else s.heldLines) = [] := by simp [heldLines, hs]
  induction h generalizing s rest with
  | nil => exact ⟨s, .none, rfl, by simpa using hheld⟩
  | @standalone behindOpen tag items p ps hgap htag halone hitems ih =>
    have hturn : Turn tail s (p :: (ps ++ rest)) _ _ _ := .standalone (tagOf_of_tag htag) halone
    obtain ⟨t, hturns, hopened, hheld'⟩ := ih { s.behind p with held := false } rfl rest
    refine ⟨t, ?_, hopened, by simpa using hheld'⟩
    rw [hfree _ rfl] at hturns
    change Turns tail _ (ps ++ rest) ([] ++ linesAll s.depth items) t rest at hturns
    simpa [lines] using Turns.more hturn hturns
  | @element behindOpen tags children items p q inner ps hgap hopening hchildren hempty hclosing
      hitems ihchildren ihitems =>
    have hhold : Turn tail s (p :: (inner ++ q :: (ps ++ rest))) s.heldLines _ _ :=
      .hold (tagOf_of_tag hopening) tags.opens (hchildren.tagNext hempty)
    obtain ⟨t₁, hinner, hopened₁, hheld₁⟩ := ihchildren
      { s.behind p with
        opened := { tags.opening with line := (s.location (p.gap ++ '<' :: p.body)).line } :: s.opened
        held := true } rfl (q :: (ps ++ rest))
    have hclose : Turn tail t₁ (q :: (ps ++ rest)) _ _ _ :=
      .close (tagOf_of_tag hclosing) tags.closes hopened₁ tags.matched
    obtain ⟨t, hturns, hopened, hheld'⟩ :=
      ihitems { t₁.behind q with opened := s.opened, held := false } rfl rest
    refine ⟨t, ?_, hopened, by simpa using hheld'⟩
    rw [hfree _ rfl] at hturns
    change Turns tail _ (ps ++ rest) ([] ++ linesAll s.depth items) t rest at hturns
    change Turns tail _ (inner ++ q :: (ps ++ rest)) ((if children = [] then [] else
      [⟨s.depth, tags.opening.text, [], []⟩]) ++ linesAll (s.depth + 1) children) t₁ _ at hinner
    have hall := Turns.more hhold (hinner.trans (.more hclose hturns))
    by_cases hchildren : children = []
    · subst hchildren
      simpa [lines, Line.around, hheld₁, Stage.depth] using hall
    · simpa [lines, Line.around, hheld₁, hchildren, linesAll_eq_nil_iff, Stage.depth] using hall
  | @leaf behindOpen tags items p q ps hgap hopening htext hclosing hitems ih =>
    have hturn : Turn tail s (p :: q :: (ps ++ rest)) _ _ _ :=
      .leaf (tagOf_of_tag hopening) tags.opens (fun hnext => htext (tagNext_cons_iff.1 hnext))
        (tagOf_of_tag hclosing) tags.closes tags.matched
    obtain ⟨t, hturns, hopened, hheld'⟩ := ih { (s.behind p).behind q with held := false } rfl rest
    refine ⟨t, ?_, hopened, by simpa using hheld'⟩
    rw [hfree _ rfl] at hturns
    change Turns tail _ (ps ++ rest) ([] ++ linesAll s.depth items) t rest at hturns
    simpa [lines] using Turns.more hturn hturns

/-! ## From layouts to documents -/

/-- One item in front of others. -/
theorem Spelled.cons {behindOpen : Bool} {item : Item} {ps : List Piece}
    (h : Spelled behindOpen [item] inner) (hitems : Spelled false items ps) :
    Spelled behindOpen (item :: items) (inner ++ ps) := by
  cases h with
  | standalone hgap htag halone hnil =>
    cases hnil
    exact .standalone hgap htag halone hitems
  | element hgap hopening hchildren hempty hclosing hnil =>
    cases hnil
    simpa using Spelled.element hgap hopening hchildren hempty hclosing hitems
  | leaf hgap hopening htext hclosing hnil =>
    cases hnil
    exact .leaf hgap hopening htext hclosing hitems

/-- The pieces end the open elements, innermost first, and may hold further items in front of each
    end and behind all of them. The lines start with that of the tag held back, if one is. -/
def Closes : List Tag → Bool → List Piece → List Line → Prop
  | [], held, ps, ls => ∃ items, Spelled held items ps ∧ ls = linesAll 0 items
  | innermost :: outer, held, ps, ls =>
    ∃ (items : List Item) (inner rest : List Piece) (q : Piece) (close : Tag) (others : List Line),
      ps = inner ++ q :: rest ∧ Spelled held items inner ∧
      (held = true → items = [] → q.gap.AllBlank) ∧
      q.tag {} = .ok close ∧ close.kind = .closing ∧ innermost.closedBy close = true ∧
      Closes outer false rest others ∧
      ls = (if held then
          Line.around outer.length innermost.text close.text (linesAll (outer.length + 1) items)
        else linesAll (outer.length + 1) items ++ [⟨outer.length, close.text, [], []⟩]) ++ others

/-- An item in front of what ends the open elements. The tag held back is laid out before it. -/
theorem Closes.cons {s : Stage} {item : Item} {ps : List Piece} {ls : List Line}
    (h : Closes s.opened false ps ls) (hitem : Spelled s.held [item] inner) :
    Closes s.opened s.held (inner ++ ps) (s.heldLines ++ item.lines s.depth ++ ls) := by
  unfold Stage.heldLines Stage.depth
  cases hopened : s.opened with
  | nil =>
    rw [hopened] at h
    obtain ⟨items, hitems, rfl⟩ := h
    exact ⟨item :: items, hitem.cons hitems, by simp⟩
  | cons innermost outer =>
    rw [hopened] at h
    obtain ⟨items, inner', rest, q, close, others, rfl, hitems, -, hclose, hkind, hclosed, hothers,
      rfl⟩ := h
    refine ⟨item :: items, inner ++ inner', rest, q, close, others, by simp, hitem.cons hitems,
      by simp, hclose, hkind, hclosed, hothers, ?_⟩
    cases s.held with
    | false => simp
    | true => simp [Line.around, lines_ne_nil]

/-- A step back: what a stage has in front of it ends its open elements if that is so behind the
    step. -/
theorem closes_of_turn {s t : Stage} {ps : List Piece} {ls others : List Line}
    (h : Turn tail s ps ls t rest) (hheld : s.held = true → Stage.tagNext ps tail)
    (hrest : Closes t.opened t.held rest others) : Closes s.opened s.held ps (ls ++ others) := by
  cases h with
  | @close p _ tag innermost outer htag hkind hopened hclosed =>
    have hgap : s.held = true → p.gap.AllBlank := fun hs => tagNext_cons_iff.1 (hheld hs)
    rw [hopened]
    refine ⟨[], [], rest, p, _, others, rfl, .nil, fun hs _ => hgap hs, tag_of_tagOf htag, hkind,
      hclosed, hrest, ?_⟩
    cases s.held <;> simp [Line.around]
  | @standalone p _ tag htag halone =>
    have hgap : s.held = true → p.gap.AllBlank := fun hs => tagNext_cons_iff.1 (hheld hs)
    have hitem : Spelled s.held [.standalone { tag with line := none } halone] [p] :=
      .standalone hgap (tag_of_tagOf htag) halone .nil
    simpa [lines] using Closes.cons (s := s) hrest hitem
  | @hold p _ tag htag hkind hnext =>
    have hgap : s.held = true → p.gap.AllBlank := fun hs => tagNext_cons_iff.1 (hheld hs)
    obtain ⟨items, inner, rest, q, close, others, rfl, hitems, hempty, hclose, hclosing, hclosed,
      hothers, rfl⟩ := hrest
    have hitem : Spelled s.held [.element ⟨{ tag with line := none }, close, hkind, hclosing, hclosed⟩
        items] (p :: (inner ++ [q])) :=
      .element hgap (tag_of_tagOf htag) hitems (hempty rfl) hclose .nil
    simpa [lines, Stage.depth] using hothers.cons hitem
  | @leaf p q _ tag close htag hkind hnext hclose hclosing hclosed =>
    have hgap : s.held = true → p.gap.AllBlank := fun hs => tagNext_cons_iff.1 (hheld hs)
    have hitem : Spelled s.held [.leaf ⟨{ tag with line := none }, { close with line := none }, hkind,
        hclosing, hclosed⟩ q.gap] [p, q] :=
      .leaf hgap (tag_of_tagOf htag) (fun hblank => hnext (tagNext_cons_iff.2 hblank))
        (tag_of_tagOf hclose) .nil
    simpa [lines] using Closes.cons (s := s) hrest hitem

theorem held_of_turn {s t : Stage} {ps : List Piece} {ls : List Line}
    (h : Turn tail s ps ls t rest) (hheld : t.held = true) : Stage.tagNext rest tail := by
  cases h with
  | close => cases hheld
  | standalone => cases hheld
  | hold htag hkind hnext => exact hnext
  | leaf => cases hheld

/-- The pieces in front of a layout that succeeds end its open elements. -/
theorem closes_of_run {s : Stage} {ps : List Piece} (hheld : s.held = true → Stage.tagNext ps tail)
    (h : (s.run tail ps).2 = .ok ()) :
    tail.AllBlank ∧ Closes s.opened s.held ps (s.run tail ps).1.flatten := by
  fun_induction Stage.run tail s ps with
  | case1 s =>
    unfold Stage.finish at h
    split at h
    · cases h
    · rename_i htail
      split at h
      · rename_i hopened
        rw [hopened]
        exact ⟨not_not.1 htail, [], .nil, by simp⟩
      · cases h
  | case2 s p ps e hnext => cases h
  | case3 s p ps lines t rest hnext groups result hrun ih =>
    have hturn := turn_of_next hnext
    rw [hrun] at ih
    obtain ⟨htail, hcloses⟩ := ih (held_of_turn hturn) h
    exact ⟨htail, closes_of_turn hturn hheld hcloses⟩

/-! ## The language -/

/-- The pieces of a text that spells something are its tags. -/
theorem markup_of_serialises {ps : List Piece} {t : Text} (ht : t = ps.flatMap Piece.text ++ tail)
    (htail : tail.AllBlank) : (Markup.ofText t).pieces = ps ∧ (Markup.ofText t).tail = tail := by
  have hunfinished : tail.Unfinished := .of_not_mem (htail.not_mem (by decide))
  have heq := Markup.ofText_text ⟨ps, tail, hunfinished⟩
  rw [Markup.text, ← ht] at heq
  rw [heq]
  exact ⟨rfl, rfl⟩

/-- A text has a layout exactly if it spells a document, and its lines are those of the document. -/
theorem layout_eq_ok_iff {t : Text} {ls : List Line} (file : Option Text) :
    (t.layout file).2 = .ok () ∧ (t.layout file).1.flatten = ls ↔
      ∃ items, Serialises items t ∧ linesAll 0 items = ls := by
  constructor
  · rintro ⟨hok, rfl⟩
    by_cases hnone : (Markup.ofText t).pieces = [] ∧ (Markup.ofText t).tail ≠ []
    · rw [Text.layout, if_pos hnone] at hok
      cases hok
    · rw [Text.layout, if_neg hnone] at hok ⊢
      obtain ⟨htail, items, hspelled, hlines⟩ := closes_of_run (by simp) hok
      refine ⟨items, ⟨_, _, (Markup.text_ofText t).symm, hspelled, htail, ?_⟩, hlines.symm⟩
      rintro rfl
      by_contra hne
      exact hnone ⟨hspelled.eq_nil_iff.1 rfl, hne⟩
  · rintro ⟨items, ⟨ps, tail, ht, hspelled, htail, hempty⟩, rfl⟩
    obtain ⟨hps, htail'⟩ := markup_of_serialises ht htail
    have hsome : ¬ ((Markup.ofText t).pieces = [] ∧ (Markup.ofText t).tail ≠ []) := by
      rw [hps, htail']
      rintro ⟨rfl, hne⟩
      cases hspelled
      exact hne (hempty rfl)
    obtain ⟨u, hturns, hopened, -⟩ := turns_of_spelled tail hspelled { file } rfl []
    obtain ⟨hlines, hresult⟩ := run_of_turns hturns
    rw [List.append_nil] at hlines hresult
    rw [Text.layout, if_neg hsome, hps, htail', hlines, hresult]
    simp [Stage.finish, htail, hopened, Stage.heldLines, Stage.depth]

/-- However a text is taken for a document, it has the same lines. -/
theorem linesAll_eq_of_serialises {others : List Item} {t : Text} (h : Serialises items t)
    (h' : Serialises others t) : linesAll 0 items = linesAll 0 others := by
  obtain ⟨-, hlines⟩ := (layout_eq_ok_iff none).2 ⟨items, h, rfl⟩
  obtain ⟨-, hlines'⟩ := (layout_eq_ok_iff none).2 ⟨others, h', rfl⟩
  rw [← hlines, ← hlines']

/-- A document can be printed if the references in its texts can be resolved. -/
theorem exists_print {settings : Settings}
    (h : ∀ text ∈ textsAll items, ∃ u, Formatter.resolved settings text = .ok u) :
    ∃ out, print settings items = .ok out := by
  refine Line.exists_layOutAll_iff.2 fun l hl => ?_
  rcases text_of_mem_linesAll 0 items hl with hnil | hmem
  · exact ⟨[], by rw [hnil, Formatter.resolved_nil]⟩
  · exact h l.text hmem

/-- A stream is formatted without failure exactly if its text spells a document that can be
    printed. -/
theorem formatted_iff {stream : Stream} {s out : Text} {settings : Settings}
    (hsize : 1 ≤ settings.chunkSize) (h : (stream settings.chunkSize.toNat).Delivers s)
    (file : Option Text) :
    (∃ counts, (formatStream stream {} settings file).result = .ok counts ∧
      (formatStream stream {} settings file).sink.content = out) ↔
    ∃ items, Serialises items s ∧ print settings items = .ok out := by
  rw [formatStream_eq_ok_iff hsize h file]
  constructor
  · rintro ⟨hok, hout⟩
    obtain ⟨items, hitems, hlines⟩ := (layout_eq_ok_iff file).1 ⟨hok, rfl⟩
    exact ⟨items, hitems, by rw [print, hlines, hout]⟩
  · rintro ⟨items, hitems, hout⟩
    obtain ⟨hok, hlines⟩ := (layout_eq_ok_iff file).2 ⟨items, hitems, rfl⟩
    exact ⟨hok, by rw [hlines]; exact hout⟩

/-- A text in memory is formatted if in addition its chunks have a size that can be asked for. -/
theorem formattedText_iff {settings : Settings} {s out : Text} :
    (∃ counts, formatText settings s = .ok (out, counts)) ↔
      (1 ≤ settings.chunkSize ∧ settings.chunkSize.toNat ≤ Capacity.count) ∧
      ∃ items, Serialises items s ∧ print settings items = .ok out := by
  by_cases hsize : 1 ≤ settings.chunkSize ∧ settings.chunkSize.toNat ≤ Capacity.count
  · have hdelivers : (Reads.counted (Reads.ofText s) settings.chunkSize.toNat).Delivers s :=
      Reads.delivers_counted hsize.2 (Reads.delivers_ofText (by omega) s)
    rw [← formatted_iff hsize.1 hdelivers none]
    unfold formatText
    cases hresult : (formatStream (Reads.counted (Reads.ofText s)) {} settings none).result with
    | error e => simp [hresult, Except.map]
    | ok counts => simp [hresult, Except.map, hsize]
  · have hstart : ∃ e,
        Formatter.start (Reads.counted (Reads.ofText s)) {} settings none = .error e := by
      unfold Formatter.start Cursor.start
      by_cases hone : settings.chunkSize < 1
      · rw [if_pos hone]
        exact ⟨_, rfl⟩
      · have hcount : ¬ settings.chunkSize.toNat ≤ Capacity.count := fun hcount =>
          hsize ⟨by omega, hcount⟩
        rw [if_neg hone, Reads.counted, if_neg hcount]
        exact ⟨_, rfl⟩
    obtain ⟨e, hstart⟩ := hstart
    constructor
    · rintro ⟨counts, h⟩
      simp [formatText, formatStream, hstart, Except.map] at h
    · rintro ⟨h, -⟩
      exact absurd h hsize

end Item

/-- The language of the formatter and what it makes of it, whatever the chunks of the source: it
    accepts the texts that spell a document, unless a reference in them fails, and writes the
    document as it is printed. -/
theorem formatStream_language {stream : Stream} {s : Text} {settings : Settings}
    (hsize : 1 ≤ settings.chunkSize) (h : (stream settings.chunkSize.toNat).Delivers s)
    (file : Option Text) :
    (∀ out,
      (∃ counts, (formatStream stream {} settings file).result = .ok counts ∧
        (formatStream stream {} settings file).sink.content = out) ↔
      ∃ items, Item.Serialises items s ∧ Item.print settings items = .ok out) ∧
    ∀ items, Item.Serialises items s →
      (∀ text ∈ Item.textsAll items, ∃ u, Formatter.resolved settings text = .ok u) →
      ∃ counts, (formatStream stream {} settings file).result = .ok counts := by
  refine ⟨fun out => Item.formatted_iff hsize h file, fun items hitems htexts => ?_⟩
  obtain ⟨out, hout⟩ := Item.exists_print htexts
  obtain ⟨counts, hcounts, -⟩ := (Item.formatted_iff hsize h file).2 ⟨items, hitems, hout⟩
  exact ⟨counts, hcounts⟩

/-- An element with text in an element, a text that counts for nothing, and blanks behind it all. -/
theorem formatStream_language_nested :
    ∃ counts,
      (formatStream (Reads.ofText ['<', 'a', '>', ' ', '<', 'b', '>', 'x', '\n', '<', '/', 'b', '>',
        'y', '<', '/', 'a', '>', ' ']) {} ⟨['\t'], 3, false⟩ none).result = .ok counts ∧
      (formatStream (Reads.ofText ['<', 'a', '>', ' ', '<', 'b', '>', 'x', '\n', '<', '/', 'b', '>',
        'y', '<', '/', 'a', '>', ' ']) {} ⟨['\t'], 3, false⟩ none).sink.content =
      ['<', 'a', '>', '\n', '\t', '<', 'b', '>', 'x', '<', '/', 'b', '>', '\n', '<', '/', 'a', '>',
        '\n'] := by
  have hchild : Item.Spelled true
      [.leaf ⟨⟨['<', 'b', '>'], .opening, ['b'], none⟩, ⟨['<', '/', 'b', '>'], .closing, ['b'], none⟩,
        rfl, rfl, rfl⟩ ['x', '\n']] _ :=
    .leaf (p := ⟨[' '], ['b'], by decide, by decide⟩)
      (q := ⟨['x', '\n'], ['/', 'b'], by decide, by decide⟩) (fun _ => by decide) rfl (by decide) rfl
      .nil
  have hitem : Item.Spelled false
      [.element ⟨⟨['<', 'a', '>'], .opening, ['a'], none⟩,
        ⟨['<', '/', 'a', '>'], .closing, ['a'], none⟩, rfl, rfl, rfl⟩ _]
      (⟨[], ['a'], by decide, by decide⟩ :: (_ ++ [⟨['y'], ['/', 'a'], by decide, by decide⟩])) :=
    .element (fun h => by cases h) rfl hchild (fun h => by cases h) rfl .nil
  exact ((formatStream_language (by decide) (Reads.delivers_ofText (by decide) _) none).1 _).2
    ⟨_, ⟨_, [' '], rfl, hitem, by decide, fun h => by cases h⟩, rfl⟩

end Reindent
