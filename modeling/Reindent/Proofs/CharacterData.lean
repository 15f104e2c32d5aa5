-- SUMMARY: What becomes of the text between tags: which of it is kept, and which is dropped unseen.
import Reindent.Proofs.Language

/-! # Character data

Text right behind an opening tag is the text of its element, and an element with text and anything
else in it is refused. Text in any other place is dropped without being looked at: in front of the
first tag, and behind a closing tag or one that stands alone. So nothing is lost exactly if there are
only blanks in those places. -/

namespace Reindent

namespace Piece

/-- The tag of the piece opens an element. -/
def Opens (p : Piece) : Prop :=
  ∃ tag, p.tag {} = .ok tag ∧ tag.kind = .opening

/-- What follows the pieces stands right behind an opening tag. -/
def EndOpen (ps : List Piece) : Prop :=
  ∃ p ∈ ps.getLast?, p.Opens

/-- The text in front of `q` is that of the element opened by `p`, and stands between its tags in
    `out`, without its line breaks and the blanks around it. -/
def HoldsText (settings : Settings) (out : Text) (p q : Piece) : Prop :=
  ∃ opening closing depth, p.tag {} = .ok opening ∧ opening.kind = .opening ∧
    q.tag {} = .ok closing ∧ closing.kind = .closing ∧ opening.closedBy closing = true ∧
    settings.indentation depth ++ opening.text ++ q.gap.unbroken.strip ++ closing.text ++ ['\n'] <:+:
      out

/-- Some element holds the text in front of `q`, which the pieces `before` stand in front of. -/
def TextKept (settings : Settings) (out : Text) (before : List Piece) (q : Piece) : Prop :=
  ∃ p ∈ before.getLast?, HoldsText settings out p q

theorem EndOpen.append (ps : List Piece) {qs : List Piece} (h : EndOpen qs) :
    EndOpen (ps ++ qs) := by
  obtain ⟨q, hq, hopens⟩ := h
  refine ⟨q, ?_, hopens⟩
  rw [Option.mem_def] at hq ⊢
  rw [List.getLast?_append, hq, Option.some_or]

/-- A piece of an element and what follows it: in the element, its closing tag, or behind it. -/
theorem split_at {inner ps before after : List Piece} {r q : Piece}
    (h : inner ++ r :: ps = before ++ q :: after) :
    (∃ others, inner = before ++ q :: others ∧ after = others ++ r :: ps) ∨
    (before = inner ∧ q = r ∧ after = ps) ∨
    ∃ others, before = inner ++ r :: others ∧ ps = others ++ q :: after := by
  rcases List.append_eq_append_iff.1 h with ⟨others, rfl, hcut⟩ | ⟨others, rfl, hcut⟩
  · cases others with
    | nil =>
      cases hcut
      exact .inr (.inl ⟨by simp, rfl, rfl⟩)
    | cons r' others =>
      cases hcut
      exact .inr (.inr ⟨others, rfl, rfl⟩)
  · cases others with
    | nil =>
      cases hcut
      exact .inr (.inl ⟨by simp, rfl, rfl⟩)
    | cons q' others =>
      cases hcut
      exact .inl ⟨others, rfl, rfl⟩

end Piece

/-! ## Text that is kept -/

/-- A line stands in the text that it is laid out in. -/
theorem Line.infix_of_mem {settings : Settings} {ls : List Line} {l : Line} {t out : Text}
    (hl : l ∈ ls) (ht : l.layOut settings = .ok t) (hout : layOutAll settings ls = .ok out) :
    t ++ ['\n'] <:+: out := by
  obtain ⟨before, after, rfl⟩ := List.append_of_mem hl
  obtain ⟨u, v, -, hv, rfl⟩ := layOutAll_append_eq_ok_iff.1 hout
  obtain ⟨t', w, ht', -, rfl⟩ := layOutAll_cons_eq_ok_iff.1 hv
  rw [ht] at ht'
  cases ht'
  exact ⟨u, w, by simp⟩

namespace Stage

variable {tail : Text} {s t : Stage} {ps rest before after : List Piece} {p q : Piece}
  {lines : List Line} {opening tag : Tag}

theorem eq_of_tagOf (h : s.tagOf p = .ok tag) (hopening : p.tag {} = .ok opening) :
    opening = { tag with line := none } := by
  rw [tag_of_tagOf h] at hopening
  cases hopening
  rfl

theorem kind_of_tagOf (h : s.tagOf p = .ok tag) (hopening : p.tag {} = .ok opening) :
    opening.kind = tag.kind := by
  rw [eq_of_tagOf h hopening]

/-- A step from an opening tag with text behind it is that of an element with text. -/
theorem leaf_of_turn (h : Turn tail s (p :: q :: ps) lines t rest)
    (hopening : p.tag {} = .ok opening) (hkind : opening.kind = .opening)
    (htext : ¬ q.gap.AllBlank) :
    ∃ closing, q.tag {} = .ok closing ∧ closing.kind = .closing ∧
      opening.closedBy closing = true ∧
      ⟨s.depth, opening.text, q.gap.unbroken.strip, closing.text⟩ ∈ lines := by
  cases h with
  | close htag hkind' =>
    rw [kind_of_tagOf htag hopening, hkind'] at hkind
    cases hkind
  | standalone htag halone =>
    rw [kind_of_tagOf htag hopening] at hkind
    simp [Tag.isStandalone, hkind] at halone
  | hold htag hkind' hnext => exact absurd (tagNext_cons_iff.1 hnext) htext
  | leaf htag hkind' hnext hclose hclosing hclosed =>
    rw [eq_of_tagOf htag hopening]
    exact ⟨_, tag_of_tagOf hclose, hclosing, hclosed, by simp⟩

/-- A step over one tag leaves the others, and a step over an element with text does not end at an
    opening tag. -/
theorem rest_of_turn (h : Turn tail s (q :: (before ++ p :: ps)) lines t rest) (hopens : p.Opens) :
    ∃ before', rest = before' ++ p :: ps := by
  cases before with
  | nil =>
    cases h with
    | close => exact ⟨[], rfl⟩
    | standalone => exact ⟨[], rfl⟩
    | hold => exact ⟨[], rfl⟩
    | leaf htag hkind hnext hclose hclosing =>
      obtain ⟨opening, hopening, hkind'⟩ := hopens
      rw [kind_of_tagOf hclose hopening, hclosing] at hkind'
      cases hkind'
  | cons q' before =>
    cases h with
    | close => exact ⟨q' :: before, rfl⟩
    | standalone => exact ⟨q' :: before, rfl⟩
    | hold => exact ⟨q' :: before, rfl⟩
    | leaf => exact ⟨before, rfl⟩

/-- Text behind an opening tag is that of its element if the layout succeeds, for then the next tag
    closes it. -/
theorem leaf_of_run (h : (s.run tail ps).2 = .ok ()) (hps : ps = before ++ p :: q :: after)
    (hopening : p.tag {} = .ok opening) (hkind : opening.kind = .opening)
    (htext : ¬ q.gap.AllBlank) :
    ∃ closing depth, q.tag {} = .ok closing ∧ closing.kind = .closing ∧
      opening.closedBy closing = true ∧
      ⟨depth, opening.text, q.gap.unbroken.strip, closing.text⟩ ∈ (s.run tail ps).1.flatten := by
  fun_induction Stage.run tail s ps generalizing before with
  | case1 s => simp at hps
  | case2 s p ps e hnext => cases h
  | case3 s p₁ ps₁ lines t rest hnext groups result hrun ih =>
    have hturn := turn_of_next hnext
    rw [hrun] at ih
    cases before with
    | nil =>
      cases hps
      obtain ⟨closing, hclosing, hkind', hclosed, hmem⟩ := leaf_of_turn hturn hopening hkind htext
      exact ⟨closing, s.depth, hclosing, hkind', hclosed, by simp [hmem]⟩
    | cons p₁ before =>
      rw [List.cons_append, List.cons.injEq] at hps
      rw [hps.2] at hturn
      obtain ⟨before', hrest⟩ := rest_of_turn hturn ⟨opening, hopening, hkind⟩
      obtain ⟨closing, depth, hclosing, hkind', hclosed, hmem⟩ := ih h hrest
      exact ⟨closing, depth, hclosing, hkind', hclosed, by simp [hmem]⟩

end Stage

/-! ## Text that is dropped -/

/-- The token of a piece makes its tag, whatever text is in front. -/
theorem Piece.tag_of_body {p q : Piece} (h : p.body = q.body) (location : Location) :
    p.tag location = q.tag location := by
  rw [Piece.tag, Piece.tag, Piece.raw, Piece.raw, h]

namespace Item

/-- Other text may be put in front of a tag, unless it stands right behind an opening tag. -/
theorem Spelled.replace {behindOpen : Bool} {items : List Item} {ps before after : List Piece}
    {q q' : Piece} (h : Spelled behindOpen items ps) (hps : ps = before ++ q :: after)
    (hbody : q'.body = q.body) (hfirst : behindOpen = true → before ≠ [])
    (hbefore : ¬ Piece.EndOpen before) : Spelled behindOpen items (before ++ q' :: after) := by
  induction h generalizing before after with
  | nil => simp at hps
  | @standalone behindOpen tag items p ps hgap htag halone hitems ih =>
    cases before with
    | nil =>
      cases hps
      exact .standalone (fun hb => absurd rfl (hfirst hb)) (by rw [Piece.tag_of_body hbody, htag])
        halone hitems
    | cons p' before =>
      rw [List.cons_append, List.cons.injEq] at hps
      obtain ⟨rfl, hps⟩ := hps
      exact .standalone hgap htag halone (ih hps (fun hb => by cases hb)
        fun hopen => hbefore (hopen.append [p]))
  | @element behindOpen tags children items p r inner ps hgap hopening hchildren hempty hclosing
      hitems ihchildren ihitems =>
    cases before with
    | nil =>
      cases hps
      exact .element (fun hb => absurd rfl (hfirst hb)) (by rw [Piece.tag_of_body hbody, hopening])
        hchildren hempty hclosing hitems
    | cons p' before =>
      rw [List.cons_append, List.cons.injEq] at hps
      obtain ⟨rfl, hps⟩ := hps
      have hne : before ≠ [] := by
        rintro rfl
        exact hbefore ⟨p, rfl, tags.opening, hopening, tags.opens⟩
      rcases Piece.split_at hps with ⟨others, rfl, rfl⟩ | ⟨rfl, rfl, rfl⟩ | ⟨others, rfl, rfl⟩
      · have hinner := ihchildren rfl (fun _ => hne) fun hopen => hbefore (hopen.append [p])
        simpa using Spelled.element hgap hopening hinner hempty hclosing hitems
      · -- In front of its closing tag the element may hold any text, for it has children.
        exact .element hgap hopening hchildren
          (fun hnil => absurd (hchildren.eq_nil_iff.1 hnil) hne)
          (by rw [Piece.tag_of_body hbody, hclosing]) hitems
      · have hrest := ihitems rfl (fun hb => by cases hb) fun hopen =>
          hbefore (by simpa using hopen.append (p :: (inner ++ [r])))
        simpa using Spelled.element hgap hopening hchildren hempty hclosing hrest
  | @leaf behindOpen tags items p r ps hgap hopening htext hclosing hitems ih =>
    cases before with
    | nil =>
      cases hps
      exact .leaf (fun hb => absurd rfl (hfirst hb)) (by rw [Piece.tag_of_body hbody, hopening])
        htext hclosing hitems
    | cons p' before =>
      rw [List.cons_append, List.cons.injEq] at hps
      obtain ⟨rfl, hps⟩ := hps
      cases before with
      | nil => exact absurd ⟨p, rfl, tags.opening, hopening, tags.opens⟩ hbefore
      | cons r' before =>
        rw [List.cons_append, List.cons.injEq] at hps
        obtain ⟨rfl, hps⟩ := hps
        exact .leaf hgap hopening htext hclosing (ih hps (fun hb => by cases hb)
          fun hopen => hbefore (hopen.append [p, r]))

end Item

/-! ## Whole texts -/

section

variable {stream : Stream} {s out : Text} {settings : Settings} {file : Option Text}
  {counts : Counts} (hsize : 1 ≤ settings.chunkSize) (h : (stream settings.chunkSize.toNat).Delivers s)
  (hok : (formatStream stream {} settings file).result = .ok counts)
  (hout : (formatStream stream {} settings file).sink.content = out)

include hsize h hok hout

theorem textKept_of_endOpen (hresolve : settings.resolveReferences = false)
    {before after : List Piece} {q : Piece}
    (hpieces : (Markup.ofText s).pieces = before ++ q :: after) (hbefore : Piece.EndOpen before)
    (htext : ¬ q.gap.AllBlank) : Piece.TextKept settings out before q := by
  obtain ⟨hlayout, hlines⟩ := (formatStream_eq_ok_iff hsize h file).1 ⟨counts, hok, hout⟩
  obtain ⟨p, hp, opening, hopening, hkind⟩ := hbefore
  obtain ⟨init, rfl⟩ := List.getLast?_eq_some_iff.1 hp
  rw [List.append_assoc, List.singleton_append] at hpieces
  have hrun := Text.layout_eq_run hlayout
  rw [hrun] at hlayout hlines
  obtain ⟨closing, depth, hclosing, hkind', hclosed, hmem⟩ :=
    Stage.leaf_of_run hlayout hpieces hopening hkind htext
  have hline : Line.layOut settings ⟨depth, opening.text, q.gap.unbroken.strip, closing.text⟩ =
      .ok (settings.indentation depth ++ opening.text ++ q.gap.unbroken.strip ++ closing.text) :=
    Line.layOut_of_resolved (Formatter.resolved_of_not_resolve hresolve _)
  exact ⟨p, hp, opening, closing, depth, hopening, hkind, hclosing, hkind', hclosed,
    Line.infix_of_mem hmem hline hlines⟩

/-- Text that does not stand right behind an opening tag may be any other. -/
theorem formatStream_of_replaced {before after : List Piece} {q q' : Piece}
    (hpieces : (Markup.ofText s).pieces = before ++ q :: after) (hbefore : ¬ Piece.EndOpen before)
    (hbody : q'.body = q.body) {stream' : Stream}
    (h' : (stream' settings.chunkSize.toNat).Delivers
      ((before ++ q' :: after).flatMap Piece.text ++ (Markup.ofText s).tail)) :
    ∃ counts', (formatStream stream' {} settings file).result = .ok counts' ∧
      (formatStream stream' {} settings file).sink.content = out := by
  obtain ⟨items, ⟨ps, tail, hs, hspelled, htail, hempty⟩, hprint⟩ :=
    (Item.formatted_iff hsize h file).1 ⟨counts, hok, hout⟩
  obtain ⟨hps, htail'⟩ := Item.markup_of_serialises hs htail
  rw [hps] at hpieces
  rw [htail'] at h'
  have hreplaced := hspelled.replace hpieces hbody (fun hb => by cases hb) hbefore
  exact (Item.formatted_iff hsize h' file).2
    ⟨items, ⟨_, tail, rfl, hreplaced, htail, hempty⟩, hprint⟩

end

/-- What becomes of the text between the tags of a text that is accepted. Only blanks follow the last
    tag. No other text is lost exactly if all text that does not stand right behind an opening tag is
    blank: what stands there is the text of its element, and any other text makes no difference. -/
theorem formatStream_characterData {stream : Stream} {s out : Text} {settings : Settings}
    (hsize : 1 ≤ settings.chunkSize) (h : (stream settings.chunkSize.toNat).Delivers s)
    (hresolve : settings.resolveReferences = false) {file : Option Text} {counts : Counts}
    (hok : (formatStream stream {} settings file).result = .ok counts)
    (hout : (formatStream stream {} settings file).sink.content = out) :
    (Markup.ofText s).tail.AllBlank ∧
    ((∀ before q after, (Markup.ofText s).pieces = before ++ q :: after → ¬ q.gap.AllBlank →
        Piece.TextKept settings out before q) ↔
      ∀ before q after, (Markup.ofText s).pieces = before ++ q :: after →
        ¬ Piece.EndOpen before → q.gap.AllBlank) ∧
    ∀ before q after, (Markup.ofText s).pieces = before ++ q :: after →
      (Piece.EndOpen before → ¬ q.gap.AllBlank → Piece.TextKept settings out before q) ∧
      (¬ Piece.EndOpen before → ∀ q' : Piece, q'.body = q.body → ∀ stream' : Stream,
        (stream' settings.chunkSize.toNat).Delivers
          ((before ++ q' :: after).flatMap Piece.text ++ (Markup.ofText s).tail) →
        ∃ counts', (formatStream stream' {} settings file).result = .ok counts' ∧
          (formatStream stream' {} settings file).sink.content = out) := by
  have hkept {before after : List Piece} {q : Piece}
      (hpieces : (Markup.ofText s).pieces = before ++ q :: after) :=
    textKept_of_endOpen hsize h hok hout hresolve hpieces
  refine ⟨?_, ⟨?_, ?_⟩, ?_⟩
  · obtain ⟨items, ⟨ps, tail, hs, -, htail, -⟩, -⟩ :=
      (Item.formatted_iff hsize h file).1 ⟨counts, hok, hout⟩
    rwa [(Item.markup_of_serialises hs htail).2]
  · intro hall before q after hpieces hbefore
    by_contra htext
    obtain ⟨p, hp, opening, _, _, hopening, hkind, -⟩ := hall before q after hpieces htext
    exact hbefore ⟨p, hp, opening, hopening, hkind⟩
  · intro hblank before q after hpieces htext
    refine hkept hpieces ?_ htext
    by_contra hbefore
    exact htext (hblank before q after hpieces hbefore)
  · intro before q after hpieces
    exact ⟨hkept hpieces, fun hbefore q' hbody stream' h' =>
      formatStream_of_replaced hsize h hok hout hpieces hbefore hbody h'⟩

/-- The text behind a tag that stands alone is lost, though the text is accepted. -/
theorem formatStream_characterData_lost :
    ∃ counts,
      (formatStream (Reads.ofText ['<', 'a', '>', '<', 'b', '/', '>', 'x', '<', '/', 'a', '>']) {}
        ⟨['\t'], 3, false⟩ none).result = .ok counts ∧
      ¬ ∀ before q after,
        (Markup.ofText ['<', 'a', '>', '<', 'b', '/', '>', 'x', '<', '/', 'a', '>']).pieces =
          before ++ q :: after → ¬ q.gap.AllBlank →
        Piece.TextKept ⟨['\t'], 3, false⟩
          (formatStream (Reads.ofText ['<', 'a', '>', '<', 'b', '/', '>', 'x', '<', '/', 'a', '>']) {}
            ⟨['\t'], 3, false⟩ none).sink.content before q := by
  have hchild : Item.Spelled true
      [.standalone ⟨['<', 'b', '/', '>'], .selfClosing, ['b'], none⟩ rfl] _ :=
    .standalone (p := ⟨[], ['b', '/'], by decide, by decide⟩) (fun _ => by decide) rfl rfl .nil
  have hitem : Item.Spelled false
      [.element ⟨⟨['<', 'a', '>'], .opening, ['a'], none⟩,
        ⟨['<', '/', 'a', '>'], .closing, ['a'], none⟩, rfl, rfl, rfl⟩ _]
      (⟨[], ['a'], by decide, by decide⟩ :: (_ ++ [⟨['x'], ['/', 'a'], by decide, by decide⟩])) :=
    .element (fun h => by cases h) rfl hchild (fun h => by cases h) rfl .nil
  have hdelivers := Reads.delivers_ofText (show 0 < 3 by decide)
    ['<', 'a', '>', '<', 'b', '/', '>', 'x', '<', '/', 'a', '>']
  have hserialises : Item.Serialises _ ['<', 'a', '>', '<', 'b', '/', '>', 'x', '<', '/', 'a', '>'] :=
    ⟨_, [], rfl, hitem, by decide, fun _ => rfl⟩
  have hpieces : (Markup.ofText ['<', 'a', '>', '<', 'b', '/', '>', 'x', '<', '/', 'a', '>']).pieces =
      [⟨[], ['a'], by decide, by decide⟩, ⟨[], ['b', '/'], by decide, by decide⟩] ++
        [⟨['x'], ['/', 'a'], by decide, by decide⟩] := by
    refine (Item.markup_of_serialises ?_ (List.forall_mem_nil _)).1
    rfl
  have hbefore : ¬ Piece.EndOpen
      [⟨[], ['a'], by decide, by decide⟩, ⟨[], ['b', '/'], by decide, by decide⟩] := by
    rintro ⟨p, hp, tag, htag, hkind⟩
    cases hp
    cases htag
    cases hkind
  have hformatted : ∃ counts, (formatStream (Reads.ofText _) {} ⟨['\t'], 3, false⟩ none).result =
      .ok counts ∧ _ := (Item.formatted_iff (by decide) hdelivers none).2 ⟨_, hserialises, rfl⟩
  obtain ⟨counts, hok, -⟩ := hformatted
  refine ⟨counts, hok, fun hall => ?_⟩
  obtain ⟨-, hiff, -⟩ := formatStream_characterData (by decide) hdelivers rfl hok rfl
  exact absurd (hiff.1 hall _ _ _ hpieces hbefore) (by decide)

end Reindent
