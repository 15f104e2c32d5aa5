-- SUMMARY: Line breaks inside a tag: what becomes of its name, its kind and its words.
import Reindent.Proofs.Reformatting
import Reindent.Proofs.Words

/-! # Tags with line breaks

A token loses its line breaks when it is read, and only the offset of the first one is remembered.
If that break ended the name and the name would run on without it, a space takes its place. So the
name and the kind of a tag are those of its token: `Formatter.readTag_of_brokenToken`. Its words are
those of the token exactly if no other break kept two words apart: `Formatter.readTag_words_iff`. -/

namespace Reindent

/-! ## The first line break -/

namespace Text

/-- A text has no line break, or is cut in front of the first one. -/
theorem breakOffset?_cases (t : Text) :
    (t.breakOffset? = none ∧ ∀ c ∈ t, isBreak c = false) ∨
    ∃ (before : Text) (c : Char) (after : Text), t = before ++ c :: after ∧ isBreak c = true ∧
      (∀ x ∈ before, isBreak x = false) ∧ t.breakOffset? = some before.length := by
  induction t with
  | nil => exact .inl ⟨rfl, by simp⟩
  | cons d t ih =>
    cases hd : isBreak d with
    | true =>
      exact .inr ⟨[], d, t, rfl, hd, by simp, by simp [breakOffset?, List.findIdx?_cons, hd]⟩
    | false =>
      rcases ih with ⟨hnone, hfree⟩ | ⟨before, c, after, rfl, hc, hfree, hsome⟩
      · refine .inl ⟨?_, List.forall_mem_cons.2 ⟨hd, hfree⟩⟩
        rw [breakOffset?] at hnone
        simp [breakOffset?, List.findIdx?_cons, hd, hnone]
      · refine .inr ⟨d :: before, c, after, rfl, hc, List.forall_mem_cons.2 ⟨hd, hfree⟩, ?_⟩
        rw [breakOffset?] at hsome
        simp [breakOffset?, List.findIdx?_cons, hd, hsome]

theorem unbroken_of_first {before after : Text} {c : Char} (hc : isBreak c = true)
    (hfree : ∀ x ∈ before, isBreak x = false) :
    unbroken (before ++ c :: after) = before ++ after.unbroken := by
  rw [unbroken_append, unbroken_eq_self_iff.2 hfree, unbroken_cons_of_break hc]

end Text

/-! ## Names in front of a cut -/

namespace Tag

variable {before after : Text} {c : Char}

theorem nameStart_pos (t : Text) : 1 ≤ nameStart t := by
  unfold nameStart
  split <;> simp

/-- Where a name starts is seen in the first two characters. -/
theorem nameStart_append (h : 2 ≤ before.length) (after : Text) :
    nameStart (before ++ after) = nameStart before := by
  match before, h with
  | a :: b :: before, _ => simp [nameStart]

theorem two_le_length (h : nameStart before < before.length) : 2 ≤ before.length :=
  Nat.lt_of_le_of_lt (nameStart_pos before) h

theorem isDelimiter_of_isBreak (h : Text.isBreak c = true) : isDelimiter c = true := by
  simp only [Text.isBreak, Bool.or_eq_true, beq_iff_eq] at h
  rcases h with rfl | rfl <;> decide

section Cut

variable (hstart : nameStart before < before.length)
include hstart

/-- The name of a text that is cut behind its start takes in all up to the cut and goes on from
    there, or ends before the cut. -/
theorem nameOf_append_cases (after : Text) :
    ((∀ c ∈ before.drop (nameStart before), isDelimiter c = false) ∧
      nameOf (before ++ after) =
        before.drop (nameStart before) ++ after.takeWhile (!isDelimiter ·)) ∨
    ((∃ c ∈ before.drop (nameStart before), isDelimiter c = true) ∧
      nameOf (before ++ after) = nameOf before ∧
      nameStart before + (nameOf (before ++ after)).length < before.length) := by
  have hname : nameOf (before ++ after) =
      (before.drop (nameStart before) ++ after).takeWhile (!isDelimiter ·) := by
    rw [nameOf, nameStart_append (two_le_length hstart), List.drop_append_of_le_length hstart.le]
  by_cases hall : ∀ c ∈ before.drop (nameStart before), isDelimiter c = false
  · refine .inl ⟨hall, ?_⟩
    rw [hname, List.takeWhile_append_of_pos]
    simpa using hall
  · push Not at hall
    obtain ⟨c, hmem, hc⟩ := hall
    have hend : (before.drop (nameStart before)).dropWhile (!isDelimiter ·) ≠ [] := by
      rw [Ne, List.dropWhile_eq_nil_iff]
      intro hall
      exact hc (by simpa using hall c hmem)
    have hcut := List.takeWhile_append_dropWhile (p := (!isDelimiter ·))
      (l := before.drop (nameStart before))
    have hlength := congrArg List.length hcut
    rw [List.length_append, List.length_drop] at hlength
    have hpos := List.length_pos_of_ne_nil hend
    rw [hname, Feed.takeWhile_append_of_ends hend]
    exact .inr ⟨⟨c, hmem, by simpa using hc⟩, rfl, by omega⟩

/-- A delimiter keeps what is behind it out of the name. -/
theorem nameOf_append_cons (hc : isDelimiter c = true) (after : Text) :
    nameOf (before ++ c :: after) = nameOf before := by
  rcases nameOf_append_cases hstart (c :: after) with ⟨hall, hname⟩ | ⟨-, hname, -⟩
  · rw [hname, nameOf, List.takeWhile_cons_of_neg (by simp [hc]), List.append_nil,
      List.takeWhile_eq_self_iff.2 (by simpa using hall)]
  · exact hname

/-- The name runs on behind the cut exactly if no delimiter stands up to the cut nor right behind
    it. -/
theorem length_lt_nameOf_append_iff (after : Text) :
    before.length < nameStart before + (nameOf (before ++ after)).length ↔
      (∀ c ∈ before.drop (nameStart before), isDelimiter c = false) ∧
        after.head?.any (!isDelimiter ·) = true := by
  rcases nameOf_append_cases hstart after with ⟨hall, hname⟩ | ⟨⟨c, hmem, hc⟩, -, hlt⟩
  · rw [and_iff_right hall, hname, List.length_append, List.length_drop]
    cases after with
    | nil => simp; omega
    | cons d after =>
      cases hd : isDelimiter d <;> simp [hd] <;> omega
  · refine iff_of_false (by omega) fun h => ?_
    rw [h.1 c hmem] at hc
    cases hc

/-- A name that does not run on ends in front of the cut. -/
theorem nameOf_append_of_not_lt
    (h : ¬ before.length < nameStart before + (nameOf (before ++ after)).length) :
    nameOf (before ++ after) = nameOf before := by
  rcases nameOf_append_cases hstart after with ⟨hall, hname⟩ | ⟨-, hname, -⟩
  · rw [hname, List.length_append, List.length_drop] at h
    have hnil : after.takeWhile (!isDelimiter ·) = [] := List.length_eq_zero_iff.1 (by omega)
    rw [hname, hnil, List.append_nil, nameOf, List.takeWhile_eq_self_iff.2 (by simpa using hall)]
  · exact hname

/-- A space is put where the text is cut if the name runs on behind the cut. -/
theorem splitName_append (after : Text) :
    splitName (before ++ after) before.length =
      if before.length < nameStart before + (nameOf (before ++ after)).length then
        before ++ ' ' :: after
      else before ++ after := by
  simp only [splitName, nameStart_append (two_le_length hstart), Int.toNat_natCast,
    List.take_left, List.drop_left]
  refine if_congr ?_ rfl rfl
  omega

/-- A space in the name, or none where the name does not run on, makes the name end at the cut. -/
theorem nameOf_splitName (after : Text) :
    nameOf (splitName (before ++ after) before.length) = nameOf before := by
  rw [splitName_append hstart]
  split
  · exact nameOf_append_cons hstart (by decide) after
  · rename_i h
    exact nameOf_append_of_not_lt hstart h

/-- A space in the name does not touch what the kind is seen from. -/
theorem kindOf_splitName (hafter : after.getLast? = some '>') :
    kindOf (splitName (before ++ after) before.length) = kindOf (before ++ after) := by
  rw [splitName_append hstart]
  split
  · rename_i hlt
    obtain ⟨-, hhead⟩ := (length_lt_nameOf_append_iff hstart after).1 hlt
    have hlong := two_le_length hstart
    -- The name goes on behind the cut and ends before the `>`, so two characters are left there.
    have htwo : 2 ≤ after.length := by
      match after with
      | [] => cases hafter
      | [c] =>
        cases hafter
        cases hhead
      | _ :: _ :: _ => simp
    have hsecond (t : Text) : (before ++ t)[1]? = before[1]? := List.getElem?_append_left hlong
    have hlast : (before ++ ' ' :: after)[(before ++ ' ' :: after).length - 2]? =
        (before ++ after)[(before ++ after).length - 2]? := by
      simp only [List.length_append, List.length_cons]
      rw [List.getElem?_append_right (by omega), List.getElem?_append_right (by omega),
        List.getElem?_cons, if_neg (by omega)]
      congr 1
      omega
    simp only [kindOf, hsecond, hlast]
  · rfl

end Cut

/-- The line break in front of `rest` is the first one in the token. It ends the name, which would
    run on without it. -/
structure EndsName (raw before rest : Text) : Prop where
  first : ∀ c ∈ before, Text.isBreak c = false
  started : nameStart raw < before.length
  named : ∀ c ∈ before.drop (nameStart raw), isDelimiter c = false
  runsOn : rest.unbroken.head?.any (!isDelimiter ·) = true

/-- A line break behind another one does not end the name. -/
theorem not_endsName_of_isBreak (hc : Text.isBreak c = true) (raw others rest : Text) :
    ¬ EndsName raw (before ++ c :: others) rest := by
  intro h
  have hfirst := h.first c (by simp)
  rw [hc] at hfirst
  cases hfirst

section First

variable (hc : Text.isBreak c = true) (hfree : ∀ x ∈ before, Text.isBreak x = false)
include hc hfree

theorem endsName_iff (after : Text) :
    EndsName (before ++ c :: after) before (c :: after) ↔
      nameStart (before ++ after.unbroken) < before.length ∧
        before.length < nameStart (before ++ after.unbroken) +
          (nameOf (before ++ after.unbroken)).length := by
  constructor
  · rintro ⟨-, hstart, hnamed, hrunsOn⟩
    have hlong := Nat.lt_of_le_of_lt (nameStart_pos _) hstart
    rw [nameStart_append hlong] at hstart hnamed ⊢
    rw [Text.unbroken_cons_of_break hc] at hrunsOn
    exact ⟨hstart, (length_lt_nameOf_append_iff hstart _).2 ⟨hnamed, hrunsOn⟩⟩
  · rintro ⟨hstart, hlt⟩
    have hlong := Nat.lt_of_le_of_lt (nameStart_pos _) hstart
    rw [nameStart_append hlong] at hstart hlt
    obtain ⟨hnamed, hrunsOn⟩ := (length_lt_nameOf_append_iff hstart _).1 hlt
    refine ⟨hfree, ?_, ?_, ?_⟩
    · rwa [nameStart_append hlong]
    · rwa [nameStart_append hlong]
    · rwa [Text.unbroken_cons_of_break hc]

theorem splitName_of_endsName {after : Text}
    (h : EndsName (before ++ c :: after) before (c :: after)) :
    splitName (before ++ after.unbroken) before.length = before ++ ' ' :: after.unbroken := by
  rw [splitName, if_pos (mod_cast (endsName_iff hc hfree after).1 h), Int.toNat_natCast,
    List.take_left, List.drop_left]

theorem splitName_of_not_endsName {after : Text}
    (h : ¬ EndsName (before ++ c :: after) before (c :: after)) :
    splitName (before ++ after.unbroken) before.length = before ++ after.unbroken := by
  rw [splitName, if_neg]
  intro hin
  exact h ((endsName_iff hc hfree after).2 (mod_cast hin))

/-- The words of the token come through exactly if every line break that keeps two of them apart
    ends the name. -/
theorem words_splitName_iff (after : Text) :
    (splitName (before ++ after.unbroken) before.length).words = (before ++ c :: after).words ↔
      ∀ start rest, (before ++ c :: after).PartedAt start rest →
        EndsName (before ++ c :: after) start rest := by
  by_cases hends : EndsName (before ++ c :: after) before (c :: after)
  · rw [splitName_of_endsName hc hfree hends, Text.words_append_cons (by decide),
      Text.words_append_cons (Text.isBlank_of_isBreak hc), List.append_cancel_left_eq,
      Text.words_unbroken_iff]
    constructor
    · intro hafter start rest hparted
      rcases hparted.cases_of_first hfree hc with ⟨rfl, rfl⟩ | ⟨others, -, hothers⟩
      · exact hends
      · exact absurd ⟨_, _, hothers⟩ hafter
    · rintro hall ⟨start, rest, hparted⟩
      have hwhole := hparted.append (before ++ [c])
      rw [List.append_assoc, List.append_assoc, List.singleton_append] at hwhole
      exact not_endsName_of_isBreak hc _ _ _ (hall _ _ hwhole)
  · rw [splitName_of_not_endsName hc hfree hends, ← Text.unbroken_of_first hc hfree,
      Text.words_unbroken_iff]
    constructor
    · intro hnone start rest hparted
      exact absurd ⟨_, _, hparted⟩ hnone
    · rintro hall ⟨start, rest, hparted⟩
      have hstart := hall _ _ hparted
      rcases hparted.cases_of_first hfree hc with ⟨rfl, rfl⟩ | ⟨others, rfl, -⟩
      · exact hends hstart
      · exact not_endsName_of_isBreak hc _ _ _ hstart

end First

end Tag

/-! ## Tokens -/

namespace Piece

variable {p : Piece} {location : Location} {tag : Tag}

theorem unbroken_raw (p : Piece) : p.raw.unbroken = '<' :: p.body.unbroken ++ ['>'] := by
  simp [raw, Text.unbroken, Text.isBreak]

/-- If the name does not start with a line break, it starts in front of the first one. -/
theorem nameStart_lt {before after : Text} {c : Char} (hraw : p.raw = before ++ c :: after)
    (hc : Text.isBreak c = true)
    (hname : ∀ x, p.raw[Tag.nameStart p.raw]? = some x → Text.isBreak x = false) :
    Tag.nameStart before < before.length := by
  have hne : Tag.nameStart p.raw ≠ before.length := by
    intro heq
    have := hname c (by rw [heq, hraw, List.getElem?_append_right (le_refl _)]; simp)
    rw [hc] at this
    cases this
  match before, hraw with
  | [], hraw =>
    obtain ⟨rfl, -⟩ := List.cons.inj hraw
    cases hc
  | [_], hraw =>
    have hslash : c ≠ '/' := by
      rintro rfl
      cases hc
    rw [hraw] at hne
    exact absurd (by simp [Tag.nameStart, hslash.symm]) hne
  | a :: b :: before, hraw =>
    have hle : Tag.nameStart (a :: b :: before) ≤ 2 := by
      unfold Tag.nameStart
      split <;> simp
    rw [hraw, Tag.nameStart_append (by simp)] at hne
    exact Nat.lt_of_le_of_ne (hle.trans (by simp)) hne

/-- The `>` comes behind the first line break. -/
theorem getLast?_unbroken_of_first {before after : Text} {c : Char}
    (hraw : p.raw = before ++ c :: after) (hc : Text.isBreak c = true) :
    after.unbroken.getLast? = some '>' := by
  rw [raw] at hraw
  rcases List.eq_nil_or_concat after with rfl | ⟨others, d, rfl⟩
  · obtain ⟨-, hlast⟩ := List.append_inj' hraw rfl
    cases hlast
    cases hc
  · rw [List.concat_eq_append, ← List.cons_append, ← List.append_assoc] at hraw
    obtain ⟨-, hlast⟩ := List.append_inj' hraw rfl
    cases hlast
    rw [List.concat_eq_append, Text.unbroken_append]
    exact List.getLast?_concat

/-- What is read of a token that is long enough. -/
theorem tag_eq (h : 3 ≤ p.raw.unbroken.length) (location : Location) :
    ∃ text, p.tag location = .ok ⟨text, Tag.kindOf text, Tag.nameOf text, location.line⟩ ∧
      text = match p.raw.breakOffset? with
        | none => p.raw.unbroken
        | some n => Tag.splitName p.raw.unbroken n := by
  have htoken : Tag.isToken p.raw.unbroken = true := by
    rw [unbroken_raw] at h ⊢
    refine (Tag.isToken_iff _).2 ?_
    rintro hnil
    simp [hnil] at h
  rw [Piece.tag, Tag.ofToken.eq_def, if_pos htoken]
  cases p.raw.breakOffset? <;> exact ⟨_, rfl, rfl⟩

/-- A token that is read is long enough. -/
theorem three_le_length (h : p.tag location = .ok tag) : 3 ≤ p.raw.unbroken.length := by
  rw [Piece.tag, Tag.ofToken.eq_def] at h
  split at h
  · rename_i htoken
    simp only [Tag.isToken, Bool.and_eq_true, decide_eq_true_eq] at htoken
    exact htoken.1.1
  · cases h

/-- Name, kind and text of a tag, seen from its token. -/
theorem tag_of_named (hlength : 3 ≤ p.raw.unbroken.length)
    (hname : ∀ c, p.raw[Tag.nameStart p.raw]? = some c → Text.isBreak c = false)
    (location : Location) :
    ∃ text, p.tag location =
        .ok ⟨text, Tag.kindOf p.raw.unbroken, Tag.nameOf p.raw, location.line⟩ ∧
      text = match p.raw.breakOffset? with
        | none => p.raw.unbroken
        | some n =>
          if n < Tag.nameStart p.raw.unbroken + (Tag.nameOf p.raw.unbroken).length then
            p.raw.unbroken.take n ++ ' ' :: p.raw.unbroken.drop n
          else p.raw.unbroken := by
  obtain ⟨text, htag, htext⟩ := tag_eq hlength location
  rw [htag]
  rcases Text.breakOffset?_cases p.raw with
    ⟨hnone, hfree⟩ | ⟨before, c, after, hraw, hc, hfree, hsome⟩
  · rw [hnone] at htext ⊢
    rw [Text.unbroken_eq_self_iff.2 hfree] at htext ⊢
    exact ⟨text, by rw [htext], htext⟩
  · have hstart := nameStart_lt hraw hc hname
    have hlast := getLast?_unbroken_of_first hraw hc
    have hunbroken : p.raw.unbroken = before ++ after.unbroken := by
      rw [hraw, Text.unbroken_of_first hc hfree]
    rw [hsome] at htext ⊢
    simp only [hunbroken] at htext ⊢
    refine ⟨text, ?_, ?_⟩
    · rw [htext, Tag.kindOf_splitName hstart hlast, Tag.nameOf_splitName hstart, hraw,
        Tag.nameOf_append_cons hstart (Tag.isDelimiter_of_isBreak hc)]
    · rw [htext, Tag.splitName_append hstart, Tag.nameStart_append (Tag.two_le_length hstart),
        List.take_left, List.drop_left]

/-- The words of a tag, seen from its token. -/
theorem words_tag_iff (h : p.tag location = .ok tag) :
    tag.text.words = p.raw.words ↔
      ∀ before rest, p.raw.PartedAt before rest → Tag.EndsName p.raw before rest := by
  obtain ⟨text, htag, htext⟩ := tag_eq (three_le_length h) location
  rw [h] at htag
  cases htag
  rcases Text.breakOffset?_cases p.raw with
    ⟨hnone, hfree⟩ | ⟨before, c, after, hraw, hc, hfree, hsome⟩
  · rw [hnone] at htext
    refine iff_of_true (by rw [htext, Text.unbroken_eq_self_iff.2 hfree]) ?_
    intro before rest hparted
    have hbroken := hparted.broken
    cases rest with
    | nil => cases hbroken
    | cons c rest => exact absurd hbroken (by simp [hfree c (by simp [hparted.eq])])
  · rw [hsome] at htext
    simp only [hraw, Text.unbroken_of_first hc hfree] at htext ⊢
    rw [htext]
    exact Tag.words_splitName_iff hc hfree after

end Piece

/-- Each token of a document is read. -/
theorem Item.Spelled.exists_tag {behindOpen : Bool} {items : List Item} {ps : List Piece}
    (h : Spelled behindOpen items ps) : ∀ p ∈ ps, ∃ tag, p.tag {} = .ok tag := by
  induction h with
  | nil => simp
  | standalone _ htag _ _ ih => exact List.forall_mem_cons.2 ⟨⟨_, htag⟩, ih⟩
  | element _ hopening _ _ hclosing _ ihchildren ih =>
    refine List.forall_mem_cons.2 ⟨⟨_, hopening⟩, List.forall_mem_append.2 ⟨ihchildren, ?_⟩⟩
    exact List.forall_mem_cons.2 ⟨⟨_, hclosing⟩, ih⟩
  | leaf _ hopening _ hclosing _ ih =>
    exact List.forall_mem_cons.2 ⟨⟨_, hopening⟩, List.forall_mem_cons.2 ⟨⟨_, hclosing⟩, ih⟩⟩

/-! ## Reading -/

namespace Formatter

variable {f : Formatter} {p : Piece} {rest : Text}

/-- A formatter goes up to the `<` of a token, whatever it has gathered before, and reads the tag
    there. -/
theorem readTag_of_shows (hshows : f.cursor.feed.Shows (p.text ++ rest)) :
    ∃ f₁ skipped f₂ g location,
      reading (Cursor.scanTo ['<']) f = (.ok (), f₁) ∧
      reading Cursor.takeToken f₁ = (.ok skipped, f₂) ∧
      readTag f₂ = ((p.tag location).mapError .document, g) := by
  obtain ⟨f₁, hscan, hf₁⟩ : ∃ f₁, reading (Cursor.scanTo ['<']) f = (.ok (), f₁) ∧
      f₁.cursor.feed.Shows ('<' :: (p.body ++ '>' :: rest)) := by
    rw [Piece.text_eq] at hshows
    obtain ⟨feed, hfeed, hscan⟩ := Cursor.scanTo_eq hshows '<'
    rw [Text.dropWhile_ne_append p.gap_free] at hfeed hscan
    rw [if_neg (List.cons_ne_nil _ _)] at hscan
    exact ⟨_, reading_eq hscan, hfeed⟩
  obtain ⟨_, -, hread⟩ := readTag_eq
    (f := { f₁ with cursor := { f₁.cursor with token := [], firstBreak := none } }) hf₁ p.body_free
    rfl rfl
  exact ⟨f₁, f₁.cursor.token, _, _, _, hscan, rfl, hread⟩

/-- The tag that is read of a token, however the source cuts it into chunks: it has the name that
    the token has with its line breaks, the kind that it has without them, and its text without
    them, but for a space where the first of them kept the name from running on. -/
theorem readTag_of_brokenToken (hshows : f.cursor.feed.Shows (p.text ++ rest))
    (hlength : 3 ≤ p.raw.unbroken.length)
    (hname : ∀ c, p.raw[Tag.nameStart p.raw]? = some c → Text.isBreak c = false) :
    ∃ f₁ skipped f₂ g tag plain,
      reading (Cursor.scanTo ['<']) f = (.ok (), f₁) ∧
      reading Cursor.takeToken f₁ = (.ok skipped, f₂) ∧
      readTag f₂ = (.ok tag, g) ∧
      Tag.ofToken p.raw.unbroken {} none = .ok plain ∧
      tag.name = Tag.nameOf p.raw ∧ tag.kind = plain.kind ∧
      tag.text = match p.raw.breakOffset? with
        | none => p.raw.unbroken
        | some n =>
          if n < Tag.nameStart p.raw.unbroken + (Tag.nameOf p.raw.unbroken).length then
            p.raw.unbroken.take n ++ ' ' :: p.raw.unbroken.drop n
          else p.raw.unbroken := by
  obtain ⟨f₁, skipped, f₂, g, location, hscan, htake, hread⟩ := readTag_of_shows hshows
  obtain ⟨text, htag, htext⟩ := Piece.tag_of_named hlength hname location
  rw [htag] at hread
  have hbody : p.body.unbroken ≠ [] := by
    intro hnil
    simp [Piece.unbroken_raw, hnil] at hlength
  have hplain := Tag.ofToken_eq hbody
  rw [← Piece.unbroken_raw] at hplain
  exact ⟨f₁, skipped, f₂, g, _, _, hscan, htake, hread, hplain, rfl, rfl, htext⟩

/-- Of two line breaks in what would be a name, the first comes back as a space. -/
theorem readTag_of_brokenToken_twice :
    ∃ f₁ skipped f₂ g tag,
      reading (Cursor.scanTo ['<'])
        { settings := {}, sink := {}, cursor :=
          { feed :=
            ⟨some [' ', '<', 'a'], .text ['b', '\n', 'c', 'd', '\r', 'e', '>'] .ended, 3⟩ } } =
        (.ok (), f₁) ∧
      reading Cursor.takeToken f₁ = (.ok skipped, f₂) ∧
      readTag f₂ = (.ok tag, g) ∧
      tag.name = ['a', 'b'] ∧ tag.kind = .opening ∧
      tag.text = ['<', 'a', 'b', ' ', 'c', 'd', 'e', '>'] := by
  obtain ⟨f₁, skipped, f₂, g, tag, plain, hscan, htake, hread, hplain, hname, hkind, htext⟩ :=
    @readTag_of_brokenToken
      { settings := {}, sink := {}, cursor :=
        { feed := ⟨some [' ', '<', 'a'], .text ['b', '\n', 'c', 'd', '\r', 'e', '>'] .ended, 3⟩ } }
      ⟨[' '], ['a', 'b', '\n', 'c', 'd', '\r', 'e'], by decide, by decide⟩ []
      ⟨by decide, _, .chunk (by decide) .ended, rfl⟩ (by decide) (by rintro c ⟨⟩; rfl)
  cases hplain
  exact ⟨f₁, skipped, f₂, g, tag, hscan, htake, hread, hname, hkind, htext⟩

/-- The tag that is read of a token of a document has the words of the token exactly if every line
    break that keeps two of them apart is the first one and ends the name there. -/
theorem readTag_words_iff {stream : Stream} {s : Text} {settings : Settings} {counts : Counts}
    (hsize : 1 ≤ settings.chunkSize) (h : (stream settings.chunkSize.toNat).Delivers s)
    {file : Option Text} (haccepted : (formatStream stream {} settings file).result = .ok counts)
    (hp : p ∈ (Markup.ofText s).pieces) (hshows : f.cursor.feed.Shows (p.text ++ rest)) :
    ∃ f₁ skipped f₂ g tag,
      reading (Cursor.scanTo ['<']) f = (.ok (), f₁) ∧
      reading Cursor.takeToken f₁ = (.ok skipped, f₂) ∧
      readTag f₂ = (.ok tag, g) ∧
      (tag.text.words = p.raw.words ↔
        ∀ before after, p.raw.PartedAt before after → Tag.EndsName p.raw before after) := by
  obtain ⟨items, ⟨ps, tail, hs, hspelled, htail, -⟩, -⟩ :=
    (Item.formatted_iff hsize h file).1 ⟨counts, haccepted, rfl⟩
  rw [(Item.markup_of_serialises hs htail).1] at hp
  obtain ⟨tag, htag⟩ := hspelled.exists_tag p hp
  obtain ⟨f₁, skipped, f₂, g, location, hscan, htake, hread⟩ := readTag_of_shows hshows
  have htag := Piece.tag_of_tag htag location
  rw [htag] at hread
  exact ⟨f₁, skipped, f₂, g, _, hscan, htake, hread, Piece.words_tag_iff htag⟩

/-- A line break between two attributes joins them. -/
theorem readTag_words_iff_joined :
    ∃ f₁ skipped f₂ g tag,
      reading (Cursor.scanTo ['<'])
        { settings := {}, sink := {}, cursor :=
          { feed := ⟨some ['<', 'a', ' ', 'x', '\n', 'y', '/', '>'], .ended, 8⟩ } } = (.ok (), f₁) ∧
      reading Cursor.takeToken f₁ = (.ok skipped, f₂) ∧
      readTag f₂ = (.ok tag, g) ∧
      tag.text.words ≠ Text.words ['<', 'a', ' ', 'x', '\n', 'y', '/', '>'] := by
  have hspelled : Item.Spelled false
      [.standalone ⟨['<', 'a', ' ', 'x', 'y', '/', '>'], .selfClosing, ['a'], none⟩ rfl]
      [⟨[], ['a', ' ', 'x', '\n', 'y', '/'], by decide, by decide⟩] :=
    .standalone (fun h => by cases h) rfl rfl .nil
  have hs : Text.AllBlank [] := by decide
  have hsize : 1 ≤ Settings.chunkSize ⟨['\t'], 3, false⟩ := by decide
  obtain ⟨counts, haccepted, -⟩ := (Item.formatted_iff hsize (Reads.delivers_ofText (by decide) _)
    none).2 ⟨_, ⟨_, [], rfl, hspelled, hs, fun h => by cases h⟩, rfl⟩
  obtain ⟨f₁, skipped, f₂, g, tag, hscan, htake, hread, hwords⟩ :=
    @readTag_words_iff
      { settings := {}, sink := {}, cursor :=
        { feed := ⟨some ['<', 'a', ' ', 'x', '\n', 'y', '/', '>'], .ended, 8⟩ } }
      ⟨[], ['a', ' ', 'x', '\n', 'y', '/'], by decide, by decide⟩ [] _ _ _ _ hsize
      (Reads.delivers_ofText (by decide) _) _ haccepted
      (by rw [(Item.markup_of_serialises rfl hs).1]; exact List.mem_cons_self)
      ⟨by decide, _, .ended, rfl⟩
  refine ⟨f₁, skipped, f₂, g, tag, hscan, htake, hread, fun heq => ?_⟩
  -- The name ends at the space, and the break comes behind it.
  have hends := hwords.1 heq ['<', 'a', ' ', 'x'] ['\n', 'y', '/', '>']
    ⟨rfl, by decide, by decide, by decide⟩
  exact absurd (hends.named ' ' (by decide)) (by decide)

end Formatter

end Reindent
