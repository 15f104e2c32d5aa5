-- SUMMARY: Text that was escaped is brought back as it was, in resolving it and in formatting it.
import Reindent.Proofs.DocumentedFailures
import Reindent.Proofs.Reformatting

/-! # Escaped text

A character can be written as it is, unless it would start a tag or a reference, by one of five names,
or by its number. `Escaped t e` holds if `e` writes `t` so, character by character.

Each way of writing a character is one reference that ends at its semicolon, so resolving takes it
back whatever follows: `Spelling.resolve_append`. Nothing that it brings in is read again, so a whole
text is taken back by induction over its characters: `resolve_of_escaped`. What a formatter makes of
an element with such a text comes from the language of the formatter. -/

namespace Reindent

namespace Reference

/-! ## Numbers -/

/-- A reference to the number of the character brings in the character: it is neither taken for one of
    the code page nor dropped. -/
def IsKept (c : Char) : Prop :=
  c.toNat ≠ 0 ∧ isDropped c.toNat = false ∧
    (0x80 ≤ c.toNat → c.toNat ≤ 0x9F → c.toNat ∈ [0x81, 0x8D, 0x8F, 0x90, 0x9D])

instance (c : Char) : Decidable (IsKept c) :=
  inferInstanceAs (Decidable (_ ∧ _ ∧ _))

/-- In the code page only five places are their own. -/
theorem mem_of_codePage : ∀ n < 0x20,
    (Char.ofNat ((codePage[n]?).getD (n + 0x80)) = Char.ofNat (n + 0x80) ↔
      n + 0x80 ∈ [0x81, 0x8D, 0x8F, 0x90, 0x9D]) := by
  decide

theorem character_eq_self_iff {c : Char} : character c.toNat = [c] ↔ IsKept c := by
  have hself : Char.ofNat c.toNat = c := Char.ofNat_toNat c
  have hscalar : c.toNat < 0xD800 ∨ 0xDFFF < c.toNat ∧ c.toNat < 0x110000 := c.valid
  have hsurrogate : ¬ ((0xD800 ≤ c.toNat && c.toNat ≤ 0xDFFF) || decide (0x10FFFF < c.toNat)) := by
    simp only [Bool.or_eq_true, Bool.and_eq_true, decide_eq_true_eq]
    omega
  unfold character IsKept
  by_cases hzero : c.toNat = 0
  · have hother : '\uFFFD' ≠ c := by
      rintro rfl
      cases hzero
    simp [hzero, hother]
  by_cases hpage : 0x80 ≤ c.toNat ∧ c.toNat ≤ 0x9F
  · have hown := mem_of_codePage (c.toNat - 0x80) (by omega)
    rw [Nat.sub_add_cancel hpage.1, hself] at hown
    have hnotDropped : isDropped c.toNat = false := by
      simp only [isDropped, Bool.or_eq_false_iff, Bool.and_eq_false_iff, decide_eq_false_iff_not,
        beq_eq_false_iff_ne]
      omega
    rw [if_neg (by simpa using hzero), if_pos (by simpa using hpage), List.singleton_inj, hown]
    exact ⟨fun hmem => ⟨hzero, hnotDropped, fun _ _ => hmem⟩, fun h => h.2.2 hpage.1 hpage.2⟩
  · rw [if_neg (by simpa using hzero), if_neg (by simpa using hpage), if_neg hsurrogate, hself]
    cases isDropped c.toNat with
    | true => simp
    | false => exact ⟨fun _ => ⟨hzero, rfl, fun hlow hhigh => absurd ⟨hlow, hhigh⟩ hpage⟩, fun _ => rfl⟩

/-! ## Digits -/

theorem digitValue_digitChar {n : Nat} (h : n < 16) : digitValue n.digitChar = n := by
  revert n
  decide

theorem isHexDigit_digitChar {n : Nat} (h : n < 16) : isHexDigit n.digitChar = true := by
  revert n
  decide

theorem isDecimalDigit_digitChar {n : Nat} (h : n < 10) : isDecimalDigit n.digitChar = true := by
  revert n
  decide

theorem exists_of_mem_toDigits {base n : Nat} {d : Char} (hbase : 1 < base)
    (h : d ∈ Nat.toDigits base n) : ∃ k < base, d = k.digitChar := by
  induction n using Nat.strongRecOn with
  | ind n ih =>
    rw [Nat.toDigits_eq_if hbase] at h
    split at h
    · rename_i hn
      exact ⟨n, hn, List.mem_singleton.1 h⟩
    · rename_i hn
      rcases List.mem_append.1 h with h | h
      · exact ih (n / base) (Nat.div_lt_self (by omega) hbase) h
      · exact ⟨n % base, Nat.mod_lt n (by omega), List.mem_singleton.1 h⟩

/-- The digits of a number are read as the number. -/
theorem number_toDigits {base : Nat} (hbase : 1 < base) (hsixteen : base ≤ 16) (n : Nat) :
    number base (Nat.toDigits base n) = n := by
  induction n using Nat.strongRecOn with
  | ind n ih =>
    rw [Nat.toDigits_eq_if hbase]
    split
    · rename_i hn
      simp [number, digitValue_digitChar (Nat.lt_of_lt_of_le hn hsixteen)]
    · rename_i hn
      have hmod : n % base < base := Nat.mod_lt n (by omega)
      have hfront := ih (n / base) (Nat.div_lt_self (by omega) hbase)
      unfold number at hfront ⊢
      rw [List.foldl_append, hfront, List.foldl_cons, List.foldl_nil,
        digitValue_digitChar (Nat.lt_of_lt_of_le hmod hsixteen)]
      exact Nat.div_add_mod' n base

/-- A digit counts for the same as a capital letter. -/
theorem isHexDigit_of_toLower {c : Char} (h : isHexDigit c.toLower = true) :
    isHexDigit c = true ∧ digitValue c = digitValue c.toLower := by
  have hascii : ∀ n < 128, isHexDigit (Char.ofNat n).toLower = true →
      isHexDigit (Char.ofNat n) = true ∧
        digitValue (Char.ofNat n) = digitValue (Char.ofNat n).toLower := by decide
  by_cases hc : c.toNat < 128
  · have hself := hascii c.toNat hc
    rw [Char.ofNat_toNat] at hself
    exact hself h
  · have hsame : c.toLower = c := by
      refine dif_neg fun hcapital => ?_
      have hle : c.toNat ≤ 'Z'.toNat := hcapital.2
      have hz : 'Z'.toNat = 90 := rfl
      omega
    rw [hsame] at h ⊢
    exact ⟨h, rfl⟩

theorem isHexDigit_of_map_toLower {digits : Text} {n : Nat}
    (h : digits.map Char.toLower = Nat.toDigits 16 n) {d : Char} (hd : d ∈ digits) :
    isHexDigit d.toLower = true := by
  have hmem : d.toLower ∈ Nat.toDigits 16 n := h ▸ List.mem_map_of_mem hd
  obtain ⟨k, hk, heq⟩ := exists_of_mem_toDigits (by decide) hmem
  rw [heq, isHexDigit_digitChar hk]

theorem number_of_map_toLower {digits : Text} {n : Nat}
    (h : digits.map Char.toLower = Nat.toDigits 16 n) : number 16 digits = n := by
  have hvalues : digits.map digitValue = (digits.map Char.toLower).map digitValue := by
    rw [List.map_map]
    exact List.map_congr_left fun d hd =>
      (isHexDigit_of_toLower (isHexDigit_of_map_toLower h hd)).2
  have hfold (t : Text) : number 16 t = (t.map digitValue).foldl (fun n d => n * 16 + d) 0 :=
    List.foldl_map.symm
  rw [hfold, hvalues, ← hfold, h, number_toDigits (by decide) (by decide)]

/-! ## References that end at their semicolon -/

theorem takeWhile_of_semicolon {p : Char → Bool} {run : Text} (hrun : ∀ c ∈ run, p c = true)
    (hsemicolon : p ';' = false) (rest : Text) : (run ++ ';' :: rest).takeWhile p = run := by
  rw [List.takeWhile_append_of_pos hrun, List.takeWhile_cons_of_neg (by simp [hsemicolon]),
    List.append_nil]

theorem read?_decimal {digits : Text} (hne : digits ≠ [])
    (hdigits : ∀ d ∈ digits, isDecimalDigit d = true) (rest : Text) :
    read? ('#' :: (digits ++ ';' :: rest)) = some (.decimal digits, rest) := by
  simp only [read?, takeWhile_of_semicolon hdigits (by decide)]
  rw [List.drop_left]
  rfl

theorem read?_hexadecimal {mark : Char} {digits : Text} (hmark : mark = 'x' ∨ mark = 'X')
    (hne : digits ≠ []) (hdigits : ∀ d ∈ digits, isHexDigit d = true) (rest : Text) :
    read? ('#' :: mark :: (digits ++ ';' :: rest)) = some (.hexadecimal digits, rest) := by
  have hnone : (mark :: (digits ++ ';' :: rest)).takeWhile isDecimalDigit = [] := by
    rcases hmark with rfl | rfl <;> rfl
  have hx : (mark == 'x' || mark == 'X') = true := by
    rcases hmark with rfl | rfl <;> rfl
  simp only [read?, hnone, hx, if_true, takeWhile_of_semicolon hdigits (by decide)]
  rw [List.drop_left]
  rfl

theorem read?_named {name : Text} (hne : name ≠ []) (hname : ∀ c ∈ name, isNameChar c = true)
    (hlength : name.length ≤ nameLimit) (rest : Text) :
    read? (name ++ ';' :: rest) = some (.named (name ++ [';']), rest) := by
  have hrun : ((name ++ ';' :: rest).take nameLimit).takeWhile isNameChar = name := by
    rw [List.take_append, List.take_of_length_le hlength, List.takeWhile_append_of_pos hname]
    cases nameLimit - name.length <;> simp [isNameChar]
  obtain ⟨c, cs, rfl⟩ := List.exists_cons_of_ne_nil hne
  have hc : c ≠ '#' := by
    rintro rfl
    cases hname '#' (by simp)
  unfold read?
  split
  · rename_i h
    exact absurd (List.cons.inj h).1 hc
  · simp only [hrun, List.drop_left]

/-! ## Ways to write a character -/

/-- The names that every document may use. -/
def predefined : List (Text × Char) :=
  [(['a', 'm', 'p'], '&'), (['l', 't'], '<'), (['g', 't'], '>'), (['q', 'u', 'o', 't'], '"'),
   (['a', 'p', 'o', 's'], '\x27')]

/-- The text writes the character, without anything that would start a tag. -/
inductive Spelling (c : Char) : Text → Prop where
  | literal (hreference : c ≠ '&') (htag : c ≠ '<') : Spelling c [c]
  | named {name : Text} (hname : (name, c) ∈ predefined) : Spelling c ('&' :: name ++ [';'])
  | decimal (hkept : IsKept c) : Spelling c ('&' :: '#' :: Nat.toDigits 10 c.toNat ++ [';'])
  | hexadecimal {mark : Char} {digits : Text} (hkept : IsKept c) (hmark : mark = 'x' ∨ mark = 'X')
      (hdigits : digits.map Char.toLower = Nat.toDigits 16 c.toNat) :
      Spelling c ('&' :: '#' :: mark :: digits ++ [';'])

/-- The second text writes the first, character by character. -/
inductive Escaped : Text → Text → Prop where
  | nil : Escaped [] []
  | cons {c : Char} {w t e : Text} (hc : Spelling c w) (ht : Escaped t e) :
      Escaped (c :: t) (w ++ e)

variable {c : Char} {w t e : Text}

theorem resolve_of_read? {after brought : Text} {r : Reference} (hread : read? t = some (r, after))
    (hvalue : r.value = .ok brought) :
    resolve ('&' :: t) = (resolve after).map (brought ++ ·) := by
  rw [resolve, if_pos rfl]
  split
  · rename_i hread'
    cases hread.symm.trans hread'
    rw [hvalue]
    cases resolve after <;> rfl
  · rename_i hread'
    cases hread.symm.trans hread'

theorem predefined_spec : ∀ entry ∈ predefined,
    (entry.1 ≠ [] ∧ entry.1.length ≤ nameLimit ∧ '<' ∉ entry.1 ∧
      entry.1.all isNameChar = true) ∧ expand (entry.1 ++ [';']) = [entry.2] := by
  decide

theorem isDecimalDigit_of_mem_toDigits {n : Nat} {d : Char} (h : d ∈ Nat.toDigits 10 n) :
    isDecimalDigit d = true := by
  obtain ⟨k, hk, rfl⟩ := exists_of_mem_toDigits (by decide) h
  exact isDecimalDigit_digitChar hk

/-- No character has a number too long to be read. -/
theorem value_decimal (hkept : IsKept c) :
    (Reference.decimal (Nat.toDigits 10 c.toNat)).value = .ok [c] := by
  have hlt : c.toNat < 10 ^ 7 := by
    have hscalar : c.toNat < 0xD800 ∨ 0xDFFF < c.toNat ∧ c.toNat < 0x110000 := c.valid
    omega
  have hlength : (Nat.toDigits 10 c.toNat).length ≤ 7 :=
    (Nat.length_toDigits_le_iff (by decide) (by decide)).2 hlt
  rw [value, if_neg (by unfold digitLimit; omega), number_toDigits (by decide) (by decide),
    character_eq_self_iff.2 hkept]

/-- What writes a character is read back as the character, whatever follows. -/
theorem Spelling.resolve_append (h : Spelling c w) (rest : Text) :
    resolve (w ++ rest) = (resolve rest).map (c :: ·) := by
  cases h with
  | literal hreference htag =>
    rw [List.singleton_append, resolve, if_neg hreference]
  | @named name hname =>
    obtain ⟨⟨hne, hlength, -, hchars⟩, hexpand⟩ := predefined_spec _ hname
    have hread := read?_named hne (List.all_eq_true.1 hchars) hlength rest
    simpa using resolve_of_read? hread (congrArg Except.ok hexpand)
  | decimal hkept =>
    have hread := read?_decimal Nat.toDigits_ne_nil
      (fun d => isDecimalDigit_of_mem_toDigits (n := c.toNat)) rest
    simpa using resolve_of_read? hread (value_decimal hkept)
  | @hexadecimal mark digits hkept hmark hdigits =>
    have hne : digits ≠ [] := by
      rintro rfl
      exact Nat.toDigits_ne_nil hdigits.symm
    have hread := read?_hexadecimal hmark hne
      (fun d hd => (isHexDigit_of_toLower (isHexDigit_of_map_toLower hdigits hd)).1) rest
    have hvalue : (Reference.hexadecimal digits).value = .ok [c] := by
      rw [value, number_of_map_toLower hdigits, character_eq_self_iff.2 hkept]
    simpa using resolve_of_read? hread hvalue

theorem resolve_of_escaped (h : Escaped t e) : resolve e = .ok t := by
  induction h with
  | nil => rw [resolve]
  | cons hc ht ih =>
    rw [hc.resolve_append, ih]
    rfl

theorem Spelling.not_mem (h : Spelling c w) : '<' ∉ w := by
  cases h with
  | literal hreference htag => simpa using htag.symm
  | @named name hname =>
    obtain ⟨⟨-, -, hfree, -⟩, -⟩ := predefined_spec _ hname
    simp [hfree]
  | decimal hkept =>
    have hfree : '<' ∉ Nat.toDigits 10 c.toNat := fun hmem => by
      cases isDecimalDigit_of_mem_toDigits hmem
    simp [hfree]
  | @hexadecimal mark digits hkept hmark hdigits =>
    have hfree : '<' ∉ digits := fun hmem => by
      cases isHexDigit_of_map_toLower hdigits hmem
    rcases hmark with rfl | rfl <;> simp [hfree]

/-- Escaped text holds nothing that could be taken for a tag. -/
theorem Escaped.not_mem (h : Escaped t e) : '<' ∉ e := by
  induction h with
  | nil => exact List.not_mem_nil
  | cons hc ht ih => exact List.not_mem_append hc.not_mem ih

end Reference

/-! ## Elements with escaped text -/

/-- The text is the tag, in one line and up to its first `>`. -/
structure Tag.WrittenAs (tag : Tag) (t : Text) : Prop where
  token : ofToken t {} none = .ok tag
  line : ∀ c ∈ t, Text.isBreak c = false
  inner : '>' ∉ t.dropLast

theorem Tag.WrittenAs.readsBack {tag : Tag} {t : Text} (h : tag.WrittenAs t) :
    tag.text = t ∧ tag.ReadsBack := by
  obtain ⟨htoken, hline, hinner⟩ := h
  have hread := htoken
  rw [ofToken] at hread
  split at hread
  · rename_i hends
    have htext : tag.text = t := by
      cases hread
      rfl
    simp only [isToken, Bool.and_eq_true, decide_eq_true_eq, beq_iff_eq] at hends
    obtain ⟨⟨hlength, hfirst⟩, hlast⟩ := hends
    obtain ⟨front, rfl⟩ := List.getLast?_eq_some_iff.1 hlast
    rw [List.dropLast_concat] at hinner
    cases front with
    | nil => simp at hlength
    | cons c body =>
      obtain rfl : c = '<' := by simpa using hfirst
      refine ⟨htext, body, fun hmem => hinner (List.mem_cons_of_mem _ hmem), fun c hc => ?_, htext,
        htext ▸ htoken⟩
      exact hline c (by simp [hc])
  · cases hread

theorem Text.strip_eq_self {t : Text} (hfirst : ∀ c ∈ t.head?, isBlank c = false)
    (hlast : ∀ c ∈ t.getLast?, isBlank c = false) : t.strip = t := by
  have hfront : t.dropWhile isBlank = t := by
    cases t with
    | nil => rfl
    | cons c t => exact List.dropWhile_cons_of_neg (by simp [hfirst c rfl])
  rw [strip_eq, hfront, List.rdropWhile_eq_self_iff]
  intro hne
  rw [hlast _ (List.getLast?_eq_some_getLast hne)]
  exact Bool.false_ne_true

/-- Two tags with text between them spell an element that holds text. -/
theorem Item.serialises_leaf {tags : TagPair} {o c e : Text} (hopening : tags.opening.WrittenAs o)
    (hclosing : tags.closing.WrittenAs c) (hfree : '<' ∉ e) (htext : ¬ e.AllBlank) :
    Serialises [.leaf tags e] (o ++ e ++ c) := by
  obtain ⟨hopeningText, hopeningBack⟩ := hopening.readsBack
  obtain ⟨hclosingText, hclosingBack⟩ := hclosing.readsBack
  obtain ⟨p, -, hp, hptag⟩ := hopeningBack.exists_piece (List.not_mem_nil (a := '<'))
  obtain ⟨q, rfl, hq, hqtag⟩ := hclosingBack.exists_piece hfree
  refine ⟨[p, q], [], ?_, .leaf nofun hptag htext hqtag .nil, List.forall_mem_nil _, nofun⟩
  simp [hp, hq, hopeningText, hclosingText]

/-- What an escaped text stands for comes back from it, on its own and as the text of an element that
    is formatted, however the element is cut into chunks. -/
theorem formatText_escaped {t e : Text} (h : Reference.Escaped t e) :
    Reference.resolve e = .ok t ∧
    ∀ (tags : TagPair) (o c : Text), tags.opening.WrittenAs o → tags.closing.WrittenAs c →
      e ≠ [] → (∀ x ∈ e, Text.isBreak x = false) →
      (∀ x ∈ e.head?, Text.isBlank x = false) → (∀ x ∈ e.getLast?, Text.isBlank x = false) →
      ∀ settings : Settings, settings.resolveReferences = true →
        1 ≤ settings.chunkSize → settings.chunkSize ≤ Capacity.count →
        ∃ counts, formatText settings (o ++ e ++ c) = .ok (o ++ t ++ c ++ ['\n'], counts) := by
  have hresolve := Reference.resolve_of_escaped h
  refine ⟨hresolve, ?_⟩
  intro tags o c hopening hclosing hne hline hfirst hlast settings hsettings hsize hcount
  have hstrip : e.unbroken.strip = e := by
    rw [Text.unbroken_eq_self_iff.2 hline, Text.strip_eq_self hfirst hlast]
  have htext : ¬ e.AllBlank := by
    obtain ⟨x, rest, rfl⟩ := List.exists_cons_of_ne_nil hne
    intro hblank
    exact Bool.false_ne_true ((hfirst x rfl).symm.trans (hblank x List.mem_cons_self))
  have hline : Line.layOut settings ⟨0, o, e, c⟩ = .ok (o ++ t ++ c) := by
    have hresolved : Formatter.resolved settings e = .ok t := by
      rw [Formatter.resolved, if_pos hsettings, hresolve]
      rfl
    have hmargin : settings.indentation ((0 : Nat) : Int) = [] := by
      rw [Settings.indentation, Text.times_eq]
      rfl
    rw [Line.layOut_of_resolved (l := ⟨0, o, e, c⟩) hresolved, hmargin]
    rfl
  refine Item.formattedText_iff.2 ⟨⟨hsize, by omega⟩, _,
    Item.serialises_leaf hopening hclosing h.not_mem htext, ?_⟩
  have hlines : Item.linesAll 0 [.leaf tags e] = [⟨0, o, e, c⟩] := by
    rw [Item.linesAll_cons, Item.lines, hstrip, hopening.readsBack.1, hclosing.readsBack.1,
      Item.linesAll_nil, List.append_nil]
  rw [Item.print, hlines]
  exact Line.layOutAll_cons_eq_ok_iff.2 ⟨_, [], hline, rfl, rfl⟩

/-- A name that is not read again, a line break by its number and a capital digit. -/
theorem formatText_escaped_twice :
    ∃ counts, formatText { chunkSize := 1 } "<a x='>&amp;lt;&#10;&#X4a;</a>".toList =
      .ok ("<a x='>&lt;\nJ</a>\n".toList, counts) := by
  have hamp : Reference.Spelling '&' ("&amp;".toList) :=
    @Reference.Spelling.named '&' ['a', 'm', 'p'] (by decide)
  have hletter : Reference.Spelling 'J' ("&#X4a;".toList) :=
    @Reference.Spelling.hexadecimal 'J' 'X' ['4', 'a'] (by decide) (.inr rfl) (by decide)
  have hescaped : Reference.Escaped "&lt;\nJ".toList "&amp;lt;&#10;&#X4a;".toList :=
    .cons hamp <|
    .cons (.literal (by decide) (by decide)) <|
    .cons (.literal (by decide) (by decide)) <|
    .cons (.literal (by decide) (by decide)) <|
    .cons (.decimal (by decide)) <|
    .cons hletter .nil
  exact (formatText_escaped hescaped).2
    ⟨⟨"<a x='>".toList, .opening, ['a'], none⟩, ⟨"</a>".toList, .closing, ['a'], none⟩, rfl, rfl, rfl⟩
    "<a x='>".toList "</a>".toList ⟨rfl, by simp [Text.isBreak], by decide⟩
    ⟨rfl, by simp [Text.isBreak], by decide⟩ (by decide) (by simp [Text.isBreak])
    (by simp [Text.isBlank]) (by simp [Text.isBlank]) { chunkSize := 1 } rfl (by decide) (by decide)

/-- Chunks of a size that is no count cannot be asked for, and the text is not brought back. -/
theorem formatText_escaped_uncountable :
    let settings : Settings := { chunkSize := 0x8000000000000000 }
    let tags : TagPair :=
      ⟨⟨"<a>".toList, .opening, ['a'], none⟩, ⟨"</a>".toList, .closing, ['a'], none⟩, rfl, rfl, rfl⟩
    Reference.Escaped ['b'] ['b'] ∧ tags.opening.WrittenAs "<a>".toList ∧
      tags.closing.WrittenAs "</a>".toList ∧
      (settings.resolveReferences = true ∧ 1 ≤ settings.chunkSize) ∧
      ¬ ∃ counts, formatText settings ("<a>".toList ++ ['b'] ++ "</a>".toList) =
        .ok ("<a>".toList ++ ['b'] ++ "</a>".toList ++ ['\n'], counts) := by
  intro settings tags
  refine ⟨.cons (.literal (by decide) (by decide)) .nil, ⟨rfl, by simp [Text.isBreak], by decide⟩,
    ⟨rfl, by simp [Text.isBreak], by decide⟩, by decide, ?_⟩
  rintro ⟨counts, h⟩
  rw [formatText_of_uncountable (by decide)] at h
  cases h

end Reindent
