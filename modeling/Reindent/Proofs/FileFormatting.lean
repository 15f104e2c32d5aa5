-- SUMMARY: A file is formatted like its text in memory, and no other file is touched.
import Mathlib.Data.List.Basic
import Reindent.Proofs.Decoding
import Reindent.Proofs.Destination
import Reindent.Proofs.Language
import Reindent.Proofs.OpenFiles

/-! # Formatting files

A file is read block by block, its text is formatted, and what is written is encoded again. None of
that makes a difference: the output holds what is written in memory for the text of the input, up to
the first text that the encoding cannot carry, and failures are the same but name the input:
`formatFile_text`. Nothing else in the tree changes.

This needs two different files, since the output is emptied before the input is read. Different paths
are not enough, be the path of the output given or derived, since both may lead to one file, and then
its text is lost: `formatFile_input`. -/

namespace Reindent

/-! ## The bytes of the output -/

namespace Encoding

variable {encoding : Encoding}

theorem unencodable?_eq_none_iff {t : Text} :
    encoding.unencodable? t = none ↔ ∀ c ∈ t, c.toNat < encoding.limit := by
  unfold unencodable?
  dsimp only
  split
  · rename_i hall
    simpa using List.dropWhile_eq_nil_iff.1 hall
  · rename_i hne
    simp only [reduceCtorEq, false_iff]
    intro hall
    exact hne (List.dropWhile_eq_nil_iff.2 (by simpa using hall))

/-- Every text can be encoded in UTF-8. -/
theorem unencodable?_utf8 (t : Text) : utf8.unencodable? t = none := by
  rw [unencodable?_eq_none_iff]
  intro c _
  rcases c.valid with hlow | ⟨-, hhigh⟩
  · exact Nat.lt_trans hlow (by decide)
  · exact hhigh

/-- The bytes of a character that the encoding has. -/
def encodeChar : Encoding → Char → Bytes
  | .utf8, c => Utf8.encodeChar c
  | .latin1, c | .ascii, c => [UInt8.ofNat c.toNat]

theorem encode_eq_ok {t : Text} (h : encoding.unencodable? t = none) :
    encoding.encode t = .ok (t.flatMap encoding.encodeChar) := by
  unfold encode
  split
  · rename_i e he
    rw [h] at he
    cases he
  · cases encoding with
    | utf8 => rfl
    | latin1 => exact congrArg Except.ok List.map_eq_flatMap
    | ascii => exact congrArg Except.ok List.map_eq_flatMap

/-- Texts that are encoded one by one are encoded as a whole. -/
theorem encode_flatten {texts : List Text} (h : ∀ t ∈ texts, encoding.unencodable? t = none) :
    encoding.encode texts.flatten = .ok (encoding.bytesOf texts) := by
  have hall : encoding.unencodable? texts.flatten = none := by
    rw [unencodable?_eq_none_iff]
    intro c hc
    obtain ⟨t, ht, hct⟩ := List.mem_flatten.1 hc
    exact unencodable?_eq_none_iff.1 (h t ht) c hct
  have hbytes : ∀ t ∈ texts,
      (encoding.encode t).toOption.getD [] = t.flatMap encoding.encodeChar := by
    intro t ht
    rw [encode_eq_ok (h t ht)]
    rfl
  rw [encode_eq_ok hall, bytesOf, List.flatMap_congr hbytes, ← List.flatMap_id, List.flatMap_assoc]
  rfl

theorem encodeChar_ne_nil (c : Char) : encoding.encodeChar c ≠ [] := by
  cases encoding with
  | utf8 =>
    unfold encodeChar Utf8.encodeChar
    dsimp only
    split_ifs <;> exact List.cons_ne_nil _ _
  | latin1 => exact List.cons_ne_nil _ _
  | ascii => exact List.cons_ne_nil _ _

theorem eq_nil_of_encode {t : Text} (h : encoding.encode t = .ok []) : t = [] := by
  cases hbad : encoding.unencodable? t with
  | none =>
    rw [encode_eq_ok hbad, Except.ok.injEq, List.flatMap_eq_nil_iff] at h
    exact List.eq_nil_iff_forall_not_mem.2 fun c hc => encodeChar_ne_nil c (h c hc)
  | some e =>
    unfold encode at h
    rw [hbad] at h
    cases h

end Encoding

/-! ## Sources that never end -/

/-- No read finds the end. -/
def Reads.Endless : Reads → Prop
  | .ended => False
  | .broken _ => True
  | .text chunk next => chunk ≠ [] ∧ next.Endless
  | .fault _ next => next.Endless

theorem Reads.endless_upTo {size : Nat} (hsize : 0 < size) (fault : Fault) (t : Text) :
    (upTo fault t size).Endless := by
  unfold upTo
  rw [if_neg (by omega)]
  induction t using chop.induct size with
  | case1 =>
    rw [chop]
    trivial
  | case2 c rest hlast =>
    rw [chop, if_pos hlast]
    trivial
  | case3 c rest hmore ih =>
    rw [chop, if_neg hmore]
    exact ⟨List.cons_ne_nil _ _, ih⟩

namespace Feed

/-- There is something in front of the reader, and there always will be. -/
def Endless (f : Feed) : Prop :=
  f.window ≠ none ∧ f.reads.Endless

theorem endless_refill {f f' : Feed} (h : f.reads.Endless) (hrefill : f.refill = (.ok (), f')) :
    f'.Endless := by
  unfold refill at hrefill
  split at hrefill
  · rename_i hreads
    rw [hreads] at h
    exact h.elim
  · cases hrefill
  · cases hrefill
  · rename_i chunk next hreads
    rw [hreads] at h
    rw [if_neg (by simpa using h.1)] at hrefill
    cases hrefill
    exact ⟨Option.some_ne_none _, h.2⟩

theorem endless_pass {reads : Reads} (h : reads.Endless) (cut : Text → Option (Text × Text))
    (keep : Text → Text) (window : Text) (delivered : Nat) :
    (pass cut keep window delivered reads).2.2.Endless := by
  induction reads generalizing window delivered with
  | ended => exact h.elim
  | broken fault =>
    unfold pass
    split <;> exact ⟨Option.some_ne_none _, trivial⟩
  | fault fault next =>
    unfold pass
    split <;> exact ⟨Option.some_ne_none _, h⟩
  | text chunk next ih =>
    unfold pass
    split
    · exact ⟨Option.some_ne_none _, h⟩
    · dsimp only
      rw [if_neg (by simpa using h.1)]
      exact ih h.2 _ _

end Feed

namespace Cursor

theorem endless_scanTo {c : Cursor} (h : c.feed.Endless) (target : Text) :
    (scanTo target c).2.feed.Endless := by
  unfold scanTo
  split
  · exact h
  · have hpass := Feed.endless_pass h.2 (Text.cut? target) id
    dsimp only [Feed.seek]
    split <;> exact hpass _ _

theorem endless_advance {c : Cursor} (h : c.feed.Endless) (skipBlanks : Bool) :
    (advance skipBlanks c).2.feed.Endless := by
  unfold advance
  split
  · exact h
  · exact h
  · have hpass := Feed.endless_pass h.2 (Feed.cutWhile? (skipBlanks && Text.isBlank ·)) fun _ => []
    dsimp only [Feed.skip]
    split <;> exact hpass _ _

end Cursor

namespace Formatter

theorem endless_step {f : Formatter} (h : f.cursor.feed.Endless) :
    (step f).2.cursor.feed.Endless :=
  cursor_step (P := fun c => c.feed.Endless) (fun target _ h => Cursor.endless_scanTo h target)
    (fun _ h => Cursor.endless_advance h true) (fun _ h => h) h

/-- A document that does not end is never formatted to its end. -/
theorem run_of_endless {f : Formatter} (h : f.cursor.feed.Endless) : ∃ e, f.run.1 = .error e := by
  induction f using run.induct with
  | case1 f hend =>
    exact absurd (Option.isNone_iff_eq_none.1 hend) h.1
  | case2 f hend f' hstep ih =>
    have hendless := endless_step h
    rw [hstep] at hendless
    rw [run_of_step_ok hend hstep]
    exact ih hendless
  | case3 f hend e f' hstep =>
    rw [run_of_step_error hend hstep]
    exact ⟨e, rfl⟩

end Formatter

theorem formatStream_of_endless {stream : Stream} {settings : Settings}
    (h : (stream settings.chunkSize.toNat).Endless) (sink : Sink) (file : Option Text) :
    ∃ e, (formatStream stream sink settings file).result = .error e := by
  rcases Formatter.start_cases stream settings with ⟨e, -, hstart⟩ | ⟨feed, hrefill, hstart⟩
  · exact ⟨e, by rw [formatStream, hstart]⟩
  · have hendless : feed.Endless := Feed.endless_refill h hrefill
    obtain ⟨e, he⟩ := Formatter.run_of_endless (f := { settings, cursor := { feed, file }, sink })
      hendless
    exact ⟨e, ((formatStream_of_start (hstart sink file)).2 e).2 he⟩

/-! ## Both files are open -/

section

variable {memory : Nat} {tree emptied : FileTree} {opened : Opened} {input output : Path}
  {output? : Option Path} {encodingName : Text} {source target : FileId} {encoding : Encoding}
  {settings : Settings} {bytes : Bytes} {s : Text}

theorem formatFile_of_opened (h : openFiles tree input output? encodingName = .ok opened)
    (memory : Nat) (settings : Settings) :
    formatFile memory tree input output? encodingName settings =
      formatOpened memory opened input settings := by
  rw [formatFile, h]

theorem formatFile_of_error {e : Failure}
    (h : openFiles tree input output? encodingName = .error e) (memory : Nat) (settings : Settings) :
    formatFile memory tree input output? encodingName settings =
      { result := .error e, tree, events := [] } := by
  rw [formatFile, h]

/-- The input is read once the output has been emptied. -/
theorem read_of_ne (h : tree.openForWriting output = .ok (target, emptied)) (hne : target ≠ source)
    (hsource : tree.content? source = some bytes) : (emptied.content? source).getD [] = bytes := by
  rw [FileTree.content?, FileTree.files_of_openForWriting h hne.symm]
  exact congrArg (Option.getD · []) hsource

theorem read_self (h : tree.openForWriting output = .ok (source, emptied)) :
    (emptied.content? source).getD [] = [] := by
  rw [FileTree.content?_of_openForWriting h]
  rfl

/-- The input is read as it was, also if nothing was in it to be lost. -/
theorem read_of_safe (h : tree.openForWriting output = .ok (target, emptied))
    (hsource : tree.content? source = some bytes) (hsafe : target = source → bytes = []) :
    (emptied.content? source).getD [] = bytes := by
  by_cases hself : target = source
  · rw [hsafe hself]
    exact read_self (hself ▸ h)
  · exact read_of_ne h hself hsource

/-- Nothing but the output is written to. -/
theorem files_formatOpened {file : FileId}
    (h : tree.openForWriting output = .ok (target, emptied)) (hne : file ≠ target) :
    (formatOpened memory ⟨output, source, target, encoding, emptied⟩ input settings).tree.files[file]? =
      tree.files[file]? :=
  (FileTree.files_write_of_ne hne).trans (FileTree.files_of_openForWriting h hne)

theorem formatOpened_eq (h : tree.openForWriting output = .ok (target, emptied))
    (hread : (emptied.content? source).getD [] = bytes) (memory : Nat) (input : Path)
    (encoding : Encoding) (settings : Settings) :
    let inMemory := formatStream (encoding.stream memory bytes) (.encoded encoding) settings
      (some input.toText)
    let report := formatOpened memory ⟨output, source, target, encoding, emptied⟩ input settings
    report.result = inMemory.result.map (fun _ => output) ∧
      report.tree.content? target = some (encoding.bytesOf inMemory.sink.written) := by
  have hthere : (emptied.content? target).isSome = true := by
    rw [FileTree.content?_of_openForWriting h]
    rfl
  simp only [formatOpened, hread, FileTree.content?_write_self hthere, and_self]

theorem openForReading_formatOpened (h : tree.openForWriting output = .ok (target, emptied))
    {path : Path}
    (hok : (formatOpened memory ⟨output, source, target, encoding, emptied⟩ input settings).result =
      .ok path) :
    (formatOpened memory ⟨output, source, target, encoding, emptied⟩ input
      settings).tree.openForReading path = .ok target := by
  obtain ⟨hresult, -⟩ := formatOpened_eq h rfl memory input encoding settings
  rw [hok] at hresult
  generalize (formatStream _ _ settings _).result = result at hresult
  cases result with
  | ok counts =>
    cases hresult
    exact FileTree.openForReading_of_openForWriting h _
  | error e => cases hresult

theorem formatStream_congr {stream stream' : Stream}
    (h : stream settings.chunkSize.toNat = stream' settings.chunkSize.toNat) (sink : Sink)
    (file : Option Text) :
    formatStream stream sink settings file = formatStream stream' sink settings file := by
  simp only [formatStream, Formatter.start, Cursor.start, h]

/-- A file is formatted like its text in memory, up to the first text that its encoding lacks. -/
theorem formatOpened_text (h : tree.openForWriting output = .ok (target, emptied))
    (hread : (emptied.content? source).getD [] = bytes) (hs : encoding.Decodes bytes s)
    (hfits : encoding.Fits memory bytes settings.chunkSize.toNat) (input : Path) :
    let inMemory := formatStream (Reads.counted (Reads.ofText s)) {} settings none
    let report := formatOpened memory ⟨output, source, target, encoding, emptied⟩ input settings
    (∀ t ∈ inMemory.sink.written, encoding.unencodable? t = none) ∧
        report.result =
          (inMemory.result.mapError (Failure.inFile (some input.toText))).map (fun _ => output) ∧
        report.tree.content? target = some (encoding.bytesOf inMemory.sink.written) ∨
      ∃ texts t others e, inMemory.sink.written = texts ++ t :: others ∧
        (∀ u ∈ texts, encoding.unencodable? u = none) ∧ encoding.unencodable? t = some e ∧
        report.result = .error (.stream (.writing (.unencodable e))) ∧
        report.tree.content? target = some (encoding.bytesOf texts) := by
  intro inMemory report
  obtain ⟨hresult, hcontent⟩ := formatOpened_eq h hread memory input encoding settings
  rw [formatStream_congr (Encoding.stream_eq hs hfits)] at hresult hcontent
  rcases formatStream_redirect (Reads.counted (Reads.ofText s)) settings (some input.toText)
      (fun t => (encoding.unencodable? t).map Fault.unencodable) with
    ⟨htaken, hsame, hwritten⟩ | ⟨texts, t, others, fault, hmemory, htaken, hrefused, hfault, hwritten⟩
  · refine .inl ⟨fun t ht => by simpa using htaken t ht, ?_, ?_⟩
    · rw [← hsame]
      exact hresult
    · rw [← hwritten]
      exact hcontent
  · obtain ⟨e, he, rfl⟩ := Option.map_eq_some_iff.1 hrefused
    refine .inr ⟨texts, t, others, e, hmemory, fun u hu => by simpa using htaken u hu, he, ?_, ?_⟩
    · refine hresult.trans (congrArg (Except.map fun _ => output) hfault)
    · rw [← hwritten]
      exact hcontent

/-- Where every text can be encoded, the result for a file is that for its text. -/
theorem formatOpened_utf8 (h : tree.openForWriting output = .ok (target, emptied))
    (hread : (emptied.content? source).getD [] = bytes) (hs : Encoding.utf8.Decodes bytes s)
    (hfits : Encoding.utf8.Fits memory bytes settings.chunkSize.toNat) (input : Path) :
    (formatOpened memory ⟨output, source, target, .utf8, emptied⟩ input settings).result =
      ((formatText settings s).mapError (Failure.inFile (some input.toText))).map
        (fun _ => output) := by
  rcases formatOpened_text h hread hs hfits input with
    ⟨-, hresult, -⟩ | ⟨texts, t, others, e, -, -, hrefused, -⟩
  · rw [hresult]
    dsimp only [formatText]
    cases (formatStream (Reads.counted (Reads.ofText s)) {} settings none).result <;> rfl
  · rw [Encoding.unencodable?_utf8] at hrefused
    cases hrefused

/-- A file that is formatted to its end has been read to its end. -/
theorem fits_of_formatOpened (h : tree.openForWriting output = .ok (target, emptied))
    (hread : (emptied.content? source).getD [] = bytes) (hsize : 1 ≤ settings.chunkSize)
    {path : Path}
    (hok : (formatOpened memory ⟨output, source, target, encoding, emptied⟩ input settings).result =
      .ok path) :
    encoding.Fits memory bytes settings.chunkSize.toNat := by
  by_contra hfits
  obtain ⟨u, hu⟩ := Encoding.stream_of_not_fits hfits
  have hendless : (encoding.stream memory bytes settings.chunkSize.toNat).Endless := by
    rw [hu, Reads.counted]
    split
    · exact Reads.endless_upTo (by omega) _ u
    · trivial
  obtain ⟨hresult, -⟩ := formatOpened_eq h hread memory input encoding settings
  obtain ⟨e, he⟩ := formatStream_of_endless hendless (.encoded encoding) (some input.toText)
  rw [hok, he] at hresult
  cases hresult

theorem formatStream_of_empty {stream : Stream} (h : stream settings.chunkSize.toNat = .ended ∨
      ∃ fault, stream settings.chunkSize.toNat = .broken fault) (sink : Sink) (file : Option Text) :
    (formatStream stream sink settings file).sink = sink := by
  rcases Formatter.start_cases stream settings with ⟨e, -, hstart⟩ | ⟨feed, hrefill, hstart⟩
  · rw [formatStream, hstart]
  · rw [(formatStream_of_start (hstart sink file)).1]
    rcases h with hended | ⟨fault, hbroken⟩
    · rw [hended] at hrefill
      cases hrefill
      rw [Formatter.run_of_atEnd rfl, Formatter.finish_snd]
    · rw [hbroken] at hrefill
      cases hrefill

theorem stream_nil (encoding : Encoding) (memory size : Nat) :
    encoding.stream memory [] size = .ended ∨
      ∃ fault, encoding.stream memory [] size = .broken fault := by
  have hrun : ∃ stop, Decoder.run { encoding } memory size [] = ([], stop) := by
    unfold Decoder.run
    split
    · exact ⟨_, rfl⟩
    · exact ⟨_, rfl⟩
  obtain ⟨stop, hrun⟩ := hrun
  simp only [Encoding.stream, Reads.counted, hrun]
  split
  · cases stop with
    | none => exact .inl (by simp [Reads.ofText, Reads.chop])
    | some fault =>
      simp only [Reads.upTo, Reads.chop]
      split
      · exact .inl rfl
      · exact .inr ⟨fault, rfl⟩
  · exact .inr ⟨_, rfl⟩

/-- A file that is its own output is empty in the end. -/
theorem content?_formatOpened_self (h : tree.openForWriting output = .ok (source, emptied)) :
    (formatOpened memory ⟨output, source, source, encoding, emptied⟩ input settings).tree.content?
      source = some [] := by
  obtain ⟨-, hcontent⟩ := formatOpened_eq h (read_self h) memory input encoding settings
  rw [hcontent, formatStream_of_empty (stream_nil encoding memory _)]
  rfl

/-! ## Results -/

theorem formatText_eq_ok_iff {o : Text} {counts : Counts} :
    formatText settings s = .ok (o, counts) ↔
      (formatStream (Reads.counted (Reads.ofText s)) {} settings none).result = .ok counts ∧
      (formatStream (Reads.counted (Reads.ofText s)) {} settings none).sink.content = o := by
  unfold formatText
  cases hresult : (formatStream (Reads.counted (Reads.ofText s)) {} settings none).result with
  | ok counts' => simp [hresult, Except.map, and_comm]
  | error e => simp [hresult, Except.map]

theorem formatText_eq_error_iff {e : Failure} :
    formatText settings s = .error e ↔
      (formatStream (Reads.counted (Reads.ofText s)) {} settings none).result = .error e := by
  unfold formatText
  cases hresult : (formatStream (Reads.counted (Reads.ofText s)) {} settings none).result with
  | ok counts => simp [hresult, Except.map]
  | error e' => simp [hresult, Except.map]

/-- Only the empty text is formatted to nothing. -/
theorem eq_nil_of_formatText {counts : Counts} (h : formatText settings s = .ok ([], counts)) :
    s = [] := by
  obtain ⟨-, items, ⟨ps, tail, rfl, hspelled, -, htail⟩, hprint⟩ := Item.formattedText_iff.1 ⟨counts, h⟩
  have hitems : items = [] := by
    cases hlines : Item.linesAll 0 items with
    | nil => exact Item.linesAll_eq_nil_iff.1 hlines
    | cons l ls =>
      rw [Item.print, hlines] at hprint
      obtain ⟨t, u, -, -, hnil⟩ := Line.layOutAll_cons_eq_ok_iff.1 hprint
      simp at hnil
  rw [hspelled.eq_nil_iff.1 hitems, htail hitems]
  rfl

/-- What is written, if nothing fails, is the text of the input, formatted. -/
theorem formatOpened_of_ok (h : tree.openForWriting output = .ok (target, emptied))
    (hread : (emptied.content? source).getD [] = bytes) (hs : encoding.Decodes bytes s)
    (hsize : 1 ≤ settings.chunkSize) {path : Path}
    (hok : (formatOpened memory ⟨output, source, target, encoding, emptied⟩ input settings).result =
      .ok path) :
    ∃ o counts out, formatText settings s = .ok (o, counts) ∧ encoding.encode o = .ok out ∧
      (formatOpened memory ⟨output, source, target, encoding, emptied⟩ input
        settings).tree.content? target = some out := by
  have hfits := fits_of_formatOpened h hread hsize hok
  rcases formatOpened_text h hread hs hfits input with
    ⟨htaken, hresult, hcontent⟩ | ⟨texts, t, others, e, -, -, -, hresult, -⟩
  · cases hmemory : (formatStream (Reads.counted (Reads.ofText s)) {} settings none).result with
    | ok counts =>
      exact ⟨_, counts, _, formatText_eq_ok_iff.2 ⟨hmemory, rfl⟩, Encoding.encode_flatten htaken,
        hcontent⟩
    | error e =>
      rw [hok, hmemory] at hresult
      cases hresult
  · rw [hok] at hresult
    cases hresult

/-- The input is in the end what it was, also if nothing was in it to be lost. -/
theorem content?_formatOpened_source (h : tree.openForWriting output = .ok (target, emptied))
    (hsource : tree.content? source = some bytes) (hsafe : target = source → bytes = []) :
    (formatOpened memory ⟨output, source, target, encoding, emptied⟩ input settings).tree.content?
      source = some bytes := by
  by_cases hself : target = source
  · subst hself
    rw [hsafe rfl]
    exact content?_formatOpened_self h
  · rw [FileTree.content?, files_formatOpened h (Ne.symm hself)]
    exact hsource

/-- Formatting a file into another one agrees with formatting its text in memory. If a text that is
    written in memory cannot be encoded, then the first such text is where writing fails, and the
    output holds what is in front of it. Otherwise the output holds all that is written in memory, and
    the result is the same, failures naming the input. Memory has to have room for the blocks that the
    file is read in. Other files stay as they are in any case, and the path of the output leads to
    what was written. -/
theorem formatFile_text
    (hopened : openFiles tree input output? encodingName =
      .ok ⟨output, source, target, encoding, emptied⟩)
    (hne : target ≠ source) (hsource : tree.content? source = some bytes)
    (hs : encoding.Decodes bytes s) (memory : Nat) (settings : Settings) :
    let inMemory := formatStream (Reads.counted (Reads.ofText s)) {} settings none
    let report := formatFile memory tree input output? encodingName settings
    (∀ file, file ≠ target → report.tree.files[file]? = tree.files[file]?) ∧
    report.tree.openForReading output = .ok target ∧
    (encoding.Fits memory bytes settings.chunkSize.toNat →
      ((∃ t ∈ inMemory.sink.written, encoding.unencodable? t ≠ none) →
        ∃ texts t others e out, inMemory.sink.written = texts ++ t :: others ∧
          (∀ u ∈ texts, encoding.unencodable? u = none) ∧ encoding.unencodable? t = some e ∧
          report.result = .error (.stream (.writing (.unencodable e))) ∧
          encoding.encode texts.flatten = .ok out ∧ report.tree.content? target = some out) ∧
      ((∀ t ∈ inMemory.sink.written, encoding.unencodable? t = none) →
        (∀ o counts, formatText settings s = .ok (o, counts) →
          report.result = .ok output ∧
            ∃ out, encoding.encode o = .ok out ∧ report.tree.content? target = some out) ∧
        ∀ e, formatText settings s = .error e →
          report.result = .error (e.inFile (some input.toText)) ∧
            ∃ out, encoding.encode inMemory.sink.written.flatten = .ok out ∧
              report.tree.content? target = some out)) := by
  intro inMemory report
  obtain ⟨-, -, -, -, hwritable⟩ := openFiles_eq_ok_iff.1 hopened
  have hreport : report =
      formatOpened memory ⟨output, source, target, encoding, emptied⟩ input settings :=
    formatFile_of_opened hopened memory settings
  rw [hreport]
  refine ⟨fun file => files_formatOpened hwritable,
    FileTree.openForReading_of_openForWriting hwritable _, fun hfits => ?_⟩
  rcases formatOpened_text hwritable (read_of_ne hwritable hne hsource) hs hfits input with
    ⟨htaken, hresult, hcontent⟩ | ⟨texts, t, others, e, hwritten, htaken, hrefused, hresult, hcontent⟩
  · refine ⟨fun ⟨t, ht, hrefused⟩ => absurd (htaken t ht) hrefused, fun _ => ⟨?_, ?_⟩⟩
    · intro o counts ho
      obtain ⟨hok, rfl⟩ := formatText_eq_ok_iff.1 ho
      rw [hok] at hresult
      exact ⟨hresult, _, Encoding.encode_flatten htaken, hcontent⟩
    · intro e he
      rw [formatText_eq_error_iff.1 he] at hresult
      exact ⟨hresult, _, Encoding.encode_flatten htaken, hcontent⟩
  · refine ⟨fun _ => ⟨texts, t, others, e, _, hwritten, htaken, hrefused, hresult,
      Encoding.encode_flatten htaken, hcontent⟩, fun hall => ?_⟩
    have hmem : t ∈ inMemory.sink.written := by rw [hwritten]; simp
    rw [hall t hmem] at hrefused
    cases hrefused

/-- The text of an element with nothing in it. -/
theorem formatText_empty_element (settings : Settings) (hsize : 1 ≤ settings.chunkSize)
    (hcount : settings.chunkSize.toNat ≤ Capacity.count) :
    ∃ counts, formatText settings ['<', 'a', '>', '<', '/', 'a', '>'] =
      .ok (['<', 'a', '/', '>', '\n'], counts) := by
  have hitem : Item.Spelled false
      [.element ⟨⟨['<', 'a', '>'], .opening, ['a'], none⟩,
        ⟨['<', '/', 'a', '>'], .closing, ['a'], none⟩, rfl, rfl, rfl⟩ []]
      [⟨[], ['a'], by decide, by decide⟩, ⟨[], ['/', 'a'], by decide, by decide⟩] :=
    .element (fun h => by cases h) rfl .nil (fun _ => by decide) rfl .nil
  refine Item.formattedText_iff.2 ⟨⟨hsize, hcount⟩, _, ⟨_, [], rfl, hitem, by decide, ?_⟩, ?_⟩
  · exact fun h => by cases h
  · show Line.layOutAll settings [⟨0, ['<', 'a', '/', '>'], [], []⟩] = _
    simp [Line.layOutAll, Line.layOut_of_tag, Settings.indentation, Text.times_eq, Except.map]

/-- An empty element, formatted into another file. -/
theorem formatFile_text_fused :
    let tree : FileTree := { files := [⟨[[['a']]], [60, 97, 62, 60, 47, 97, 62]⟩] }
    let report := formatFile 65536 tree ⟨.here, [['a']]⟩ (some ⟨.here, [['b']]⟩) "utf-8".toList {}
    report.result = .ok ⟨.here, [['b']]⟩ ∧ report.tree.openForReading ⟨.here, [['b']]⟩ = .ok 1 ∧
      report.tree.content? 1 = some [60, 97, 47, 62, 10] ∧
      report.tree.files[0]? = some ⟨[[['a']]], [60, 97, 62, 60, 47, 97, 62]⟩ := by
  intro tree report
  have hopened : openFiles tree ⟨.here, [['a']]⟩ (some ⟨.here, [['b']]⟩) "utf-8".toList =
      .ok ⟨⟨.here, [['b']]⟩, 0, 1, .utf8, { tree with files := tree.files ++ [⟨[[['b']]], []⟩] }⟩ := by
    decide +kernel
  have hs : Encoding.utf8.Decodes [60, 97, 62, 60, 47, 97, 62] ['<', 'a', '>', '<', '/', 'a', '>'] :=
    by decide
  obtain ⟨hother, hleads, hsame⟩ := formatFile_text hopened (by decide) rfl hs 65536 {}
  obtain ⟨-, hencodable⟩ := hsame (Encoding.fits_of_le (by decide) (by decide))
  obtain ⟨hok, -⟩ := hencodable fun t _ => Encoding.unencodable?_utf8 t
  obtain ⟨counts, ho⟩ := formatText_empty_element {} (by decide) (by decide)
  obtain ⟨hresult, out, hout, hcontent⟩ := hok _ counts ho
  cases hout
  exact ⟨hresult, hleads, hcontent, hother 0 (by decide)⟩

/-- A file is refused where its text is not, if it is read in chunks that memory has no room for. -/
theorem formatFile_of_enormous_chunks :
    let tree : FileTree := { files := [⟨[[['a']]], [60, 97, 62, 60, 47, 97, 62]⟩] }
    let settings : Settings := { chunkSize := 1000000000000000000 }
    openFiles tree ⟨.here, [['a']]⟩ (some ⟨.here, [['b']]⟩) "utf-8".toList =
        .ok ⟨⟨.here, [['b']]⟩, 0, 1, .utf8, { tree with files := tree.files ++ [⟨[[['b']]], []⟩] }⟩ ∧
      tree.content? 0 = some [60, 97, 62, 60, 47, 97, 62] ∧
      Encoding.utf8.Decodes [60, 97, 62, 60, 47, 97, 62] ['<', 'a', '>', '<', '/', 'a', '>'] ∧
      (∃ counts, formatText settings ['<', 'a', '>', '<', '/', 'a', '>'] =
        .ok (['<', 'a', '/', '>', '\n'], counts)) ∧
      (∀ t, Encoding.utf8.unencodable? t = none) ∧
      ∀ memory < 1000000000000000000,
        (formatFile memory tree ⟨.here, [['a']]⟩ (some ⟨.here, [['b']]⟩) "utf-8".toList
          settings).result = .error (.excess .memory) := by
  intro tree settings
  have hopened : openFiles tree ⟨.here, [['a']]⟩ (some ⟨.here, [['b']]⟩) "utf-8".toList =
      .ok ⟨⟨.here, [['b']]⟩, 0, 1, .utf8, { tree with files := tree.files ++ [⟨[[['b']]], []⟩] }⟩ := by
    decide +kernel
  refine ⟨hopened, rfl, by decide, formatText_empty_element _ (by decide) (by decide),
    Encoding.unencodable?_utf8, fun memory hmemory => ?_⟩
  obtain ⟨-, -, -, -, hwritable⟩ := openFiles_eq_ok_iff.1 hopened
  have hrequest : Decoder.request { encoding := .utf8 } memory 1000000000000000000 =
      .error .memory :=
    if_pos (show memory < 1000000000000000000 from hmemory)
  have hrun : Decoder.run { encoding := .utf8 } memory 1000000000000000000
      [60, 97, 62, 60, 47, 97, 62] = ([], some (.excess .memory)) := by
    rw [Decoder.run, hrequest]
  have hstream : Encoding.utf8.stream memory [60, 97, 62, 60, 47, 97, 62] 1000000000000000000 =
      .broken (.excess .memory) := by
    simp [Encoding.stream, Reads.counted, hrun, Reads.upTo, Reads.chop, Capacity.count]
  have hread : (({ tree with files := tree.files ++ [⟨[[['b']]], []⟩] } : FileTree).content? 0).getD [] =
      [60, 97, 62, 60, 47, 97, 62] := rfl
  rw [formatFile_of_opened hopened, (formatOpened_eq hwritable hread _ _ _ _).1]
  simp only [formatStream, Formatter.start, Cursor.start]
  rw [show settings.chunkSize.toNat = 1000000000000000000 from rfl, hstream]
  rfl

/-- A file that is formatted into itself is empty in the end, and it is what a call that succeeds
    returns a path to. -/
theorem formatFile_of_outputIs (hsource : tree.openForReading input = .ok source)
    (hthere : (tree.content? source).isSome = true) (hplain : encodingName.contains '\x00' = false)
    (hencoding : encodingOf encodingName = .ok encoding) (hout : OutputIs tree input output? source)
    (memory : Nat) (settings : Settings) :
    let report := formatFile memory tree input output? encodingName settings
    report.tree.content? source = some [] ∧
      ∀ path, report.result = .ok path → report.tree.openForReading path = .ok source := by
  intro report
  obtain ⟨output, emptied, hopened⟩ := (openFiles_self_iff hsource hthere hplain hencoding).2 hout
  obtain ⟨-, -, -, -, hwritable⟩ := openFiles_eq_ok_iff.1 hopened
  rw [show report = _ from formatFile_of_opened hopened memory settings]
  exact ⟨content?_formatOpened_self hwritable, fun path => openForReading_formatOpened hwritable⟩

/-- Formatting a file does as it should exactly if the path of the output, given or derived, does not
    lead to the input, or there is nothing to be lost in it: what is returned then leads to the text
    of the input, formatted, and after a failure the input is as it was. A file that is its own output
    is emptied before it is read, and stays empty. -/
theorem formatFile_input (hsource : tree.openForReading input = .ok source)
    (hbytes : tree.content? source = some bytes) (hplain : encodingName.contains '\x00' = false)
    (hencoding : encodingOf encodingName = .ok encoding) (hs : encoding.Decodes bytes s)
    (hsize : 1 ≤ settings.chunkSize) (memory : Nat) (output? : Option Path) :
    let report := formatFile memory tree input output? encodingName settings
    ((∀ output, report.result = .ok output →
          ∃ target o counts out, report.tree.openForReading output = .ok target ∧
            formatText settings s = .ok (o, counts) ∧ encoding.encode o = .ok out ∧
            report.tree.content? target = some out) ∧
        (∀ e, report.result = .error e → report.tree.content? source = some bytes) ↔
      (OutputIs tree input output? source → bytes = [])) ∧
    (OutputIs tree input output? source → report.tree.content? source = some []) := by
  intro report
  have hthere : (tree.content? source).isSome = true := by rw [hbytes]; rfl
  have hself (hout : OutputIs tree input output? source) :=
    formatFile_of_outputIs hsource hthere hplain hencoding hout memory settings
  refine ⟨⟨fun ⟨hreturned, hfailed⟩ hout => ?_, fun hsafe => ?_⟩, fun hout => (hself hout).1⟩
  · obtain ⟨hempty, hleads⟩ := hself hout
    cases hresult : report.result with
    | error e =>
      cases hempty.symm.trans (hfailed e hresult)
      rfl
    | ok path =>
      obtain ⟨target, o, counts, out, htarget, ho, hencode, hcontent⟩ := hreturned path hresult
      cases htarget.symm.trans (hleads path hresult)
      cases hcontent.symm.trans hempty
      cases Encoding.eq_nil_of_encode hencode
      cases eq_nil_of_formatText ho
      exact Encoding.eq_nil_of_decodes_nil hs
  · cases hopened : openFiles tree input output? encodingName with
    | error e =>
      rw [show report = _ from formatFile_of_error hopened memory settings]
      exact ⟨nofun, fun _ _ => hbytes⟩
    | ok opened =>
      obtain ⟨output, source', target, encoding', emptied⟩ := opened
      obtain ⟨-, -, hreadable, hknown, hwritable⟩ := openFiles_eq_ok_iff.1 hopened
      cases hsource.symm.trans hreadable
      cases hencoding.symm.trans hknown
      have hother : target = source → bytes = [] := by
        rintro rfl
        exact hsafe ((openFiles_self_iff hsource hthere hplain hencoding).1 ⟨_, _, hopened⟩)
      rw [show report = _ from formatFile_of_opened hopened memory settings]
      refine ⟨fun path hok => ?_, fun e _ => content?_formatOpened_source hwritable hbytes hother⟩
      obtain ⟨o, counts, out, ho, hencode, hcontent⟩ :=
        formatOpened_of_ok hwritable (read_of_safe hwritable hbytes hother) hs hsize hok
      exact ⟨target, o, counts, out, openForReading_formatOpened hwritable hok, ho, hencode, hcontent⟩

/-- An empty element, formatted into the file whose path is derived, and onto itself. -/
theorem formatFile_input_empty_element :
    let tree : FileTree := { files := [⟨[[['a']]], [60, 97, 62, 60, 47, 97, 62]⟩] }
    let derived := formatFile 65536 tree ⟨.here, [['a']]⟩ none "utf-8".toList {}
    let itself := formatFile 65536 tree ⟨.here, [['a']]⟩ (some ⟨.here, [['a']]⟩) "utf-8".toList {}
    derived.result = .ok ⟨.here, ["a_formatted".toList]⟩ ∧
      derived.tree.openForReading ⟨.here, ["a_formatted".toList]⟩ = .ok 1 ∧
      derived.tree.content? 1 = some [60, 97, 47, 62, 10] ∧
      itself.result = .ok ⟨.here, [['a']]⟩ ∧ itself.tree.content? 0 = some [] := by
  intro tree derived itself
  have hs : Encoding.utf8.Decodes [60, 97, 62, 60, 47, 97, 62] ['<', 'a', '>', '<', '/', 'a', '>'] :=
    by decide
  have hfits (bytes : Bytes) : Encoding.utf8.Fits 65536 bytes (Settings.chunkSize {}).toNat :=
    Encoding.fits_of_le (by decide) (by decide)
  have hsource : tree.openForReading ⟨.here, [['a']]⟩ = .ok 0 := by decide +kernel
  have hplain : "utf-8".toList.contains '\x00' = false := by decide
  have hencoding : encodingOf "utf-8".toList = .ok .utf8 := by decide
  have hsize : 1 ≤ Settings.chunkSize {} := by decide
  have hinput := formatFile_input hsource rfl hplain hencoding hs hsize 65536
  have hderived : openFiles tree ⟨.here, [['a']]⟩ none "utf-8".toList =
      .ok ⟨⟨.here, ["a_formatted".toList]⟩, 0, 1, .utf8,
        { tree with files := tree.files ++ [⟨[["a_formatted".toList]], []⟩] }⟩ := by
    decide +kernel
  have hitself : openFiles tree ⟨.here, [['a']]⟩ (some ⟨.here, [['a']]⟩) "utf-8".toList =
      .ok ⟨⟨.here, [['a']]⟩, 0, 0, .utf8, { tree with files := [⟨[[['a']]], []⟩] }⟩ := by
    decide +kernel
  obtain ⟨-, -, -, -, hwritable⟩ := openFiles_eq_ok_iff.1 hderived
  obtain ⟨-, -, -, -, hemptied⟩ := openFiles_eq_ok_iff.1 hitself
  obtain ⟨counts, ho⟩ := formatText_empty_element {} hsize (by decide)
  obtain ⟨counts', hnothing⟩ : ∃ counts, formatText {} [] = .ok ([], counts) :=
    Item.formattedText_iff.2 ⟨by decide, [], ⟨[], [], rfl, .nil, by decide, fun _ => rfl⟩, rfl⟩
  have hok : derived.result = .ok ⟨.here, ["a_formatted".toList]⟩ := by
    have hread := read_of_ne hwritable Nat.one_ne_zero rfl
    have hresult := formatOpened_utf8 hwritable hread hs (hfits _) ⟨.here, [['a']]⟩
    rw [ho] at hresult
    exact (congrArg FileReport.result (formatFile_of_opened hderived _ _)).trans hresult
  have hok' : itself.result = .ok ⟨.here, [['a']]⟩ := by
    have hempty : Encoding.utf8.Decodes [] [] := by decide
    have hresult :=
      formatOpened_utf8 hemptied (read_self hemptied) hempty (hfits _) ⟨.here, [['a']]⟩
    rw [hnothing] at hresult
    exact (congrArg FileReport.result (formatFile_of_opened hitself _ _)).trans hresult
  have hother : ¬ OutputIs tree ⟨.here, [['a']]⟩ none 0 := by
    rintro ⟨output, houtput, hleads⟩
    cases houtput
    exact absurd hleads (by decide +kernel)
  obtain ⟨-, hlost⟩ := hinput (some ⟨.here, [['a']]⟩)
  obtain ⟨hpromise, -⟩ := hinput none
  obtain ⟨hreturned, -⟩ := hpromise.2 fun hself => absurd hself hother
  obtain ⟨target, o, counts, out, hleads, ho', hout, hcontent⟩ := hreturned _ hok
  cases ho.symm.trans ho'
  cases hout
  have hone : derived.tree.openForReading ⟨.here, ["a_formatted".toList]⟩ = .ok 1 := by
    have hreport : derived = _ := formatFile_of_opened hderived _ _
    rw [hreport] at hok ⊢
    exact openForReading_formatOpened hwritable hok
  cases hone.symm.trans hleads
  exact ⟨hok, hone, hcontent, hok', hlost ⟨_, rfl, hsource⟩⟩

end

end Reindent
