-- SUMMARY: How formatting can fail: because of the document, or at a reference that is too long.
import Reindent.CommandLine
import Reindent.Proofs.FileFormatting
import Reindent.Proofs.OverlongReference

/-! # Documented failures

A text in memory fails to be formatted because of what is wrong with it, and that is a failure a
caller is told about. The exceptions are references: one with too many digits fails in its own way.
The text of an element is resolved as soon as its end is found, before the tag behind it is read, so
it is the texts that a run comes to which decide: `Formatter.run_cases`. Everything else that the
layout refuses is documented: `Stage.documented_of_run`. Together they say which failures come through
to callers and to the command line: `formatText_failures`. -/

namespace Reindent

namespace Stage

/-! ## The texts that are read -/

variable {s t : Stage} {p q : Piece} {ps rest : List Piece} {tail text : Text} {lines : List Line}

/-- The text of the element that `p` opens, if it is an element with text. The text ends at the next
    `<`, whether a tag is read there or not. -/
def textRead? (s : Stage) (p : Piece) (ps : List Piece) (tail : Text) : Option Text :=
  match s.tagOf p with
  | .error _ => none
  | .ok tag =>
    let ahead := ps.flatMap Piece.text ++ tail
    if tag.kind = .opening ∧ ¬ tagNext ps tail ∧ '<' ∈ ahead then
      some (Text.unbroken (ahead.takeWhile (· != '<'))).strip
    else none

/-- The texts of the elements with text, as far as the layout goes. -/
def textsRead (tail : Text) (s : Stage) (ps : List Piece) : List Text :=
  match ps with
  | [] => []
  | p :: ps =>
    match _hnext : s.next p ps tail with
    | .error _ => (s.textRead? p ps tail).toList
    | .ok (_, t, rest) => (s.textRead? p ps tail).toList ++ textsRead tail t rest
termination_by ps.length
decreasing_by exact length_of_turn (turn_of_next _hnext)

theorem textsRead_of_error {e : DocumentError} (h : s.next p ps tail = .error e) :
    textsRead tail s (p :: ps) = (s.textRead? p ps tail).toList := by
  rw [textsRead]
  split
  · rfl
  · rename_i hok
    rw [h] at hok
    cases hok

theorem textsRead_of_ok (h : s.next p ps tail = .ok (lines, t, rest)) :
    textsRead tail s (p :: ps) = (s.textRead? p ps tail).toList ++ textsRead tail t rest := by
  rw [textsRead]
  split
  · rename_i herror
    rw [h] at herror
    cases herror
  · rename_i hok
    rw [h] at hok
    cases hok
    rfl

theorem mem_textsRead_of_textRead? (h : s.textRead? p ps tail = some text) :
    text ∈ textsRead tail s (p :: ps) := by
  cases hnext : s.next p ps tail with
  | error e => simp [textsRead_of_error hnext, h]
  | ok r => simp [textsRead_of_ok hnext, h]

/-- A text that is read stands behind an opening tag, and ends at a `<`. -/
theorem of_textRead? (h : s.textRead? p ps tail = some text) :
    ∃ (tag : Tag) (gap ahead : Text), s.tagOf p = .ok tag ∧ tag.kind = .opening ∧ ¬ tagNext ps tail ∧
      ps.flatMap Piece.text ++ tail = gap ++ '<' :: ahead ∧ '<' ∉ gap ∧
      text = gap.unbroken.strip := by
  unfold textRead? at h
  split at h
  · cases h
  · rename_i tag htag
    dsimp only at h
    split at h
    · rename_i hread
      obtain ⟨hkind, hnext, hmem⟩ := hread
      cases h
      have hne : (ps.flatMap Piece.text ++ tail).dropWhile (· != '<') ≠ [] :=
        fun hnil => Text.dropWhile_ne_eq_nil_iff.1 hnil hmem
      obtain ⟨c, ahead, hdrop⟩ := List.exists_cons_of_ne_nil hne
      exact ⟨tag, _, ahead, htag, hkind, hnext, (Text.eq_of_dropWhile_ne hdrop).2,
        Text.not_mem_takeWhile_ne _ _, rfl⟩
    · cases h

theorem textRead?_of_gap {tag : Tag} {gap ahead : Text} (htag : s.tagOf p = .ok tag)
    (hkind : tag.kind = .opening) (hnext : ¬ tagNext ps tail)
    (heq : ps.flatMap Piece.text ++ tail = gap ++ '<' :: ahead) (hgap : '<' ∉ gap) :
    s.textRead? p ps tail = some gap.unbroken.strip := by
  unfold textRead?
  simp only [htag]
  rw [heq, if_pos ⟨hkind, hnext, by simp⟩, Text.takeWhile_ne_append hgap]

/-- The lines of a step are laid out if the text that it reads is resolved. -/
theorem exists_layOutAll_of_turn {settings : Settings}
    (hturn : Turn tail s (p :: ps) lines t rest)
    (htext : ∀ text, s.textRead? p ps tail = some text →
      ∃ u, Formatter.resolved settings text = .ok u) :
    ∃ out, Line.layOutAll settings lines = .ok out := by
  obtain ⟨out, hheld⟩ := Formatter.exists_layOutAll_heldLines settings s
  have hlines := Line.exists_layOutAll_iff.1 ⟨out, hheld⟩
  apply Line.exists_layOutAll_iff.2
  cases hturn with
  | close => simp
  | standalone => simpa [or_imp, forall_and] using hlines
  | hold => exact hlines
  | leaf htag hkind hnext =>
    rename_i q tag close hclose hclosing hclosed
    have hread := htext _ <|
      textRead?_of_gap htag hkind hnext (Piece.flatMap_text_cons _ _ _) q.gap_free
    simpa [or_imp, forall_and] using ⟨hlines, hread⟩

end Stage

/-! ## Steps -/

namespace Formatter

variable {f : Formatter} {settings : Settings} {written : List Text} {s t : Stage} {p : Piece}
  {ps rest : List Piece} {tail text : Text} {lines : List Line}

/-- A step reads a tag and does what is to be done about it. -/
theorem step_of_tag {tag : Tag} (h : f.Stands settings written s (p :: ps) tail)
    (htag : s.tagOf p = .ok tag) :
    ∃ g, step f = respond tag g ∧
      g.At (View.facing { settings, written, stage := s.behind p, shown := [] }
        (ps.flatMap Piece.text ++ tail)) := by
  obtain ⟨passed, shown, h, hpassed, htext, -⟩ := h
  rw [List.flatMap_cons, List.append_assoc] at htext
  obtain ⟨g, hnext, hg⟩ := nextTag_of_piece h (hpassed.not_mem (by decide)) htext
  rw [htag] at hnext
  exact ⟨g, Attempt.bind_ok hnext, hg⟩

/-- A step fails if the text that it reads cannot be resolved, whatever comes behind the text. -/
theorem step_of_unresolved {e : Failure} (h : f.Stands settings written s (p :: ps) tail)
    (hread : s.textRead? p ps tail = some text) (he : resolved settings text = .error e) :
    ∃ g, step f = (.error e, g) := by
  obtain ⟨tag, gap, ahead, htag, hkind, hnext, heq, hgap, rfl⟩ := Stage.of_textRead? hread
  obtain ⟨g, hstep, hg⟩ := step_of_tag h htag
  rw [respond, hkind] at hstep
  rw [Stage.tagNext, heq] at hnext
  rw [heq] at hg
  obtain ⟨g', -, herror, -⟩ := openElement_of_gap hg rfl hgap hnext tag
  exact ⟨g', hstep.trans (herror e he)⟩

/-- A step succeeds if the layout goes on and the text that it reads can be resolved. -/
theorem step_of_next (h : f.Stands settings written s (p :: ps) tail)
    (hunfinished : tail.Unfinished) (hnext : s.next p ps tail = .ok (lines, t, rest))
    (htext : ∀ text, s.textRead? p ps tail = some text → ∃ u, resolved settings text = .ok u) :
    ∃ g written', step f = (.ok (), g) ∧ g.Stands settings written' t rest tail := by
  obtain ⟨out, hout⟩ := Stage.exists_layOutAll_of_turn (Stage.turn_of_next hnext) htext
  have houtcome := outcome_step h hunfinished
  rw [hnext] at houtcome
  generalize step f = r at houtcome ⊢
  cases houtcome with
  | settled _ hg => exact ⟨_, _, rfl, hg⟩
  | unresolved herror _ =>
    rw [hout] at herror
    cases herror

/-- An element that the layout refuses fails with what is wrong with it if its text can be
    resolved. -/
theorem openElement_of_refused {v : View} {tag : Tag} {e : DocumentError}
    (h : f.At (v.facing (ps.flatMap Piece.text ++ tail))) (hlines : v.lines = [])
    (hunfinished : tail.Unfinished) (hrefused : v.stage.openElement tag ps tail = .error e)
    (htext : ∀ gap ahead : Text, ps.flatMap Piece.text ++ tail = gap ++ '<' :: ahead → '<' ∉ gap →
      ∃ u, resolved v.settings gap.unbroken.strip = .ok u) :
    ∃ g, openElement tag f = (.error (.document e), g) := by
  unfold Stage.openElement at hrefused
  split at hrefused
  · cases hrefused
  · rename_i hnext
    cases ps with
    | nil =>
      cases hrefused
      by_cases hmem : '<' ∈ tail
      · obtain ⟨gap, inside, rfl, hgap, hinside⟩ := cut_of_unfinished hunfinished hmem
        obtain ⟨u, hu⟩ := htext gap inside rfl hgap
        obtain ⟨f₂, h₂, -, hleaf⟩ := openElement_of_gap h hlines hgap hnext tag
        obtain ⟨g, hread, -⟩ := readTag_of_tail h₂ rfl hinside
        have hend : leafEnd v.settings tag v.stage.depth u f₂ = _ := Attempt.bind_error hread
        exact ⟨g, (hleaf u hu).trans (Attempt.bind_error hend)⟩
      · obtain ⟨g, hopen, -⟩ := openElement_of_tail h hlines hnext hmem tag
        exact ⟨g, hopen⟩
    | cons q ps =>
      obtain ⟨u, hu⟩ := htext _ _ (Piece.flatMap_text_cons q ps tail) q.gap_free
      rw [Stage.tagNext, Piece.flatMap_text_cons] at hnext
      rw [Piece.flatMap_text_cons] at h
      obtain ⟨f₂, h₂, -, hleaf⟩ := openElement_of_gap h hlines q.gap_free hnext tag
      dsimp only at hrefused
      cases hstage : v.stage.leaf tag q with
      | ok r =>
        rw [hstage] at hrefused
        cases hrefused
      | error e' =>
        rw [hstage] at hrefused
        cases hrefused
        obtain ⟨g, hend, -⟩ :=
          At.leafEnd_error (v := { v with lines := v.stage.heldLines }) h₂ hstage u
        exact ⟨g, (hleaf u hu).trans (Attempt.bind_error hend)⟩

/-- A step that the layout refuses fails with what is wrong there if the text that it reads can be
    resolved. -/
theorem step_of_refused {e : DocumentError} (h : f.Stands settings written s (p :: ps) tail)
    (hunfinished : tail.Unfinished) (hnext : s.next p ps tail = .error e)
    (htext : ∀ text, s.textRead? p ps tail = some text → ∃ u, resolved settings text = .ok u) :
    ∃ g, step f = (.error (.document e), g) := by
  unfold Stage.next at hnext
  cases htag : s.tagOf p with
  | error e' =>
    obtain ⟨passed, shown, h, hpassed, heq, -⟩ := h
    rw [List.flatMap_cons, List.append_assoc] at heq
    obtain ⟨g, hread, -⟩ := nextTag_of_piece h (hpassed.not_mem (by decide)) heq
    rw [htag] at hnext hread
    cases hnext
    exact ⟨g, Attempt.bind_error hread⟩
  | ok tag =>
    rw [htag] at hnext
    dsimp only at hnext
    cases hkind : tag.kind with
    | selfClosing => rw [hkind] at hnext; cases hnext
    | declaration => rw [hkind] at hnext; cases hnext
    | closing =>
      rw [hkind] at hnext
      obtain ⟨g, hstep, hg⟩ := step_of_tag h htag
      rw [respond, hkind] at hstep
      cases hclose : (s.behind p).close tag with
      | ok r =>
        rw [hclose] at hnext
        cases hnext
      | error e' =>
        rw [hclose] at hnext
        cases hnext
        obtain ⟨g', hfails, -⟩ := hg.closeElement_error hclose
        exact ⟨g', hstep.trans hfails⟩
    | opening =>
      rw [hkind] at hnext
      obtain ⟨g, hstep, hg⟩ := step_of_tag h htag
      rw [respond, hkind] at hstep
      rw [hstep]
      refine openElement_of_refused hg rfl hunfinished hnext fun gap ahead heq hgap => ?_
      have hnone : ¬ Stage.tagNext ps tail := by
        intro htagNext
        unfold Stage.openElement at hnext
        rw [if_pos htagNext] at hnext
        cases hnext
      exact htext _ (Stage.textRead?_of_gap htag hkind hnone heq hgap)

/-! ## Runs -/

theorem resolved_cases (settings : Settings) (read? : Option Text) :
    (∀ text, read? = some text → ∃ u, resolved settings text = .ok u) ∨
      ∃ text e, read? = some text ∧ resolved settings text = .error e := by
  cases read? with
  | none => exact .inl fun text h => by cases h
  | some text =>
    cases hresolved : resolved settings text with
    | ok u =>
      refine .inl fun text' h => ?_
      cases h
      exact ⟨u, hresolved⟩
    | error e => exact .inr ⟨text, e, rfl, hresolved⟩

/-- A run fails at the first text that cannot be resolved, if it comes to one, and otherwise as the
    layout says. -/
theorem run_cases (h : f.Stands settings written s ps tail) (hunfinished : tail.Unfinished) :
    (∀ text ∈ s.textsRead tail ps, ∃ u, resolved settings text = .ok u) ∧
        f.run.1 = (s.run tail ps).2.mapError .document ∨
      ∃ text ∈ s.textsRead tail ps, ∃ e, resolved settings text = .error e ∧ f.run.1 = .error e := by
  fun_induction Stage.run tail s ps generalizing f written with
  | case1 s =>
    obtain ⟨g, hrun, -⟩ := run_of_tail h hunfinished
    rw [hrun]
    exact .inl ⟨by simp [Stage.textsRead], rfl⟩
  | case2 s p ps e hnext =>
    rw [Stage.textsRead_of_error hnext]
    rcases resolved_cases settings (s.textRead? p ps tail) with htext | ⟨text, e', hread, htext⟩
    · obtain ⟨g, hstep⟩ := step_of_refused h hunfinished hnext htext
      rw [run_of_step_error (atEnd_of_piece h) hstep]
      exact .inl ⟨by simpa using htext, rfl⟩
    · obtain ⟨g, hstep⟩ := step_of_unresolved h hread htext
      rw [run_of_step_error (atEnd_of_piece h) hstep]
      exact .inr ⟨text, by simp [hread], e', htext, rfl⟩
  | case3 s p ps lines t rest hnext groups result hrun ih =>
    rw [Stage.textsRead_of_ok hnext]
    rcases resolved_cases settings (s.textRead? p ps tail) with htext | ⟨text, e', hread, htext⟩
    · obtain ⟨g, written', hstep, hg⟩ := step_of_next h hunfinished hnext htext
      rw [run_of_step_ok (atEnd_of_piece h) hstep]
      rcases ih hg with ⟨htexts, hresult⟩ | ⟨text, hmem, e', he, hresult⟩
      · rw [hrun] at hresult
        exact .inl ⟨by simpa [or_imp, forall_and] using ⟨htext, htexts⟩, hresult⟩
      · exact .inr ⟨text, List.mem_append_right _ hmem, e', he, hresult⟩
    · obtain ⟨g, hstep⟩ := step_of_unresolved h hread htext
      rw [run_of_step_error (atEnd_of_piece h) hstep]
      exact .inr ⟨text, by simp [hread], e', htext, rfl⟩

end Formatter

/-! ## What the layout refuses -/

/-- The failures that formatting is documented to end with: the document is outside the grammar, or
    its tags do not match. -/
def Failure.Documented (e : Failure) : Prop :=
  e.family? = some .malformed ∨ e.family? = some .mismatch

namespace Stage

variable {s : Stage} {p : Piece} {ps : List Piece} {tail : Text} {tag : Tag} {e : DocumentError}

theorem documented_of_tagOf (h : s.tagOf p = .error e) : (Failure.document e).Documented := by
  unfold tagOf Piece.tag Tag.ofToken at h
  split at h
  · cases h
  · cases h
    exact .inl rfl

theorem documented_of_close (h : s.close tag = .error e) : (Failure.document e).Documented := by
  unfold close at h
  split at h
  · cases h
    exact .inl rfl
  · split at h
    · cases h
    · cases h
      exact .inr rfl

theorem documented_of_leaf (h : s.leaf tag p = .error e) : (Failure.document e).Documented := by
  unfold leaf at h
  split at h
  · rename_i htag
    cases h
    exact documented_of_tagOf htag
  · split at h
    · cases h
      exact .inl rfl
    · split at h
      · cases h
      · cases h
        exact .inr rfl

theorem documented_of_openElement (h : s.openElement tag ps tail = .error e) :
    (Failure.document e).Documented := by
  unfold openElement at h
  split at h
  · cases h
  · split at h
    · cases h
      exact .inl rfl
    · split at h
      · rename_i hleaf
        cases h
        exact documented_of_leaf hleaf
      · cases h

theorem documented_of_next (h : s.next p ps tail = .error e) : (Failure.document e).Documented := by
  unfold next at h
  split at h
  · rename_i htag
    cases h
    exact documented_of_tagOf htag
  · split at h
    · split at h
      · rename_i hclose
        cases h
        exact documented_of_close hclose
      · cases h
    · cases h
    · cases h
    · exact documented_of_openElement h

theorem documented_of_finish (h : s.finish tail = .error e) : (Failure.document e).Documented := by
  unfold finish at h
  split at h
  · cases h
    exact .inl rfl
  · split at h
    · cases h
    · cases h
      exact .inl rfl

theorem documented_of_run (h : (s.run tail ps).2 = .error e) : (Failure.document e).Documented := by
  fun_induction Stage.run tail s ps with
  | case1 s => exact documented_of_finish h
  | case2 s p ps e' hnext =>
    cases h
    exact documented_of_next hnext
  | case3 s p ps lines t rest hnext groups result hrun ih =>
    rw [hrun] at ih
    exact ih h

end Stage

/-! ## Texts in memory -/

/-- The texts of the elements with text, as far as the layout of the whole text goes. -/
def Text.elementTexts (t : Text) : List Text :=
  Stage.textsRead (Markup.ofText t).tail {} (Markup.ofText t).pieces

/-- Every reference in the text of an element can be resolved, or none is to be. -/
def Text.Resolvable (settings : Settings) (t : Text) : Prop :=
  settings.resolveReferences = true → ∀ text ∈ t.elementTexts, ¬ Reference.HoldsOverlong text

/-- A text is not resolved exactly if a reference in it is too long, and the failure says so. -/
theorem Formatter.resolved_eq_error_iff {settings : Settings} {text : Text} :
    (∃ e, resolved settings text = .error e) ↔
      settings.resolveReferences = true ∧ Reference.HoldsOverlong text := by
  rw [← Reference.resolve_eq_error_iff, resolved]
  cases settings.resolveReferences with
  | false => simp
  | true => cases Reference.resolve text <;> simp [Except.mapError]

theorem Formatter.longReference_of_resolved {settings : Settings} {text : Text} {e : Failure}
    (h : resolved settings text = .error e) : ∃ n, e = .longReference n := by
  unfold resolved at h
  split at h
  · cases hresolve : Reference.resolve text with
    | ok u =>
      rw [hresolve] at h
      cases h
    | error long =>
      rw [hresolve] at h
      cases h
      exact ⟨long.digits, rfl⟩
  · cases h

section
variable {settings : Settings} {s : Text}

/-- A text in memory is read to the first element whose text cannot be resolved; if there is none, all
    that can be wrong is the document. -/
theorem formatText_cases (hsize : 1 ≤ settings.chunkSize)
    (hcount : settings.chunkSize.toNat ≤ Capacity.count) (s : Text) :
    (∀ text ∈ s.elementTexts, ∃ u, Formatter.resolved settings text = .ok u) ∧
        (∀ e, formatText settings s = .error e → e.Documented) ∨
      ∃ text ∈ s.elementTexts, ∃ e, Formatter.resolved settings text = .error e ∧
        formatText settings s = .error e := by
  obtain ⟨feed, hfeed, hstart⟩ := Formatter.start_eq_ok settings hsize
    (Reads.delivers_counted hcount (Reads.delivers_ofText (by omega) s)) {} none
  have herror (e : Failure) := formatText_eq_error_iff.trans ((formatStream_of_start hstart).2 e)
  by_cases hnone : (Markup.ofText s).pieces = [] ∧ (Markup.ofText s).tail ≠ []
  · obtain ⟨g, hrun, -⟩ := Formatter.run_of_no_piece hfeed settings none {} (fun _ _ => rfl) hnone
    refine .inl ⟨by simp [Text.elementTexts, hnone.1, Stage.textsRead], fun e he => ?_⟩
    rw [herror, hrun] at he
    cases he
    exact .inl rfl
  · have hstands := Formatter.stands_of_start hfeed settings none {} (fun _ _ => rfl) hnone
    rcases Formatter.run_cases hstands (Markup.ofText s).unfinished with
      ⟨htexts, hrun⟩ | ⟨text, hmem, e, he, hrun⟩
    · refine .inl ⟨htexts, fun e he => ?_⟩
      rw [herror, hrun] at he
      cases hlayout : (Stage.run _ _ _).2 with
      | ok u =>
        rw [hlayout] at he
        cases he
      | error e' =>
        rw [hlayout] at he
        cases he
        exact Stage.documented_of_run hlayout
    · exact .inr ⟨text, hmem, e, he, (herror e).2 hrun⟩

/-- A text whose references can be resolved fails only as documented. -/
theorem documented_of_resolvable (hsize : 1 ≤ settings.chunkSize)
    (hcount : settings.chunkSize.toNat ≤ Capacity.count)
    (hs : s.Resolvable settings) {e : Failure} (he : formatText settings s = .error e) :
    e.Documented := by
  rcases formatText_cases hsize hcount s with ⟨-, hdocumented⟩ | ⟨text, hmem, e', he', -⟩
  · exact hdocumented e he
  · obtain ⟨hresolve, hlong⟩ := Formatter.resolved_eq_error_iff.1 ⟨e', he'⟩
    exact absurd hlong (hs hresolve text hmem)

/-- A text with a reference that cannot be resolved fails because of such a reference, whatever else is
    wrong with it. -/
theorem longReference_of_not_resolvable (hsize : 1 ≤ settings.chunkSize)
    (hcount : settings.chunkSize.toNat ≤ Capacity.count) (hs : ¬ s.Resolvable settings) :
    ∃ n, formatText settings s = .error (.longReference n) := by
  rcases formatText_cases hsize hcount s with ⟨htexts, -⟩ | ⟨text, -, e, he, hresult⟩
  · refine absurd (fun hresolve text hmem hlong => ?_) hs
    obtain ⟨u, hu⟩ := htexts text hmem
    obtain ⟨e, he⟩ := Formatter.resolved_eq_error_iff.2 ⟨hresolve, hlong⟩
    rw [hu] at he
    cases he
  · obtain ⟨n, rfl⟩ := Formatter.longReference_of_resolved he
    exact ⟨n, hresult⟩

/-- A text cannot be asked for more characters than can be counted. -/
theorem formatText_of_uncountable (hcount : Capacity.count < settings.chunkSize.toNat) (s : Text) :
    formatText settings s = .error (.excess .count) := by
  rw [formatText_eq_error_iff, formatStream, Formatter.start, Cursor.start, if_neg (by omega),
    Reads.counted, if_neg (by omega)]
  rfl

end

/-! ## The command line -/

/-- The name of a file makes no difference to the family. -/
@[simp] theorem Failure.family?_inFile (file : Option Text) (e : Failure) :
    (e.inFile file).family? = e.family? := by
  cases e with
  | document e => cases e with | mk problem location => cases problem <;> rfl
  | _ => rfl

namespace CommandLine

/-- The exit code for what came of formatting: a failure is answered for if it has a family. -/
def exitCode {α : Type} : Except Failure α → Except Failure Nat
  | .ok _ => .ok 0
  | .error e => if e.family?.isSome then .ok 1 else .error e

theorem code_obey (memory : Nat) (tree : FileTree) (order : Invocation.Order) :
    (obey memory tree order).code =
      exitCode (formatFile memory tree (.ofText order.input) (order.output.map .ofText) "utf-8".toList
        { indent := order.indent }).result := by
  unfold obey
  dsimp only
  split
  · rename_i hresult
    rw [hresult]
    rfl
  · rename_i hresult
    rw [hresult]
    split <;> rename_i hfamily <;> simp [exitCode, hfamily]

variable {memory : Nat} {tree emptied : FileTree} {arguments : List Text} {order : Invocation.Order}
  {output : Path} {source target : FileId} {bytes : Bytes} {s : Text}

/-- The program formats the text of the input, which is empty if the output is the input. -/
theorem code_run (horder : Invocation.parse memory arguments = .ok order)
    (hopened : openFiles tree (.ofText order.input) (order.output.map .ofText) "utf-8".toList =
      .ok ⟨output, source, target, .utf8, emptied⟩)
    (hsource : tree.content? source = some bytes) (hs : Encoding.utf8.Decodes bytes s)
    (hfits : Encoding.utf8.Fits memory bytes (Settings.chunkSize {}).toNat) :
    (run memory tree arguments).code =
      exitCode ((formatText { indent := order.indent } (if target = source then [] else s)).mapError
        (Failure.inFile (some (Path.ofText order.input).toText))) := by
  obtain ⟨-, -, -, -, hwritable⟩ := openFiles_eq_ok_iff.1 hopened
  obtain ⟨bytes', hread, hdecodes, hfits'⟩ :
      ∃ bytes', (emptied.content? source).getD [] = bytes' ∧
        Encoding.utf8.Decodes bytes' (if target = source then [] else s) ∧
        Encoding.utf8.Fits memory bytes' (Settings.chunkSize { indent := order.indent }).toNat := by
    by_cases hself : target = source
    · rw [if_pos hself]
      exact ⟨[], read_self (hself ▸ hwritable), by decide, hfits.nil⟩
    · rw [if_neg hself]
      exact ⟨bytes, read_of_ne hwritable hself hsource, hs, hfits⟩
  have hrun : run memory tree arguments = obey memory tree order := by rw [run, horder]
  rw [hrun, code_obey, formatFile_of_opened hopened,
    formatOpened_utf8 hwritable hread hdecodes hfits']
  cases formatText { indent := order.indent } (if target = source then [] else s) <;> rfl

/-- The exit code is 0 or 1 if there is no failure but a documented one. -/
theorem exitCode_of_documented {α : Type} {r : Except Failure α}
    (h : ∀ e, r = .error e → e.Documented) (file : Option Text) :
    exitCode (r.mapError (Failure.inFile file)) = .ok 0 ∨
      exitCode (r.mapError (Failure.inFile file)) = .ok 1 := by
  cases r with
  | ok a => exact .inl rfl
  | error e =>
    right
    rcases h e rfl with hfamily | hfamily <;>
      simp [exitCode, Except.mapError, hfamily]

/-- The exit code is 0 or 1 exactly if no reference in what is read is too long. -/
theorem code_run_iff (horder : Invocation.parse memory arguments = .ok order)
    (hopened : openFiles tree (.ofText order.input) (order.output.map .ofText) "utf-8".toList =
      .ok ⟨output, source, target, .utf8, emptied⟩)
    (hsource : tree.content? source = some bytes) (hs : Encoding.utf8.Decodes bytes s)
    (hfits : Encoding.utf8.Fits memory bytes (Settings.chunkSize {}).toNat) :
    let read : Text := if target = source then [] else s
    let code := (run memory tree arguments).code
    ((code = .ok 0 ∨ code = .ok 1) ↔ read.Resolvable {}) ∧
      (¬ read.Resolvable {} → ∃ n, code = .error (.longReference n)) := by
  intro read code
  have hcode : code = _ := code_run horder hopened hsource hs hfits
  have hsize : 1 ≤ Settings.chunkSize { indent := order.indent } := show (1 : Int) ≤ 4096 by decide
  have hcount : (Settings.chunkSize { indent := order.indent }).toNat ≤ Capacity.count :=
    show 4096 ≤ Capacity.count by decide
  by_cases hread : read.Resolvable {}
  · have hanswer := exitCode_of_documented
      (fun e he => documented_of_resolvable hsize hcount hread he)
      (some (Path.ofText order.input).toText)
    rw [← hcode] at hanswer
    exact ⟨iff_of_true hanswer hread, fun hlong => absurd hread hlong⟩
  · obtain ⟨n, hn⟩ := longReference_of_not_resolvable hsize hcount hread
    rw [hn] at hcode
    have hlong : code = .error (.longReference n) := hcode
    rw [hlong]
    exact ⟨iff_of_false (by simp) hread, fun _ => ⟨n, rfl⟩⟩

end CommandLine

/-! ## Which failures come through -/

/-- An element that holds a reference with too many digits, and nothing else. -/
theorem not_resolvable_of_digits {digits : Text} (hlong : Reference.digitLimit < digits.length)
    (hdigits : ∀ d ∈ digits, Reference.isDecimalDigit d = true) {settings : Settings}
    (hresolve : settings.resolveReferences = true) :
    ¬ Text.Resolvable settings ("<a>&#".toList ++ digits ++ ";</a>".toList) := by
  have hplain (c : Char) (hc : Reference.isDecimalDigit c = false) : c ∉ digits := by
    intro hmem
    rw [hdigits c hmem] at hc
    cases hc
  have hgap : '<' ∉ '&' :: '#' :: (digits ++ [';']) := by
    simp [hplain '<' (by decide)]
  let p : Piece := ⟨[], ['a'], by decide, by decide⟩
  let q : Piece := ⟨'&' :: '#' :: (digits ++ [';']), ['/', 'a'], hgap, by decide⟩
  have hofText : Markup.ofText ("<a>&#".toList ++ digits ++ ";</a>".toList) =
      ⟨[p, q], [], .of_not_mem List.not_mem_nil⟩ := by
    rw [← Markup.ofText_text ⟨[p, q], [], .of_not_mem List.not_mem_nil⟩]
    congr 1
    simp [Markup.text, Piece.text, Piece.raw, p, q]
  have hread : Stage.textRead? {} p [q] [] = some q.gap.unbroken.strip :=
    Stage.textRead?_of_gap rfl rfl (by simp [Stage.tagNext, Piece.text, q, Text.isBlank])
      (Piece.flatMap_text_cons q [] []) hgap
  have hunbroken : q.gap.unbroken = '&' :: '#' :: digits ++ [';'] := by
    have hbreaks : '\n' ∉ q.gap ∧ '\r' ∉ q.gap := by
      simp [q, hplain '\n' (by decide), hplain '\r' (by decide)]
    apply Text.unbroken_eq_self_iff.2
    intro c hc
    simp only [Text.isBreak, Bool.or_eq_false_iff, beq_eq_false_iff_ne]
    exact ⟨fun h => hbreaks.1 (h ▸ hc), fun h => hbreaks.2 (h ▸ hc)⟩
  intro h
  refine h hresolve q.gap.unbroken.strip ?_ ⟨digits, hlong, hdigits, ?_⟩
  · rw [Text.elementTexts, hofText]
    exact Stage.mem_textsRead_of_textRead? hread
  · rw [hunbroken, Text.strip_eq, List.cons_append, List.dropWhile_cons_of_neg (by decide),
      ← List.cons_append, List.rdropWhile_concat_neg _ _ _ (by decide)]
    exact (List.prefix_append _ _).isInfix

/-- Formatting ends as documented exactly if chunks of the size asked for can be counted and no
    reference in the text of an element is too long; otherwise that is what it fails with. So it is for
    a text in memory, and for the program, which asks for small chunks and has 0 or 1 as its exit code
    where formatting ends as documented. -/
theorem formatText_failures {settings : Settings} (hsize : 1 ≤ settings.chunkSize) (s : Text) :
    ((∀ e, formatText settings s = .error e → e.Documented) ↔
      settings.chunkSize.toNat ≤ Capacity.count ∧ s.Resolvable settings) ∧
    (Capacity.count < settings.chunkSize.toNat → formatText settings s = .error (.excess .count)) ∧
    (settings.chunkSize.toNat ≤ Capacity.count → ¬ s.Resolvable settings →
      ∃ n, formatText settings s = .error (.longReference n)) ∧
    ∀ {memory : Nat} {tree emptied : FileTree} {arguments : List Text}
      {order : CommandLine.Invocation.Order} {output : Path} {source target : FileId} {bytes : Bytes},
      CommandLine.Invocation.parse memory arguments = .ok order →
      openFiles tree (.ofText order.input) (order.output.map .ofText) "utf-8".toList =
        .ok ⟨output, source, target, .utf8, emptied⟩ →
      tree.content? source = some bytes → Encoding.utf8.Decodes bytes s →
      Encoding.utf8.Fits memory bytes (Settings.chunkSize {}).toNat →
      let read : Text := if target = source then [] else s
      let code := (CommandLine.run memory tree arguments).code
      ((code = .ok 0 ∨ code = .ok 1) ↔ read.Resolvable {}) ∧
        (¬ read.Resolvable {} → ∃ n, code = .error (.longReference n)) := by
  have hlong : settings.chunkSize.toNat ≤ Capacity.count → ¬ s.Resolvable settings →
      ∃ n, formatText settings s = .error (.longReference n) :=
    longReference_of_not_resolvable hsize
  refine ⟨⟨fun hdocumented => ?_, fun h e he => documented_of_resolvable hsize h.1 h.2 he⟩,
    fun hcount => formatText_of_uncountable hcount s, hlong, CommandLine.code_run_iff⟩
  have hcount : settings.chunkSize.toNat ≤ Capacity.count := by
    by_contra hcount
    rcases hdocumented _ (formatText_of_uncountable (by omega) s) with h | h <;> cases h
  refine ⟨hcount, ?_⟩
  by_contra hs
  obtain ⟨n, hn⟩ := hlong hcount hs
  rcases hdocumented _ hn with h | h <;> cases h

/-- A reference with a digit more than can be read is not reported as a failure of the document. -/
theorem formatText_failures_overlong :
    let s : Text := "<a>&#".toList ++ List.replicate 4301 '1' ++ ";</a>".toList
    let tree : FileTree := { files := [⟨[[['a']]], s.map fun c => UInt8.ofNat c.toNat⟩] }
    let arguments : List Text := ["-i".toList, ['a'], "-o".toList, ['b']]
    (∃ n, formatText {} s = .error (.longReference n)) ∧
      (∃ n, (CommandLine.run 65536 tree arguments).code = .error (.longReference n)) ∧
      ∀ e, formatText { resolveReferences := false } s = .error e → e.Documented := by
  intro s tree arguments
  have hdigits : ∀ d ∈ List.replicate 4301 '1', d = '1' := fun d => List.eq_of_mem_replicate
  have hs : ¬ s.Resolvable {} := by
    refine not_resolvable_of_digits ?_ (fun d hd => ?_) rfl
    · rw [List.length_replicate]
      decide
    · rw [hdigits d hd]
      decide
  have horder : CommandLine.Invocation.parse 65536 arguments =
      .ok ⟨['a'], some ['b'], [' ', ' '], false⟩ := by decide
  have hopened : openFiles tree ⟨.here, [['a']]⟩ (some ⟨.here, [['b']]⟩) "utf-8".toList =
      .ok ⟨⟨.here, [['b']]⟩, 0, 1, .utf8, { tree with files := tree.files ++ [⟨[[['b']]], []⟩] }⟩ :=
    openFiles_eq_ok_iff.2 ⟨rfl, by decide,
      FileTree.openForReading_eq_ok_iff.2
        ⟨by decide, [['a']], FileTree.locate_of_walk (by decide) rfl, rfl, rfl⟩, by decide,
      FileTree.openForWriting_eq_ok_iff.2
        ⟨by decide, [['b']], FileTree.locate_of_walk (by decide) rfl, rfl, rfl⟩⟩
  have hascii : ∀ c ∈ s, c.toNat ≤ 0x7F := by
    refine List.forall_mem_append.2 ⟨List.forall_mem_append.2 ⟨by simp, fun d hd => ?_⟩, by simp⟩
    rw [hdigits d hd]
    decide
  obtain ⟨-, -, hlong, hprogram⟩ := formatText_failures (by decide : 1 ≤ Settings.chunkSize {}) s
  refine ⟨hlong (by decide) hs, ?_, ?_⟩
  · exact (hprogram horder hopened rfl (Encoding.decodes_of_ascii hascii)
      (Encoding.fits_of_le (by decide) (by decide))).2 hs
  · exact (formatText_failures (by decide) s).1.2 ⟨by decide, nofun⟩

end Reindent
