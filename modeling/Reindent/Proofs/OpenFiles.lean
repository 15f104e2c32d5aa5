-- SUMMARY: What opening and writing files does to a tree, and where paths lead afterwards.
import Mathlib.Data.List.Basic
import Reindent.FormatFile

/-! # Open files

A file is known by its number, so whatever leads to it, writing to it changes that file and no other:
`FileTree.files_write_of_ne`. Opening a file for writing is no exception: it empties the file that the
path leads to, or puts a new one behind all others. No path is led astray by that, so what has been
written is found again where it was written: `FileTree.openForReading_of_openForWriting`. -/

namespace Reindent

/-- A sequence succeeds if both its parts do. -/
theorem bind_eq_ok_iff {ε α β : Type} {x : Except ε α} {k : α → Except ε β} {b : β} :
    x >>= k = .ok b ↔ ∃ a, x = .ok a ∧ k a = .ok b := by
  cases x with
  | ok a =>
    constructor
    · exact fun h => ⟨a, rfl, h⟩
    · rintro ⟨_, ha, h⟩
      cases ha
      exact h
  | error e =>
    constructor
    · exact nofun
    · exact fun ⟨_, h, _⟩ => nomatch h

namespace FileTree

variable {tree opened : FileTree} {file other : FileId} {names place : Names} {parts : List Text}
  {path : Path} {bytes : Bytes}

/-! ## Contents -/

theorem files_write_of_ne (h : other ≠ file) :
    (tree.write file bytes).files[other]? = tree.files[other]? :=
  List.getElem?_modify_ne _ _ h.symm

theorem content?_write_self (h : (tree.content? file).isSome = true) :
    (tree.write file bytes).content? file = some bytes := by
  obtain ⟨old, hold⟩ := Option.isSome_iff_exists.1 h
  obtain ⟨held, hheld, -⟩ := Option.map_eq_some_iff.1 hold
  simp [content?, write, hheld]

/-- Nothing is written to a file but its bytes. -/
@[simp] theorem filePlaces_write : (tree.write file bytes).filePlaces = tree.filePlaces := by
  refine List.ext_getElem? fun n => ?_
  simp only [filePlaces, write, List.getElem?_map, List.getElem?_modify]
  cases tree.files[n]? with
  | none => rfl
  | some held => by_cases h : file = n <;> simp [h]

/-- A file at a place is one of the files of the tree. -/
theorem content?_of_fileAt? (h : tree.fileAt? place = some file) :
    (tree.content? file).isSome = true := by
  obtain ⟨hlt, -⟩ := List.findIdx?_eq_some_iff_getElem.1 h
  rw [filePlaces, List.length_map] at hlt
  simp [content?, hlt]

/-- What is emptied, or else is new, is one file. -/
theorem files_emptied (h : other ≠ (tree.emptied place).1) :
    (tree.emptied place).2.files[other]? = tree.files[other]? := by
  unfold emptied at h ⊢
  split
  · rename_i file hfile
    rw [hfile] at h
    exact files_write_of_ne h
  · rename_i hnone
    rw [hnone] at h
    rcases Nat.lt_or_gt_of_ne h with hlt | hgt
    · exact List.getElem?_append_left hlt
    · rw [List.getElem?_eq_none (Nat.le_of_lt hgt), List.getElem?_eq_none]
      rw [List.length_append]
      exact hgt

theorem content?_emptied (tree : FileTree) (place : Names) :
    (tree.emptied place).2.content? (tree.emptied place).1 = some [] := by
  unfold emptied
  split
  · rename_i hfile
    exact content?_write_self (content?_of_fileAt? hfile)
  · simp [content?]

/-- The emptied file stands at the place. -/
theorem fileAt?_emptied : (tree.emptied place).2.fileAt? place = some (tree.emptied place).1 := by
  unfold emptied
  split
  · rename_i hfile
    rwa [fileAt?, filePlaces_write]
  · rename_i hnone
    unfold fileAt? filePlaces at hnone ⊢
    rw [List.map_append, List.findIdx?_append, hnone]
    simp

/-! ## Where paths lead -/

/-- All directories and links of `tree` are still there, so all paths lead where they led. -/
structure Grows (tree opened : FileTree) : Prop where
  home : opened.home = tree.home
  links : opened.links = tree.links
  directories : ∀ {names}, tree.isDirectory names = true → opened.isDirectory names = true

theorem expectDirectory_eq_ok_iff {u : Unit} :
    tree.expectDirectory names = .ok u ↔ tree.isDirectory names = true := by
  unfold expectDirectory
  split
  · rename_i h
    exact iff_of_true rfl h
  · rename_i h
    exact iff_of_false (by split <;> exact nofun) h

theorem Grows.walk {stop : Stop} (h : Grows tree opened)
    (hwalk : tree.walk names parts = .ok stop) : opened.walk names parts = .ok stop := by
  induction parts generalizing names with
  | nil => exact hwalk
  | cons part parts ih =>
    obtain ⟨_, hdirectory, hwalk⟩ := bind_eq_ok_iff.1 hwalk
    obtain ⟨_, hlength, hwalk⟩ := bind_eq_ok_iff.1 hwalk
    refine bind_eq_ok_iff.2 ⟨(), ?_, bind_eq_ok_iff.2 ⟨(), hlength, ?_⟩⟩
    · exact expectDirectory_eq_ok_iff.2 (h.directories (expectDirectory_eq_ok_iff.1 hdirectory))
    · rw [h.links]
      split at hwalk
      · exact hwalk
      · exact ih hwalk

theorem Grows.follow {links : Nat} (h : Grows tree opened)
    (hfollow : tree.follow names parts links = .ok place) :
    opened.follow names parts links = .ok place := by
  induction links generalizing names parts with
  | zero =>
    unfold FileTree.follow at hfollow ⊢
    obtain ⟨stop, hwalk, hfollow⟩ := bind_eq_ok_iff.1 hfollow
    exact bind_eq_ok_iff.2 ⟨stop, h.walk hwalk, hfollow⟩
  | succ links ih =>
    unfold FileTree.follow at hfollow ⊢
    obtain ⟨stop, hwalk, hfollow⟩ := bind_eq_ok_iff.1 hfollow
    refine bind_eq_ok_iff.2 ⟨stop, h.walk hwalk, ?_⟩
    cases stop with
    | arrived => exact hfollow
    | atLink => exact ih hfollow

theorem Grows.locate (h : Grows tree opened) (hlocate : tree.locate path = .ok place) :
    opened.locate path = .ok place := by
  unfold FileTree.locate at hlocate ⊢
  obtain ⟨_, hlength, hfollow⟩ := bind_eq_ok_iff.1 hlocate
  rw [h.home]
  exact bind_eq_ok_iff.2 ⟨(), hlength, h.follow hfollow⟩

/-- A path that comes to no link leads where its parts do. -/
theorem locate_of_walk (hlength : expectLength longestPath path.toText = .ok ())
    (hwalk : tree.walk (start tree.home path.root) path.parts = .ok (.arrived place)) :
    tree.locate path = .ok place := by
  refine bind_eq_ok_iff.2 ⟨(), hlength, ?_⟩
  unfold FileTree.follow
  exact bind_eq_ok_iff.2 ⟨_, hwalk, rfl⟩

theorem isDirectory_eq_true_iff :
    tree.isDirectory names = true ↔
      names <+: tree.home ∨ (∃ directory ∈ tree.directories, names <+: directory) ∨
        ∃ place ∈ tree.places, names <+: place ∧ names.length < place.length := by
  simp [isDirectory, or_assoc]

theorem mem_places_emptied {p : Names} :
    p ∈ (tree.emptied place).2.places ↔ p ∈ tree.places ∨ p = place := by
  unfold emptied
  split
  · rename_i hfile
    obtain ⟨hlt, hplace, -⟩ := List.findIdx?_eq_some_iff_getElem.1 hfile
    have hmem : place ∈ tree.places := by
      refine List.mem_append_left _ (List.mem_flatten.2 ⟨_, List.getElem_mem hlt, ?_⟩)
      simpa using hplace
    rw [places, filePlaces_write]
    exact (or_iff_left_of_imp fun heq => heq ▸ hmem).symm
  · simp [places, filePlaces, or_assoc, @or_comm (p = place)]

/-- Writing makes a file only where one is written, and no directory but those on the way there. -/
theorem isDirectory_emptied_iff :
    (tree.emptied place).2.isDirectory names = true ↔
      tree.isDirectory names = true ∨ names <+: place ∧ names.length < place.length := by
  have hsame : (tree.emptied place).2.home = tree.home ∧
      (tree.emptied place).2.directories = tree.directories := by
    unfold emptied
    split <;> exact ⟨rfl, rfl⟩
  simp only [isDirectory_eq_true_iff, hsame, mem_places_emptied, or_and_right, exists_or,
    exists_eq_left, or_assoc]

theorem grows_emptied : Grows tree (tree.emptied place).2 where
  home := by
    unfold emptied
    split <;> rfl
  links := by
    unfold emptied
    split <;> rfl
  directories h := isDirectory_emptied_iff.2 (.inl h)

theorem isDirectory_write :
    (tree.write file bytes).isDirectory names = tree.isDirectory names := by
  unfold isDirectory places
  rw [filePlaces_write]
  rfl

theorem grows_write : Grows tree (tree.write file bytes) where
  home := rfl
  links := rfl
  directories h := isDirectory_write.trans h

/-! ## Opening -/

/-- A path that can be opened leads somewhere. -/
theorem opening_eq_ok_iff {α : Type} {r : Except OpenFault α} {a : α} :
    opening path r = .ok a ↔ path.toText.contains '\x00' = false ∧ r = .ok a := by
  unfold opening
  split
  · rename_i h
    exact iff_of_false nofun fun hplain => nomatch h.symm.trans hplain.1
  · rename_i h
    rw [and_iff_right (eq_false_of_ne_true h)]
    cases r with
    | ok a' => simp [Except.mapError]
    | error e => simp [Except.mapError]

theorem openForReading_eq_ok_iff :
    tree.openForReading path = .ok file ↔
      path.toText.contains '\x00' = false ∧
        ∃ place, tree.locate path = .ok place ∧ tree.isDirectory place = false ∧
          tree.fileAt? place = some file := by
  rw [openForReading, opening_eq_ok_iff, bind_eq_ok_iff]
  refine and_congr_right fun _ => exists_congr fun place => and_congr_right fun _ => ?_
  cases tree.isDirectory place with
  | true => simp
  | false => cases tree.fileAt? place <;> simp

theorem openForWriting_eq_ok_iff :
    tree.openForWriting path = .ok (file, opened) ↔
      path.toText.contains '\x00' = false ∧
        ∃ place, tree.locate path = .ok place ∧ tree.isDirectory place = false ∧
          tree.emptied place = (file, opened) := by
  rw [openForWriting, opening_eq_ok_iff, bind_eq_ok_iff]
  refine and_congr_right fun _ => exists_congr fun place => and_congr_right fun _ => ?_
  cases tree.isDirectory place <;> simp

/-- What is emptied is a file that is there, if one stands at the place. -/
theorem fst_emptied_iff (h : (tree.content? file).isSome = true) :
    (tree.emptied place).1 = file ↔ tree.fileAt? place = some file := by
  unfold emptied
  split
  · rename_i hfile
    rw [hfile, Option.some.injEq]
  · rename_i hnone
    rw [hnone]
    refine iff_of_false ?_ nofun
    rintro rfl
    simp [content?] at h

/-- A file that is there is opened for writing by the paths that it is opened for reading by. -/
theorem openForWriting_iff_openForReading (h : (tree.content? file).isSome = true) :
    (∃ opened, tree.openForWriting path = .ok (file, opened)) ↔
      tree.openForReading path = .ok file := by
  simp only [openForWriting_eq_ok_iff, openForReading_eq_ok_iff, ← fst_emptied_iff h]
  constructor
  · rintro ⟨opened, hplain, place, hlocate, hdirectory, hemptied⟩
    exact ⟨hplain, place, hlocate, hdirectory, congrArg Prod.fst hemptied⟩
  · rintro ⟨hplain, place, hlocate, hdirectory, rfl⟩
    exact ⟨_, hplain, place, hlocate, hdirectory, rfl⟩

section

variable (h : tree.openForWriting path = .ok (file, opened))

include h

/-- Opening a file for writing leaves all others as they are. -/
theorem files_of_openForWriting (hne : other ≠ file) : opened.files[other]? = tree.files[other]? := by
  obtain ⟨-, place, -, -, hemptied⟩ := openForWriting_eq_ok_iff.1 h
  obtain rfl : (tree.emptied place).2 = opened := congrArg Prod.snd hemptied
  obtain rfl : (tree.emptied place).1 = file := congrArg Prod.fst hemptied
  exact files_emptied hne

theorem content?_of_openForWriting : opened.content? file = some [] := by
  obtain ⟨-, place, -, -, hemptied⟩ := openForWriting_eq_ok_iff.1 h
  have hcontent := content?_emptied tree place
  rwa [hemptied] at hcontent

/-- What has been written to a path is found there. -/
theorem openForReading_of_openForWriting (bytes : Bytes) :
    (opened.write file bytes).openForReading path = .ok file := by
  obtain ⟨hplain, place, hlocate, hdirectory, hemptied⟩ := openForWriting_eq_ok_iff.1 h
  obtain rfl : (tree.emptied place).2 = opened := congrArg Prod.snd hemptied
  obtain rfl : (tree.emptied place).1 = file := congrArg Prod.fst hemptied
  refine openForReading_eq_ok_iff.2 ⟨hplain, place, ?_, ?_, ?_⟩
  · exact grows_write.locate (grows_emptied.locate hlocate)
  · rw [isDirectory_write, ← Bool.not_eq_true, isDirectory_emptied_iff, hdirectory]
    simp
  · rw [fileAt?, filePlaces_write]
    exact fileAt?_emptied

end

end FileTree

/-! ## Opening both files -/

section

variable {tree emptied : FileTree} {input output : Path} {output? : Option Path}
  {encodingName : Text} {source target : FileId} {encoding : Encoding}

theorem openFiles_eq_ok_iff :
    openFiles tree input output? encodingName = .ok ⟨output, source, target, encoding, emptied⟩ ↔
      outputPath input output? = .ok output ∧ encodingName.contains '\x00' = false ∧
        tree.openForReading input = .ok source ∧ encodingOf encodingName = .ok encoding ∧
        tree.openForWriting output = .ok (target, emptied) := by
  unfold openFiles
  cases hname : encodingName.contains '\x00' with
  | true => simp [bind_eq_ok_iff]
  | false => simp [bind_eq_ok_iff, -bind_pure_comp, pure, Except.pure]

/-- The path of the output, given or derived, leads to a file that is there. -/
def OutputIs (tree : FileTree) (input : Path) (output? : Option Path) (file : FileId) : Prop :=
  ∃ output, outputPath input output? = .ok output ∧ tree.openForReading output = .ok file

/-- The files come to be opened as one, if the path of the output leads to the input. -/
theorem openFiles_self_iff (hsource : tree.openForReading input = .ok source)
    (hthere : (tree.content? source).isSome = true) (hplain : encodingName.contains '\x00' = false)
    (hencoding : encodingOf encodingName = .ok encoding) :
    (∃ output emptied, openFiles tree input output? encodingName =
        .ok ⟨output, source, source, encoding, emptied⟩) ↔
      OutputIs tree input output? source := by
  simp only [openFiles_eq_ok_iff, hsource, hplain, hencoding, true_and, exists_and_left,
    FileTree.openForWriting_iff_openForReading hthere]
  rfl

/-- The path that is derived can be a symbolic link to the input. -/
example :
    let tree : FileTree :=
      { files := [⟨[[['a']]], [60]⟩], links := [(["a_formatted".toList], ⟨.here, [['a']]⟩)] }
    openFiles tree ⟨.here, [['a']]⟩ none "utf-8".toList =
      .ok ⟨⟨.here, ["a_formatted".toList]⟩, 0, 0, .utf8, { tree with files := [⟨[[['a']]], []⟩] }⟩ := by
  decide +kernel

end

end Reindent
