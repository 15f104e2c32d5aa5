-- SUMMARY: Files, directories and symbolic links, and what can be opened among them.
import Reindent.Encoding.Utf8
import Reindent.Path

/-! # File trees

A place in the tree is known by the names that lead to it from the topmost directory. A file can stand
at several places, and symbolic links lead from one place to another, so that paths which have nothing
in common may lead to the same file. -/

namespace Reindent

/-- The names that lead to a place from the topmost directory. -/
abbrev Names := List Text

structure File where
  /-- The places that the file stands at. -/
  places : List Names
  bytes : Bytes := []
  deriving DecidableEq, Repr

/-- The number of a file, which it is known by whatever leads to it. -/
abbrev FileId := Nat

structure FileTree where
  /-- The working directory. -/
  home : Names := []
  directories : List Names := []
  files : List File := []
  /-- The places of symbolic links, and the paths that they stand for. -/
  links : List (Names × Path) := []
  deriving DecidableEq, Repr

namespace FileTree

/-! ## Contents -/

/-- The places of each file. -/
def filePlaces (tree : FileTree) : List (List Names) :=
  tree.files.map File.places

/-- The file that stands at a place. -/
def fileAt? (tree : FileTree) (names : Names) : Option FileId :=
  tree.filePlaces.findIdx? (·.contains names)

def content? (tree : FileTree) (file : FileId) : Option Bytes :=
  tree.files[file]?.map File.bytes

/-- The places of all files and links. -/
def places (tree : FileTree) : List Names :=
  tree.filePlaces.flatten ++ tree.links.map Prod.fst

/-- The listed directories, the working directory, and all that leads to these, to a file or to a
    link. -/
def isDirectory (tree : FileTree) (names : Names) : Bool :=
  names.isPrefixOf tree.home || tree.directories.any names.isPrefixOf ||
  tree.places.any fun place => names.isPrefixOf place && names.length < place.length

/-- Puts other bytes into a file. -/
def write (tree : FileTree) (file : FileId) (bytes : Bytes) : FileTree :=
  { tree with files := tree.files.modify file fun old => { old with bytes } }

/-- The file at a place, emptied, or else a new one. -/
def emptied (tree : FileTree) (names : Names) : FileId × FileTree :=
  match tree.fileAt? names with
  | some file => (file, tree.write file [])
  | none => (tree.files.length, { tree with files := tree.files ++ [{ places := [names] }] })

/-! ## Following paths -/

/-- Where a part of a path leads from a directory. -/
def enter (names : Names) (part : Text) : Names :=
  if part == ['.', '.'] then names.dropLast else names ++ [part]

/-- Fails unless a path can go on from here. -/
def expectDirectory (tree : FileTree) (names : Names) : Except OpenFault Unit :=
  if tree.isDirectory names then .ok ()
  else if (tree.fileAt? names).isSome then .error .notDirectory
  else .error .missing

/-- Names of more bytes are refused where they are looked up. -/
def longestName : Nat := 255

/-- Paths of more bytes are refused as a whole. -/
def longestPath : Nat := 4095

def expectLength (longest : Nat) (t : Text) : Except OpenFault Unit :=
  if (Utf8.encode t).length ≤ longest then .ok () else .error .tooLong

/-- How far the parts of a path lead by themselves. -/
inductive Stop where
  | arrived (names : Names)
  /-- The path comes to a symbolic link in `directory`, with the parts `rest` still to go. -/
  | atLink (directory : Names) (link : Path) (rest : List Text)
  deriving DecidableEq, Repr

/-- Goes along the parts of a path, each of which needs a directory to be looked up in. -/
def walk (tree : FileTree) (names : Names) : List Text → Except OpenFault Stop
  | [] => .ok (.arrived names)
  | part :: parts => do
    tree.expectDirectory names
    expectLength longestName part
    match tree.links.lookup (enter names part) with
    | some link => .ok (.atLink names link parts)
    | none => tree.walk (enter names part) parts

/-- Where paths of this kind start, if those that start here start from `home`. -/
def start (home : Names) : Root → Names
  | .here => home
  | .slash | .twoSlashes => []

/-- Follows the parts of a path, and at most `links` symbolic links on the way. -/
def follow (tree : FileTree) (names : Names) (parts : List Text) (links : Nat) :
    Except OpenFault Names := do
  match ← tree.walk names parts with
  | .arrived place => .ok place
  | .atLink directory link rest =>
    match links with
    | 0 => .error .tooManyLinks
    | links + 1 => tree.follow (start directory link.root) (link.parts ++ rest) links

/-- Paths that lead over more symbolic links are refused. -/
def mostLinks : Nat := 40

def locate (tree : FileTree) (path : Path) : Except OpenFault Names := do
  expectLength longestPath path.toText
  tree.follow (start tree.home path.root) path.parts mostLinks

/-! ## Opening files -/

/-- Opens what a path leads to. A path with a zero character is refused out of hand. -/
def opening {α : Type} (path : Path) (r : Except OpenFault α) : Except Failure α :=
  if path.toText.contains '\x00' then .error (.misuse "embedded null byte")
  else r.mapError fun fault => .stream (.opening path.toText fault)

/-- Opens a file that is there. -/
def openForReading (tree : FileTree) (path : Path) : Except Failure FileId :=
  opening path do
    let names ← tree.locate path
    if tree.isDirectory names then .error .isDirectory
    else
      match tree.fileAt? names with
      | some file => .ok file
      | none => .error .missing

/-- Opens a file, be it there already or not, and empties it. -/
def openForWriting (tree : FileTree) (path : Path) : Except Failure (FileId × FileTree) :=
  opening path do
    let names ← tree.locate path
    if tree.isDirectory names then .error .isDirectory else .ok (tree.emptied names)

end FileTree

end Reindent
