-- SUMMARY: The program: runs the command line on the files that it names.
import Reindent.CommandLine

/-! # The program

Of the file tree only what the input and output paths lead through is looked at. The memory of the
machine is not known beforehand: no request is refused that can be counted. -/

namespace Reindent.Program

/-- Text as a path of the machine. -/
def place (path : Path) : String :=
  String.ofList path.toText

/-- Where the real tree has what a path leads to, if there is anything. -/
def realNames? (path : Path) : IO (Option Names) := do
  try
    return some (Path.ofText (← IO.FS.realPath (place path)).toString.toList).parts
  catch _ =>
    return none

/-- What stands at a place of the real file tree is added to `tree`. -/
def lookAt (tree : FileTree) (names : Names) : IO FileTree := do
  try
    let bytes := (← IO.FS.readBinFile (place ⟨.slash, names⟩)).toList
    return { tree with files := ⟨[names], bytes⟩ :: tree.files }
  catch
    | .noFileOrDirectory .. => return tree
    | _ => return { tree with directories := names :: tree.directories }

/-- Looks at everything that a path leads through, as far as there are directories. -/
def lookAlong (tree : FileTree) (path : Path) : IO FileTree := do
  let mut tree := tree
  let mut names := FileTree.start tree.home path.root
  for n in List.range path.parts.length do
    if !tree.isDirectory names then
      break
    names := FileTree.enter names ((path.parts[n]?).getD [])
    let real := (← realNames? { path with parts := path.parts.take (n + 1) }).getD names
    if real != names then
      tree := { tree with links := (names, ⟨.slash, real⟩) :: tree.links }
      names := real
    if (tree.fileAt? names).isNone then
      tree ← lookAt tree names
  return tree

def memory : Nat := Capacity.count

/-- Empties the output in the real file tree, if both files of a call can be opened. If the output is
    the input by another name, the input is seen to be empty from then on. -/
def emptyOutput (tree : FileTree) (arguments : List Text) : IO Unit := do
  match CommandLine.Invocation.parse memory arguments with
  | .error _ => return
  | .ok order =>
    match openFiles tree (.ofText order.input) (order.output.map .ofText) "utf-8".toList with
    | .error _ => return
    | .ok opened => IO.FS.writeFile (place opened.output) ""

/-- The paths that a command line names. -/
def pathsOf (arguments : List Text) : List Path :=
  match CommandLine.Invocation.parse memory arguments with
  | .error _ => []
  | .ok order =>
    let input := Path.ofText order.input
    match outputPath input (order.output.map .ofText) with
    | .ok output => [input, output]
    | .error _ => [input]

/-- What is at the paths that a command line names. -/
def look (arguments : List Text) : IO FileTree := do
  let home := (Path.ofText (← IO.currentDir).toString.toList).parts
  (pathsOf arguments).foldlM lookAlong { home }

def run (args : List String) : IO UInt32 := do
  let arguments := args.map String.toList
  emptyOutput (← look arguments) arguments
  let before ← look arguments
  let began ← IO.monoMsNow
  let outcome := CommandLine.run memory before arguments
  for file in outcome.tree.files do
    if !before.files.contains file then
      for names in file.places do
        IO.FS.writeBinFile (place ⟨.slash, names⟩) file.bytes.toByteArray
  let elapsed := (← IO.monoMsNow) - began
  IO.print (outcome.stdout elapsed)
  IO.eprint (outcome.stderr elapsed)
  match outcome.code with
  | .ok code => return code.toUInt32
  | .error e => throw (IO.userError (String.ofList e.message))

end Reindent.Program

def main (args : List String) : IO UInt32 :=
  Reindent.Program.run args
