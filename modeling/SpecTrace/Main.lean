import SpecTrace.Command.Run

/-! The program: it loads the files that its arguments can lead to, runs, and stores what the run
has written. -/

namespace SpecTrace

/-- The place that an absolute path in its shortest form leads to. -/
def placeOfPath (path : String) : FilePath :=
  (splitText '/' path).filter fun name => name ≠ ""

/-- The directory that a path argument leads into. -/
def directoryOf (path : String) : String :=
  let around := (splitText '/' path).dropLast
  if around.isEmpty then "." else "/".intercalate around ++ "/"

/-- Loads a file, or a directory with what is below it; links may lead in circles, so the depth is
limited. -/
def loadTree (path : String) : (depth : Nat) → IO FileTree
  | 0 => pure (.directory [])
  | depth + 1 => do
    let real ← IO.FS.realPath path
    if ← real.isDir then
      let entries ← real.readDir
      let loaded ← entries.toList.filterMapM fun entry => do
        let below ← (loadTree entry.path.toString depth).toBaseIO
        pure (below.toOption.map fun tree => (entry.fileName, tree))
      pure (.directory loaded)
    else
      pure (.file (String.fromUTF8? (← IO.FS.readBinFile real)))

/-- Loads a directory into a tree, at its own place. -/
def loadInto (tree : FileTree) (path : String) : IO FileTree := do
  let real ← IO.FS.realPath path
  if ← real.isDir then
    pure (tree.insert (placeOfPath real.toString) (← loadTree path 64))
  else pure tree

/-- Stores files on disk. -/
def storeFiles (files : List (FilePath × String)) : IO Unit := do
  for (place, text) in files do
    IO.FS.createDirAll place.directory.text
    IO.FS.writeFile place.text text

end SpecTrace

open SpecTrace in
/-- Runs the program. -/
def main (arguments : List String) : IO UInt32 := do
  let here := placeOfPath (← IO.currentDir).toString
  let rootVariable ← IO.getEnv "APIAUDIT_ROOT"
  let paths := arguments.filter fun argument => !isDashed argument
  let outside := paths.map directoryOf ++ rootVariable.toList ++ paths
  let mut tree := FileTree.directory []
  for path in outside ++ ["."] do
    if path.toList.contains '/' || path = "." || path = ".." then
      tree := (← (loadInto tree path).toBaseIO).toOption.getD tree
  let outcome := Outcome.ofArguments tree here rootVariable arguments
  storeFiles (tree.writtenFiles outcome.tree)
  IO.print outcome.output
  match outcome.complaint with
  | some text => IO.eprintln text
  | none => pure ()
  pure (UInt32.ofNat outcome.exitCode)
