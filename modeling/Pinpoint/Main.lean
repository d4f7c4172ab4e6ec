import Pinpoint.Command.Run

/-!
# The program

Reads the part of the file system that a command line can ask about into a file
tree, runs the command line on it, and writes the outcome. Nothing is decided
here.
-/

namespace Pinpoint.Main

/-- The node at a path of the file system, if it can be read. -/
def node? (path : Text) : IO (Option Node) := do
  let place := (← IO.currentDir) / String.ofList path
  if ← place.isDir then return some .directory
  try return some (.file (← IO.FS.readBinFile place).toList)
  catch _ => return none

/-- A path cut short after each of its parts. -/
def stages (path : Text) : List Text :=
  let fields := path.fields '/'
  (List.range fields.length).map fun i => ['/'].intercalate (fields.take (i + 1))

/-- The tree with what stands at a path and on the way to it. -/
def explore (directory : Path) (t : FileTree) (path : Text) : IO FileTree :=
  (stages path).foldlM (fun t stage => do
    match t.resolve directory stage, ← node? stage with
    | .inside p, some node => return t.place p node
    | _, _ => return t) t

/-- The paths that a command line may read: its own words, and a configuration around the
working directory. -/
def pathsToExplore (t : FileTree) (directory : Path) (words : List Text) : List Text :=
  words ++ (FileTree.upward directory).map fun d => t.written (d ++ [Config.fileName])

end Pinpoint.Main

open Pinpoint in
def main (args : List String) : IO UInt32 := do
  let directory := FileTree.parts (← IO.currentDir).toString.toList
  let words := args.map String.toList
  let empty : FileTree := { top := [], entries := [(directory, .directory)] }
  let tree ← (Main.pathsToExplore empty directory words).foldlM (Main.explore directory) empty
  let stdout ← IO.getStdout
  let outcome := Command.run tree directory (← stdout.isTty) words
  stdout.putStr (String.ofList outcome.stdout)
  let stderr ← IO.getStderr
  stderr.putStr (String.ofList outcome.stderr)
  match outcome.escaped with
  | some e => stderr.putStrLn (String.ofList e.message)
  | none => pure ()
  return outcome.exitCode.toUInt32
