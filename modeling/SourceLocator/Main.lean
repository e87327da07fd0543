import SourceLocator.Command.Program
import SourceLocator.FileTree.Listing

/-!
# Command line

Reads the listing of a file tree from standard input and runs the program on it: the output
goes to standard output, records and mistakes go to standard error.
-/

namespace SourceLocator

/-- Reads a stream to its end. -/
partial def readAll (input : IO.FS.Stream) (before : String) : IO String := do
  let line ← input.getLine
  if line.isEmpty then return before else readAll input (before ++ line)

/-- Shows what a run did, and gives its exit status. -/
def writeRun (r : Command.Run) : IO UInt32 := do
  r.output.forM IO.println
  r.records.forM fun record => IO.eprintln record.message
  r.ending.notice?.forM IO.eprintln
  return r.ending.code.toUInt32

end SourceLocator

open SourceLocator in
/-- Runs the program on the tree whose listing is on standard input. -/
def main (words : List String) : IO UInt32 := do
  match FileTree.ofListing (← readAll (← IO.getStdin) "") with
  | .error line =>
    IO.eprintln ("Cannot use the line " ++ line)
    return 2
  | .ok tree => writeRun (Command.run tree (← IO.getEnv levelVariable) words)
