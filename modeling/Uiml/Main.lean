import Uiml.Studio.Inputs
import Uiml.Studio.Run

/-!
# The program

The command line: it brings together the files of a run, wherever they are, and writes what the run
leaves behind.
-/

namespace Uiml.Studio

/-- The file that a path leads to, if it can be read. -/
def readFile (path : String) : IO (List (String × List UInt8)) := do
  try
    return [(path, (← IO.FS.readBinFile path).toList)]
  catch _ => return []

/-- The files that paths lead to from the current directory. -/
def readFiles (paths : List String) : IO Files := do
  let start := Path.components (← IO.currentDir).toString
  return .ofList (← paths.mapM readFile).flatten start

/-- The files that a command line makes the program read. -/
def gather (args : List String) : IO Files := do
  match Options.read args with
  | .error _ => return {}
  | .ok options =>
    let named ← readFiles (namedPaths options)
    readFiles (namedPaths options ++ picturePaths options named)

/-- The variable of the environment that may hold a filter of the log lines. -/
def filterVariable : String := "UIML_LOG"

end Uiml.Studio

/-- Runs the program. -/
def main (args : List String) : IO UInt32 := do
  let environment ← IO.getEnv Uiml.Studio.filterVariable
  let report := Uiml.Studio.launch args environment (← Uiml.Studio.gather args)
  IO.print report.output
  IO.eprint report.errors
  return report.code.toUInt32
