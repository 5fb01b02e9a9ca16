import Converge.CommandLine.Session

/-!
# The program

The outer layer of the command line: it looks up the files and the variables that a session
needs, runs the session, and prints how it ends. The program reaches no network, so a
command that would talk to a stack reports that its request could not be sent.
-/

namespace Converge.CommandLine

/-- What is found at a path. -/
def contentAt (path : String) : IO Content := do
  try
    return .text (← IO.FS.readFile path)
  catch error =>
    match error with
    | .noFileOrDirectory .. => return .nothing
    | _ => return .unreadable

/-- The variables among the given ones that are set. -/
def setVariables (names : List String) : IO (List (String × String)) := do
  let found ← names.mapM fun name => do
    return (← IO.getEnv name).map fun value => (name, value)
  return found.filterMap id

/-- Run a session in the surroundings of the process. -/
def runSession (arguments : List String) : IO UInt32 := do
  let fixed ← setVariables fixedVariables
  let paths := pathsOf (fixed.lookup Switch.configVariable) arguments
  let files ← paths.mapM fun path => return (path, ← contentAt path)
  let secret ← setVariables ((World.ofTables fixed files).secretVariables paths)
  let whole ← IO.rand 0 (1 <<< 128 - 1)
  let place ← IO.rand 0 (1 <<< 64 - 1)
  let ending := session (.ofTables (fixed ++ secret) files) .closed ()
    (fun serial => Http.traceText (whole + serial) (place + serial)) arguments
  IO.print ending.answer
  IO.eprint ending.notice
  return UInt32.ofNat ending.code

end Converge.CommandLine

def main (arguments : List String) : IO UInt32 := Converge.CommandLine.runSession arguments
