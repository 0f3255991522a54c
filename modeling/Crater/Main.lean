import Crater.Demo.Run
/-!
# The command

Runs the demo with the arguments of the command line, the files they name and the log filter of the
environment, and prints what it reports.
-/

namespace Crater.Demo

/-- Why a file could not be read, as the system says it. -/
def systemReason : IO.Error → String
  | .noFileOrDirectory .. => "No such file or directory (os error 2)"
  | .permissionDenied .. => "Permission denied (os error 13)"
  | .inappropriateType .. => "Is a directory (os error 21)"
  | other => toString other

def readPath (path : String) : IO (String × Except String String) := do
  try
    return (path, .ok (← IO.FS.readFile path))
  catch fault =>
    return (path, .error (systemReason fault))

def namedPaths (arguments : List String) : List String :=
  match Options.read arguments with
  | .ok options => options.config.toList ++ options.blocks.toList
  | .error _ => []

end Crater.Demo

open Crater in
def main (arguments : List String) : IO UInt32 := do
  let filter := Demo.filterOf (← IO.getEnv "RUST_LOG")
  let contents ← (Demo.namedPaths arguments).mapM Demo.readPath
  let files : Demo.Files := fun path =>
    match contents.lookup path with
    | some content => content
    | none => .error (Demo.systemReason (.noFileOrDirectory path 2 ""))
  let printout := Demo.run arguments files
  for line in printout.lines filter do
    IO.println line
  for complaint in printout.complaints do
    IO.eprintln complaint
  return printout.exitCode.toUInt32
