import SingleFile.CommandLine

/-!
# The program

The command line run on the files of the disk. No grammars are installed
with the program itself.
-/

namespace SingleFile

/-- What the disk holds at a path. -/
def lookOnDisk (path : Text) : IO Stored := do
  try
    return .file (← IO.FS.readBinFile path.toStr)
  catch
    | .noFileOrDirectory .. => return .absent
    | .inappropriateType .. => return .directory
    | _ => return .locked

end SingleFile

open SingleFile in
/-- The program. -/
def main (arguments : List String) : IO UInt32 := do
  let run ← CommandLine.run Grammars.absent lookOnDisk (arguments.map String.toList)
  match run.ending with
  | .usage problem => IO.eprintln problem.message
  | .help => IO.println "Usage: [-c FILE] [-l LEVEL] tokens|tree [--json] PATH"
  | .printed _ output => IO.print output
  | .undecodable => IO.eprintln "The settings file is not UTF-8."
  | .failed failure => IO.eprintln failure.message
  return UInt32.ofNat run.ending.code
