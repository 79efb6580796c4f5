import Z80Monitor.CommandLine.Command

/-!
# The program

Carries out the command on the files of the system.
-/

namespace Z80Monitor

open CommandLine

/-- The code of the system for a directory that is read as a file. -/
def directoryCode : UInt32 := 21

/-- What a path leads to. -/
def contentsAt (path : String) : IO PathContents := do
  try
    return .file (← IO.FS.readBinFile path).toList
  catch error =>
    match error with
    | .inappropriateType _ code _ =>
      return if code = directoryCode then .directory else .missing
    | _ => return .missing

end Z80Monitor

open Z80Monitor.CommandLine in
/-- Carry out the command. -/
def main (arguments : List String) : IO UInt32 := do
  let entries ← (pathsOf arguments).mapM fun path =>
    return (path, ← Z80Monitor.contentsAt (String.ofList path))
  let outcome := run arguments fun path => (entries.lookup path).getD .missing
  (← IO.getStdout).putStr (Outcome.textOf outcome.output)
  (← IO.getStderr).putStr (Outcome.textOf outcome.messages)
  return UInt32.ofNat outcome.exitCode
