import StreamMux.Simulation.Command

/-!
# Command line
-/

namespace StreamMux

/-- What the file holds, if it can be read. -/
def fileContents (path : String) : IO (Option ByteArray) := do
  try
    return some (← IO.FS.readBinFile path)
  catch _ =>
    return none

end StreamMux

def main (args : List String) : IO UInt32 := do
  let contents ←
    match args.head? with
    | some path => StreamMux.fileContents path
    | none => pure none
  match StreamMux.Simulation.command args contents with
  | .ok report =>
    (← IO.getStdout).putStr report.out
    (← IO.getStderr).putStr report.err
    return report.exitCode
  | .error fault =>
    (← IO.getStderr).putStr (fault.message ++ "\n")
    return 134
