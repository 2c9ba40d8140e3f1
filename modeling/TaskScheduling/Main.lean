import TaskScheduling.CommandLine.Program

/-!
# The command line program

Reads the environment and the arguments, and runs the program on the files of the system.
-/

open TaskScheduling

/-- What the system says about a failed access. -/
private def faultOf : IO.Error → FileFault
  | .noFileOrDirectory .. => .notFound
  | .alreadyExists .. => .occupied
  | .inappropriateType .. => .isADirectory
  | .invalidArgument .. => .unnameable
  | _ => .refused

private def attempt {α : Type} (access : IO α) : IO (Except FileFault α) :=
  try return .ok (← access) catch e => return .error (faultOf e)

instance : FileStore IO where
  readText p := do
    match ← attempt (IO.FS.readBinFile p.text) with
    | .ok bytes => return (String.fromUTF8? bytes).elim (.error .notText) .ok
    | .error fault => return .error fault
  isPresent p := return (← attempt (IO.FS.realPath p.text)).toBool
  createDirectories p := attempt (IO.FS.createDirAll p.text)
  writeText p text := attempt (IO.FS.writeFile p.text text)

/-- The first clock reading decides on random workloads. -/
def main (arguments : List String) : IO UInt32 := do
  let environment : Environment :=
    { configHome := ← IO.getEnv "XDG_CONFIG_HOME"
      home := ← IO.getEnv "HOME"
      applicationData := ← IO.getEnv "APPDATA" }
  let report ← CommandLine.runProgram environment (← IO.monoNanosNow) arguments
  IO.print report.output
  IO.eprint report.errors
  return report.code.toUInt32
