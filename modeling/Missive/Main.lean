import Missive.Command.Run
/-!
# The program

Connects the command to the file system, the standard streams and the environment.
-/

namespace Missive.Command

/-- Whether a number that the system reports is this error code; some calls report it negated. -/
def isCode (reported code : UInt32) : Bool :=
  reported == code || reported == 0 - code

/-- The fault that an error of the system stands for. -/
def faultOf : IO.Error → FileFault
  | .noFileOrDirectory _ _ _ => .notFound
  | .inappropriateType _ reported details =>
    if isCode reported 21 then .isDirectory
    else if isCode reported 20 then .notDirectory
    else .other details
  | .invalidArgument _ reported details =>
    if isCode reported 36 then .nameTooLong else .other details
  | e => .other (toString e)

/-- Runs an action on files. -/
def attempt {α : Type} (action : IO α) : IO (Except FileFault α) := do
  try
    return .ok (← action)
  catch e => return .error (faultOf e)

/-- The name of a file, which must be a text here. -/
def nameOf (path : Path) : IO String :=
  match Text.Utf8.decode path.bytes with
  | .ok name => return name
  | .error fault => throw (.userError fault.message)

/-- The file system of the machine. -/
def systemFiles : FileAccess IO where
  read path := attempt do return (← IO.FS.readBinFile (← nameOf path)).data.toList
  write path bytes := attempt do IO.FS.writeBinFile (← nameOf path) ⟨bytes.toArray⟩

/-- Runs the program on the machine. -/
def runOnSystem (args : List String) : IO UInt32 := do
  let report ← run systemFiles args (← IO.getEnv "RUST_LOG")
  (← IO.getStdout).putStr report.output
  (← IO.getStderr).putStr report.errors
  return report.status.toUInt32

end Missive.Command

/-- The entry point. -/
def main (args : List String) : IO UInt32 :=
  Missive.Command.runOnSystem args
