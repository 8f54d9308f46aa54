import CalcScript.Command

/-!
# The program of the command

Reads what the command is asked to run, and writes what the command leaves behind.
-/

set_option autoImplicit false

namespace CalcScript.Command

/-- Why the system could not read a file. An error of opening a file names the path. A directory is
opened like a file and fails when it is read, and then the error names no path. -/
def ReadFault.ofSystem : IO.Error → ReadFault
  | .noFileOrDirectory .. => missing
  | .inappropriateType none .. => directory
  | .inappropriateType (some _) .. => notDirectory
  | .invalidArgument (some _) .. => tooLong
  | error => other (toString error)

/-- What a reading action yields, or why it yields nothing. -/
def reading (action : IO ByteArray) : IO (Except ReadFault ByteArray) := do
  try
    return .ok (← action)
  catch error => return .error (ReadFault.ofSystem error)

def perform : Request → IO Outcome
  | .version => return version
  | .misuse argument => return misuse argument
  | .file path options => return runFile path options (← reading (IO.FS.readBinFile path))
  | .piped options => return runPiped options (← reading (do (← IO.getStdin).readBinToEnd))

end CalcScript.Command

open CalcScript Command in
def main (arguments : List String) : IO UInt32 := do
  let outcome ← perform (Request.ofArguments arguments)
  (← IO.getStdout).putStr outcome.output
  (← IO.getStderr).putStr outcome.errors
  return outcome.code.toUInt32
