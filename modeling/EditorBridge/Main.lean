import EditorBridge.CommandLine.Run
/-!
The program: reads real files and prints what `CommandLine.run` results in.
-/

set_option autoImplicit false

open EditorBridge.CommandLine

def readRealFile (path : String) : IO (Except FileError String) := do
  try
    return .ok (← IO.FS.readFile path)
  catch
    | .noFileOrDirectory .. => return .error .notFound
    | .inappropriateType .. => return .error .isDirectory
    | error => return .error (.other (toString error))

def main (arguments : List String) : IO UInt32 := do
  let outcome ← run readRealFile (← IO.getEnv "RUST_LOG") arguments
  IO.print outcome.output
  IO.eprint outcome.errors
  return outcome.code.toUInt32
