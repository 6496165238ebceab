import RegexInference.CommandLine

/-!
# The program
-/

namespace RegexInference

/-- Reads a file, with the operating system's message when that fails. -/
def readBytes (path : String) : IO (Except String ByteArray) := do
  try
    return .ok (← IO.FS.readBinFile path)
  catch
    | .noFileOrDirectory .. => return .error "No such file or directory (os error 2)"
    | .inappropriateType .. => return .error "Is a directory (os error 21)"
    | e => return .error (toString e)

def drawEntropy : IO UInt64 := do
  let bytes ← IO.getRandomBytes 8
  return bytes.foldl (fun n b => n <<< 8 ||| b.toUInt64) 0

end RegexInference

open RegexInference in
/-- Runs the program on the files that its arguments name. -/
def main (arguments : List String) : IO UInt32 := do
  let contents ← (arguments.take 2).mapM fun path => return (path, ← readBytes path)
  let files : CommandLine.Files := fun path =>
    (contents.lookup path).getD (.error "No such file or directory (os error 2)")
  let entropy ← drawEntropy
  let program := (← IO.appPath).fileName.getD "search"
  let started ← IO.monoNanosNow
  let outcome := CommandLine.run program files entropy arguments
  IO.eprint outcome.errors
  let ended ← IO.monoNanosNow
  IO.print (outcome.output (Float.ofNat (ended - started) / 1000000000.0))
  return outcome.exitCode.toUInt32
