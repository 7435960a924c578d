import StatementLine.CommandLine.Run
import StatementLine.Host.Machine

/-! The program: reads the inputs that the arguments name, splits their lines and prints what
comes of it. Commands are carried out by the built-in shell, on files of its own. -/

namespace StatementLine.CommandLine

open Host (Files)

def readFailure : IO.Error → ReadFailure
  | .noFileOrDirectory _ _ _ => .file .notFound
  | .permissionDenied _ _ _ => .file .permissionDenied
  | .inappropriateType _ 20 _ => .file .notDirectory
  | .inappropriateType _ _ _ => .file .isDirectory
  | error => .other (toString error)

def readAll (stream : IO.FS.Stream) : IO ByteArray := do
  let mut bytes := ByteArray.empty
  repeat
    let more ← stream.read 65536
    if more.isEmpty then break
    bytes := bytes ++ more
  return bytes

def readInput (input : Input) : IO (Except ReadFailure ByteArray) := do
  try
    match input with
    | .standardInput => return .ok (← readAll (← IO.getStdin))
    | .file path => return .ok (← IO.FS.readBinFile path)
  catch error => return .error (readFailure error)

def having (content : Except ReadFailure ByteArray) : Surroundings Files where
  read _ files := (content, files)
  run := Host.runner

/-- Splits inputs in turn, and tells whether all went well. An input is read after the commands of those
in front of it. -/
def printInputs (resolver : Resolver Files) : List Input → Files → IO Bool
  | [], _ => return true
  | input :: rest, files => do
      let (report, files) := splitInput (having (← readInput input)) resolver input files
      IO.print report.output
      IO.eprint report.errors
      let others ← printInputs resolver rest files
      return report.problems.isEmpty && others

end StatementLine.CommandLine

open StatementLine in
open CommandLine in
def main (arguments : List String) : IO UInt32 := do
  match Options.parse arguments with
  | .error error =>
      IO.eprint error.text
      return 2
  | .ok options =>
      let wentWell ← printInputs (options.resolver Host.runner) options.inputs Host.Machine.files
      return if wentWell then 0 else 1
