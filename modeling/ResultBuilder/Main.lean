import ResultBuilder.CommandLine.Run

/-!
# The program

The command line with the files of the operating system.
-/

namespace ResultBuilder.CommandLine

/-- What a path leads to. -/
def kindOnDisk (path : String) : IO (Option FileKind) := do
  if path.toList.contains '\x00' then return none
  try
    let real ← IO.FS.realPath path
    if ← real.isDir then return some .directory
    return if ← real.pathExists then some .file else none
  catch _ => return none

/-- Reads a file. -/
def readFromDisk (path : String) : IO (Except FileError String) := do
  if path.toList.contains '\x00' then return .error .zeroInName
  if (← kindOnDisk path) == some .directory then return .error .isDirectory
  try
    return .ok (← IO.FS.readFile path)
  catch
    | .noFileOrDirectory _ _ _ => return .error .notFound
    | .inappropriateType _ _ _ => return .error .notDirectory
    | .userError _ => return .error .notText
    | .invalidArgument _ code details =>
        return .error (if code == 36 then .nameTooLong else .other details)
    | error => return .error (.other (toString error))

/-- The paths of everything below a directory, each after a given start. -/
partial def belowOnDisk (start path : String) : IO (List String) := do
  if (← kindOnDisk path) != some .directory then return []
  let entries ← (← IO.FS.realPath path).readDir
  let paths ← entries.toList.mapM fun entry => do
    let here := start ++ entry.fileName
    return here :: (← belowOnDisk (here ++ "/") (Path.join path entry.fileName))
  return paths.flatten

/-- The access to the files of the operating system. -/
def disk : FileAccess IO where
  read := readFromDisk
  kind? := kindOnDisk
  below := belowOnDisk ""

/-- Prints what came of a command and gives the exit code. -/
def Outcome.print (outcome : Outcome) : IO UInt32 := do
  IO.print outcome.output
  outcome.errors.forM fun line => IO.eprintln line
  return outcome.exitCode.toUInt32

end ResultBuilder.CommandLine

open ResultBuilder.CommandLine in
/-- Carries out the command in the arguments. -/
def main (arguments : List String) : IO UInt32 := do
  match Invocation.parse arguments with
  | .error error =>
      IO.eprintln error.text
      return error.exitCode.toUInt32
  | .ok invocation => (← run disk invocation).print
