import TaggedRpc.CommandLine.Program

/-!
# The command line

The outermost layer: it reads the file that the command names, carries the command
out, and prints the report. There are no sockets here, so no endpoint can be
reached.
-/

open TaggedRpc CommandLine

/-- The reason for a failure to read a file, in the words of the system. -/
def fileReason : IO.Error → String
  | .noFileOrDirectory _ _ _ => "No such file or directory (os error 2)"
  | .permissionDenied _ _ _ => "Permission denied (os error 13)"
  | .inappropriateType _ _ _ => "Is a directory (os error 21)"
  | e => toString e

/-- The bytes of a file. -/
def readFile (name : String) : IO (Except String Bytes) := do
  try
    pure (.ok (← IO.FS.readBinFile name).data.toList)
  catch e =>
    pure (.error (fileReason e))

/-- Runs the program on the words of its command line. -/
def main (words : List String) : IO UInt32 := do
  let command := Command.ofWords words
  let content ← match command.file? with
    | some name => readFile name
    | none => pure (.ok [])
  let report := command.run (.unreachable "Network is unreachable (os error 101)") content
  (← IO.getStderr).putStr report.messages
  (← IO.getStdout).putStr report.output
  pure (UInt32.ofNat report.code)
