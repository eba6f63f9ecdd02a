import Std.Time.DateTime.Timestamp
import Intake.Command.Places
import Intake.Flow.Service

/-!
# The program

Reads what the arguments lead to, answers the command, and writes the answer.
-/

namespace Intake

namespace Program

/-- The text of a file, unless it cannot be read. -/
def readFile? (path : String) : IO (Option String) := do
  try return some (← IO.FS.readFile path)
  catch _ => return none

/-- The files with what lies directly in a directory; only driver files and flow templates are
read. -/
def readDirectory (files : FileTree) (path : String) (names : List (String × Bool)) :
    IO FileTree := do
  let mut files := files.makeDirectories path
  for (name, isDirectory) in names do
    let child := FilePath.join path name
    if isDirectory then files := files.makeDirectories child
    else
      let content ← if (FileFormat.ofPath? child).isSome then readFile? child else pure none
      files := files.write child content
  return files

def readPlace (files : FileTree) (path : String) : IO FileTree := do
  let place := (← IO.currentDir) / path
  if path = "" || !(← place.pathExists) then return files
  else if ← place.isDir then
    let mut names := []
    for entry in ← place.readDir do
      names := (entry.fileName, ← entry.path.isDir) :: names
    readDirectory files path names
  else return files.write path (← readFile? path)

/-- The files that a command with some arguments may look at. -/
def readPlaces (files : FileTree) (arguments : List String) : IO FileTree :=
  (Command.places files arguments).foldlM readPlace files

/-- The lines of a stream, up to its end. -/
partial def readLines (stream : IO.FS.Stream) (read : String) : IO String := do
  let line ← stream.getLine
  if line.isEmpty then return read else readLines stream (read ++ line)

/-- The text of the standard input, unless it cannot be read. -/
def readInput? : IO (Option String) := do
  try return some (← readLines (← IO.getStdin) "")
  catch _ => return none

def now : IO Timestamp := do
  let nanos := (← Std.Time.Timestamp.now).toNanosecondsSinceUnixEpoch.val
  return ⟨nanos.fdiv Timestamp.nanosPerSecond, (nanos.fmod Timestamp.nanosPerSecond).toNat⟩

/-- What a command with some arguments is run with. -/
def surroundings (arguments : List String) : IO Command.Surroundings := do
  let here := Command.emptyTree (← IO.currentDir).toString
  let files ← readPlaces (← readPlaces here arguments) arguments
  return {
    files
    input := ← if Command.readsInput arguments then readInput? else pure none
    environment := Command.environment ((← readFile? "/proc/self/environ").getD "")
    now := ← now
    freshId := FlowId.ofNumber (← IO.rand 0 (twoTo 122 - 1)) }

/-- Makes a directory unless it is there, and says whether it is there then. -/
def makeDirectory (path : String) : IO Bool := do
  let place := (← IO.currentDir) / path
  try IO.FS.createDir place
  catch _ => return ← place.isDir
  return true

end Program

end Intake

open Intake in
def main (arguments : List String) : IO UInt32 := do
  let given ← Program.surroundings arguments
  let answer := Command.answer given arguments
  for place in Command.newDirectories given.files answer.files do
    if !(← Program.makeDirectory (Command.absolutePath place)) then break
  (← IO.getStdout).putStr answer.output
  (← IO.getStderr).putStr answer.errors
  return if answer.succeeds then 0 else 1
