import ClassScaffold.Command.Run
import ClassScaffold.Skeleton.Templates

namespace ClassScaffold

/-- The code of the system for a path through a file, of either sign. -/
def isNotDirectoryCode (code : UInt32) : Bool :=
  code == 20 || code == 0 - 20

/-- The code of the system for a name or a path that is too long, of either sign. -/
def isTooLongCode (code : UInt32) : Bool :=
  code == 36 || code == 0 - 36

def FileFault.ofError : IO.Error → FileFault
  | .noFileOrDirectory .. => .notFound
  | .inappropriateType _ code _ => if isNotDirectoryCode code then .notDirectory else .isDirectory
  | .invalidArgument (some file) code details =>
    if isTooLongCode code then .nameTooLong
    else .other (toString (IO.Error.invalidArgument (some file) code details))
  | e => .other (toString e)

def textOfBytes (bytes : ByteArray) : Except FileFault String :=
  match String.fromUTF8? bytes with
  | some text => .ok text
  | none => .error .notText

def readFile (path : String) : IO (Except FileFault String) := do
  match pathFault? path with
  | some fault => return .error fault
  | none =>
    try
      return textOfBytes (← IO.FS.readBinFile path)
    catch e => return .error (.ofError e)

/-- Texts read so far; a path that was not read counts as missing. -/
def readerOf (known : List (String × Except FileFault String)) : TextReader :=
  fun path => (known.lookup path).getD (.error .notFound)

/-- Reads the files of a command: those that its arguments name, then those that these name. -/
def gather (stdin : Except FileFault String) (command : Command) : IO Inputs := do
  let mut known := []
  for _ in [0, 1] do
    for path in command.filesRead ⟨stdin, readerOf known⟩ do
      if (known.lookup path).isNone then
        known := (path, ← readFile path) :: known
  return ⟨stdin, readerOf known⟩

partial def readAll (stream : IO.FS.Stream) (read : ByteArray) : IO ByteArray := do
  let chunk ← stream.read 65536
  if chunk.isEmpty then return read else readAll stream (read ++ chunk)

def readInput : IO (Except FileFault String) := do
  return textOfBytes (← readAll (← IO.getStdin) .empty)

def perform (command : Command) : IO Outcome := do
  let stdin ← if command.readsStdin then readInput else pure (.ok "")
  let inputs ← gather stdin command
  match command.effect Skeleton.engine inputs with
  | .error fault => return .failed fault
  | .ok (.print text) => return .printed text
  | .ok (.write path text) =>
    try
      IO.FS.writeFile path text
      return .silent
    catch e => return .failed (.unwritableOutput path (.ofError e))

end ClassScaffold

def main (arguments : List String) : IO UInt32 := do
  let environment ← IO.getEnv "CLASSGEN_CONFIG"
  let outcome ← match ClassScaffold.Command.parse? environment arguments with
    | some command => ClassScaffold.perform command
    | none => pure .misused
  IO.print outcome.stdout
  if let some report := outcome.report then IO.eprintln report
  return UInt32.ofNat outcome.exit
