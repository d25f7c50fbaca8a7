import KeyScript.Connection.Server
import KeyScript.Editor.Frame
import KeyScript.Program

/-! The program in the world: arguments, files and standard streams. It opens no
network connection of its own. -/
namespace KeyScript.Main

open Program

def fileBytes? (path : String) : IO (Option (List UInt8)) := do
  try
    let bytes ← IO.FS.readBinFile path
    return some bytes.toList
  catch _ => return none

def withFile (disk : Disk) (path : String) : IO Disk := do
  match ← fileBytes? path with
  | some bytes => return disk.place path bytes
  | none => return disk

def withDirectory (disk : Disk) (directory : String) : IO Disk := do
  try
    let entries ← (← IO.FS.realPath directory).readDir
    entries.foldlM (fun disk entry => withFile disk (Path.join directory entry.fileName))
      (disk.placeDirectory directory)
  catch _ => return disk

def refusal? : IO.Error → Option IoFault
  | .permissionDenied _ code details =>
    some ⟨.permissionDenied, details ++ " (os error " ++ toString code ++ ")"⟩
  | _ => none

/-- The file is made if it is not there. One that is protected is known as such in the tree. -/
def withLogFile (disk : Disk) (path : String) : IO Disk := do
  try
    IO.FS.withFile path .append fun _ => pure ()
    return disk.place path []
  catch error =>
    match refusal? error with
    | some fault => return disk.refuse path fault
    | none => return disk

def gather (home : Option String) (args : List String) : IO Disk := do
  match CommandLine.parse args with
  | .error _ => return .empty
  | .ok options =>
    let disk ← withFile .empty (options.configPath home)
    match CommandLine.start home disk options with
    | .error _ => return disk
    | .ok start =>
      let disk ← match start.settings.documentation.directory with
        | some directory => withDirectory disk directory
        | none => pure disk
      match start.settings.logging.filePath with
      | some path => withLogFile disk path
      | none => return disk

def surroundings (args : List String) : IO (Surroundings Connection.Server) := do
  let home ← IO.getEnv "HOME"
  return {
    home
    directives := ← IO.getEnv "RUST_LOG"
    disk := ← gather home args
    source := .unreachable
    peer := Connection.Server.peer
    server := ⟨.unreachable, .serving, none, none, [], []⟩ }

/-- Writes the lines of the events after the first `shown`; gives how many there are. -/
def writeLog (serving : Serving π) (shown : Nat) : IO Nat := do
  let events := serving.log
  let lines := serving.logger.lines (events.drop shown)
  unless lines.isEmpty do
    (← IO.getStderr).putStr lines
    if let some path := serving.logger.file then
      IO.FS.withFile path .append fun file => file.putStr lines
  return events.length

/-- The length in a header, or nothing at the end of the input. -/
partial def readHeader (input : IO.FS.Stream) (length : Option Nat) : IO (Option (Option Nat)) := do
  let line ← input.getLine
  if line.isEmpty then return none
  else if Editor.Frame.closes line then return some length
  else readHeader input (Editor.Frame.length? line <|> length)

partial def readBytes (input : IO.FS.Stream) (bytes : ByteArray) (count : Nat) : IO ByteArray := do
  if bytes.size ≥ count then return bytes
  let more ← input.read (count - bytes.size).toUSize
  if more.isEmpty then return bytes else readBytes input (bytes ++ more) count

/-- The next text of the editor. A header without a length is followed by an empty text. -/
def readText (input : IO.FS.Stream) : IO (Option String) := do
  match ← readHeader input none with
  | none => return none
  | some length =>
    let bytes ← readBytes input .empty (length.getD 0)
    return some (Text.ofUtf8Lossy bytes.toList)

partial def converse (input output : IO.FS.Stream) (serving : Serving π) (shown : Nat) :
    IO (Serving π × Nat) := do
  match ← readText input with
  | none => return (serving, shown)
  | some text =>
    let isOver := ends serving.server text
    let (reply, serving) := serving.receive text
    for message in reply.messages do
      output.putStr (Editor.Frame.text message)
    output.flush
    let shown ← writeLog serving shown
    if isOver then return (serving, shown) else converse input output serving shown

/-- Makes the directories of a tree and writes its log lines, once a run has ended. -/
def finish (before : Disk) (run : Run π) : IO UInt32 := do
  for names in run.disk.directories do
    unless before.directories.contains names do
      try IO.FS.createDirAll (Path.text names) catch _ => pure ()
  for (names, bytes) in run.disk.files do
    unless before.file? names == some bytes do
      IO.FS.withFile (Path.text names) .append fun file => file.write ⟨bytes.toArray⟩
  (← IO.getStdout).putStr run.output
  (← IO.getStderr).putStr run.errors
  return run.exit.toUInt32

end KeyScript.Main

open KeyScript in
def main (args : List String) : IO UInt32 := do
  let around ← Main.surroundings args
  match Program.launch around args with
  | .error run => Main.finish around.disk run
  | .ok serving =>
    (← IO.getStderr).putStr serving.warning
    let shown ← Main.writeLog serving 0
    let (serving, shown) ← Main.converse (← IO.getStdin) (← IO.getStdout) serving shown
    discard (Main.writeLog serving.stop shown)
    return 0
