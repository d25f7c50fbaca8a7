import KeyScript.Fault.Io
import KeyScript.Path
import KeyScript.Text.Utf8

/-! A file tree in memory, and the ways in which its operations fail. Every step of a
path is taken in turn: it must lead from a directory to something that is there. -/
namespace KeyScript

structure Disk where
  /-- Files by the names that lead to them. -/
  files : List (List String × List UInt8)
  /-- Directories other than the working directory, the root and those outside. -/
  directories : List (List String)
  /-- Files that cannot be written, whether or not they are there, and why not. -/
  refusals : List (List String × IoFault)

namespace Disk

def empty : Disk := ⟨[], [], []⟩

def missing : IoFault := ⟨.notFound, "No such file or directory (os error 2)"⟩
def throughFile : IoFault := ⟨.notADirectory, "Not a directory (os error 20)"⟩
def isDirectoryFault : IoFault := ⟨.isADirectory, "Is a directory (os error 21)"⟩
def existsFault : IoFault := ⟨.alreadyExists, "File exists (os error 17)"⟩
def nameTooLong : IoFault := ⟨.invalidFilename, "File name too long (os error 36)"⟩
def notText : IoFault := ⟨.invalidData, "stream did not contain valid UTF-8"⟩
def zeroInName : IoFault := ⟨.invalidInput, "file name contained an unexpected NUL byte"⟩

/-- The longest name, and the longest path, in bytes. -/
def nameLimit : Nat := 255
def pathLimit : Nat := 4095

def file? (disk : Disk) (names : List String) : Option (List UInt8) :=
  (disk.files.find? (·.1 == names)).map (·.2)

def refusal? (disk : Disk) (names : List String) : Option IoFault :=
  (disk.refusals.find? (·.1 == names)).map (·.2)

def isDirectory (disk : Disk) (names : List String) : Bool :=
  names == [Path.root] || names.all (· == Path.above) || disk.directories.contains names

inductive Place where
  | directory (names : List String)
  | file (names : List String)
  /-- Nothing, inside a directory that is there. -/
  | vacant (names : List String)

/-- Takes the steps of a path from a directory. -/
def walk (disk : Disk) (start : List String) : List String → Except IoFault Place
  | [] => .ok (.directory start)
  | name :: rest =>
    if name = Path.here then disk.walk start rest
    else if name = Path.above then disk.walk (Path.up start) rest
    else if nameLimit < name.utf8ByteSize then .error nameTooLong
    else
      let next := start ++ [name]
      if disk.isDirectory next then disk.walk next rest
      else if (disk.file? next).isSome then
        if rest.isEmpty then .ok (.file next) else .error throughFile
      else if rest.isEmpty then .ok (.vacant next)
      else .error missing

/-- What a path leads to, whether or not a slash ends it. -/
def locate (disk : Disk) (path : String) : Except IoFault Place :=
  if path.toList.contains (Char.ofNat 0) then .error zeroInName
  else if path.isEmpty then .error missing
  else if pathLimit < path.utf8ByteSize then .error nameTooLong
  else disk.walk (Path.origin path) (Path.steps path)

def readBytes (disk : Disk) (path : String) : Except IoFault (List UInt8) :=
  match disk.locate path with
  | .error fault => .error fault
  | .ok (.directory _) => .error isDirectoryFault
  | .ok (.vacant _) => .error missing
  | .ok (.file names) =>
    if path.endsWith "/" then .error throughFile else .ok ((disk.file? names).getD [])

/-- The text of a file. -/
def read (disk : Disk) (path : String) : Except IoFault String :=
  match disk.readBytes path with
  | .error fault => .error fault
  | .ok bytes =>
    match Text.ofUtf8? bytes with
    | some text => .ok text
    | none => .error notText

def pathExists (disk : Disk) (path : String) : Bool :=
  match disk.locate path with
  | .ok (.directory _) => true
  | .ok (.file _) => !path.endsWith "/"
  | _ => false

/-- Puts the bytes in the file, in its place if it is there. -/
def put (names : List String) (bytes : List UInt8) :
    List (List String × List UInt8) → List (List String × List UInt8)
  | [] => [(names, bytes)]
  | (key, old) :: rest =>
    if key == names then (key, bytes) :: rest else (key, old) :: put names bytes rest

/-- Changes the bytes of a file; one that is not there begins empty. -/
def rewrite (disk : Disk) (names : List String) (change : List UInt8 → List UInt8) :
    Except IoFault Disk :=
  match disk.refusal? names with
  | some fault => .error fault
  | none =>
    .ok { disk with files := put names (change ((disk.file? names).getD [])) disk.files }

/-- Changes the file that a path leads to. -/
def update (disk : Disk) (path : String) (change : List UInt8 → List UInt8) :
    Except IoFault Disk :=
  match disk.locate path with
  | .error fault => .error fault
  | .ok (.directory _) => .error isDirectoryFault
  | .ok (.vacant names) =>
    if path.endsWith "/" then .error isDirectoryFault else disk.rewrite names change
  | .ok (.file names) =>
    if path.endsWith "/" then .error throughFile else disk.rewrite names change

/-- Replaces the content of a file, or makes the file. -/
def write (disk : Disk) (path text : String) : Except IoFault Disk :=
  disk.update path fun _ => Text.utf8 text

/-- Adds to the end of a file, or makes the file. -/
def append (disk : Disk) (path text : String) : Except IoFault Disk :=
  disk.update path fun bytes => bytes ++ Text.utf8 text

def makeOne (disk : Disk) (path : String) : Except IoFault Disk :=
  match disk.locate path with
  | .error fault => .error fault
  | .ok (.vacant names) => .ok { disk with directories := names :: disk.directories }
  | .ok _ => .error existsFault

/-- A fault of making a directory does not count when the directory is there. -/
def settle (disk : Disk) (path : String) (fault : IoFault) : Except IoFault Disk :=
  match disk.locate path with
  | .ok (.directory _) => .ok disk
  | _ => .error fault

/-- Makes the first of the directories, after those behind it if it must. -/
def makeFrom (disk : Disk) : List String → Except IoFault Disk
  | [] => .ok disk
  | path :: outer =>
    match disk.makeOne path with
    | .ok disk => .ok disk
    | .error fault =>
      if fault.kind = .notFound then
        match disk.makeFrom outer with
        | .error fault => .error fault
        | .ok disk =>
          match disk.makeOne path with
          | .ok disk => .ok disk
          | .error fault => disk.settle path fault
      else disk.settle path fault

def makeDirectory (disk : Disk) (path : String) : Except IoFault Disk :=
  disk.makeFrom (Path.ancestors path)

def placeDirectory (disk : Disk) (path : String) : Disk :=
  (disk.makeDirectory path).toOption.getD disk

/-- The disk with the directories above the path. -/
def placeOuter (disk : Disk) (path : String) : Disk :=
  (disk.makeFrom ((Path.ancestors path).drop 1)).toOption.getD disk

/-- Places a file and the directories above it. -/
def place (disk : Disk) (path : String) (bytes : List UInt8) : Disk :=
  let made := disk.placeOuter path
  (made.update path fun _ => bytes).toOption.getD made

/-- The disk on which the file that the path leads to cannot be written. -/
def refuse (disk : Disk) (path : String) (fault : IoFault) : Disk :=
  let made := disk.placeOuter path
  match made.locate path with
  | .ok (.vacant names) | .ok (.file names) =>
    { made with refusals := (names, fault) :: made.refusals }
  | _ => made

def paths (disk : Disk) : List String :=
  (disk.files.map fun (names, _) => Path.text names).mergeSort fun a b => !decide (b < a)

/-- Files below a directory, by their path from there, sorted. -/
def below (disk : Disk) (directory : String) : List (String × String) :=
  match disk.locate directory with
  | .ok (.directory outer) =>
    let inside := disk.files.filter fun (names, _) => outer.isPrefixOf names
    let shown := inside.map fun (names, bytes) =>
      (Path.text (names.drop outer.length), Text.ofUtf8Lossy bytes)
    shown.mergeSort fun a b => !decide (b.1 < a.1)
  | _ => []

end Disk

end KeyScript
