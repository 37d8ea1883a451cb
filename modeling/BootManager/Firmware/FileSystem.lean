import BootManager.Failure
import BootManager.Log
import BootManager.Text.Ascii
import BootManager.Text.Blank

/-!
# Filesystems of the firmware

Files and directories by path, where the case of ASCII letters does not count. A filesystem may fail
any kind of call, and an operation that fails half-way leaves what it did before.
-/

namespace BootManager.Firmware

/-- What there is at a path. -/
inductive FileNode where
  | file (data : Bytes)
  | directory
  deriving DecidableEq, Repr

/-- The parts of a path, in small letters. The root has none. -/
abbrev FilePath := List String

namespace FilePath

/-- The parts of a written path. Backslashes separate them. -/
def ofText (path : String) : FilePath :=
  (Text.runs (· == '\\') path.toList).map fun part => Text.lower (String.ofList part)

/-- A path as it is written, without a backslash in front. -/
def toText (path : FilePath) : String :=
  "\\".intercalate path

end FilePath

/-- The calls that a filesystem fails, each with its status. -/
structure Faults where
  /-- Opening files, by path. -/
  opening : List (FilePath × Status) := []
  /-- Asking for the size of a file. -/
  info : Option Status := none
  /-- Telling a file from a directory. -/
  position : Option Status := none
  read : Option Status := none
  write : Option Status := none
  delete : Option Status := none
  flush : Option Status := none
  /-- Opening the volume. -/
  volume : Option Status := none
  label : Option Status := none
  size : Option Status := none
  deriving DecidableEq, Repr

/-- A filesystem. -/
structure FileSystem where
  /-- Its label, if it reports one. -/
  label : Option String
  /-- Its size in bytes, if it reports one. -/
  size : Option Nat
  nodes : List (FilePath × FileNode)
  readOnly : Bool
  /-- How far files can be read. -/
  readLimit : Option Nat
  /-- How far files can be written. -/
  writeLimit : Option Nat
  /-- How much too large the sizes of files are reported. -/
  sizeExtra : Nat
  faults : Faults
  deriving DecidableEq, Repr

/-- What a file is opened for. -/
inductive OpenMode where
  | read
  | write
  /-- Writing, after putting this there if there is nothing. -/
  | create (node : FileNode)
  deriving DecidableEq, Repr

/-- An operation on a filesystem, which may fail. -/
abbrev FileM := ExceptT FileError (StateM FileSystem)

namespace FileSystem

/-- What there is at a path. The root is always there. -/
def node? (fs : FileSystem) (path : FilePath) : Option FileNode :=
  if path.isEmpty then some .directory else fs.nodes.lookup path

/-- Puts something at a path, in place of what is there. -/
def put (fs : FileSystem) (path : FilePath) (node : FileNode) : FileSystem :=
  { fs with nodes := (fs.nodes.filter fun entry => entry.1 != path) ++ [(path, node)] }

/-- Removes what is at a path. -/
def remove (fs : FileSystem) (path : FilePath) : FileSystem :=
  { fs with nodes := fs.nodes.filter fun entry => entry.1 != path }

/-- Adds a file or directory, and the directories it is in if they are missing. -/
def insert (fs : FileSystem) (path : FilePath) (node : FileNode) : FileSystem :=
  let parents := ((List.range path.length).drop 1).map path.take
  let missing := parents.filter fun parent => (fs.node? parent).isNone
  let fs := missing.foldl (fun fs parent => fs.put parent .directory) fs
  if path.isEmpty then fs else fs.put path node

/-- Fails with an error if there is a fault. -/
def check (fault : Option Status) (error : Status → FileError) : FileM Unit :=
  match fault with
  | some status => throw (error status)
  | none => pure ()

/-- Opens the volume. -/
def openVolume : FileM Unit := do
  check (← get).faults.volume .opening

/-- Opens what is at a path. It is opened as what it is, whatever was to be put there. -/
def openNode (path : FilePath) (mode : OpenMode) : FileM FileNode := do
  openVolume
  let fs ← get
  check (fs.faults.opening.lookup path) .opening
  if fs.readOnly ∧ mode ≠ .read then throw (.opening .writeProtected)
  match fs.node? path, mode with
  | some node, _ => pure node
  | none, .create node =>
    if fs.node? path.dropLast = some .directory then
      set (fs.put path node)
      pure node
    else throw (.opening .notFound)
  | none, _ => throw (.opening .notFound)

/-- What something is taken for once it was opened. A directory is told by having no position. -/
def kind? (fs : FileSystem) (path : FilePath) (node : FileNode) : Option FileNode :=
  if path.isEmpty then some .directory
  else
    match fs.faults.position with
    | some .unsupported => some .directory
    | some _ => none
    | none => some node

/-- Opens a file, and gives its bytes. -/
def openFile (path : FilePath) (mode : OpenMode) : FileM Bytes := do
  let node ← openNode path mode
  match (← get).kind? path node with
  | some (.file data) => pure data
  | _ => throw (.opening .invalidParameter)

/-- The label of the volume. -/
def readLabel : FileM String := do
  openVolume
  let fs ← get
  check fs.faults.label fun _ => .volumeLabel
  match fs.label with
  | some label => pure label
  | none => throw .volumeLabel

/-- The size of the volume in bytes. -/
def readSize : FileM Nat := do
  openVolume
  let fs ← get
  check fs.faults.size fun _ => .volumeSize
  match fs.size with
  | some size => pure size
  | none => throw .volumeSize

/-- Reads a file. A file that is said to be empty is not read at all. -/
def readContent (path : FilePath) : FileM Bytes := do
  let data ← openFile path .read
  let fs ← get
  check fs.faults.info .reading
  if data.length + fs.sizeExtra = 0 then pure []
  else
    check fs.faults.read .reading
    pure (data.take (fs.readLimit.getD data.length))

/-- Deletes a file. -/
def deleteFile (path : FilePath) : FileM Unit := do
  let _ ← openFile path .write
  check (← get).faults.delete .deleting
  modify fun fs => fs.remove path

/-- Replaces the content of a file, or creates it. A file is deleted first if that is possible, and
its old bytes stay after the new ones if it is not. -/
def writeFile (path : FilePath) (data : Bytes) : FileM Unit := do
  tryCatch (deleteFile path) fun _ => pure ()
  let old ← openFile path (.create (.file []))
  let fs ← get
  check fs.faults.write fun status => .writing status 0
  let room := fs.writeLimit.getD data.length
  set (fs.put path (.file (data.take room ++ old.drop (min room data.length))))
  if room < data.length then throw (.writing .volumeFull room)
  check fs.faults.flush .flushing

/-- Creates a directory, if it is not there. -/
def createDirectory (path : FilePath) : FileM Unit := do
  let node ← openNode path (.create .directory)
  match (← get).kind? path node with
  | some .directory => pure ()
  | _ => throw (.opening .invalidParameter)

/-- The answer of an operation that changes nothing. -/
def ask {α : Type} (fs : FileSystem) (operation : FileM α) : Except FileError α :=
  (operation.run.run fs).1

/-- Whether there is something at a path that can be opened. -/
def holds (fs : FileSystem) (path : FilePath) : Bool :=
  match fs.ask (openNode path .read) with
  | .ok _ => true
  | .error _ => false

end FileSystem

/-- The path of a text, if the firmware has codes for its characters. -/
def encodeText? (text : String) : Option String :=
  if text.toList.all fun c => c.toNat ≠ 0 ∧ c.toNat < 0x10000 then some text else none

/-- A path with backslashes for its slashes. -/
def normalizePath (path : String) : String :=
  String.ofList (path.toList.map fun c => if c = '/' then '\\' else c)

/-- The characters that no path may have, apart from slashes. -/
def deniedChars : List Char :=
  ['"', '*', '/', ':', '<', '>', '?', '|']

/-- Whether a path can be that of a file. -/
def isValidPath (path : String) : Bool :=
  (path.toList.all fun c => c.toNat != 0 && c.toNat < 0x10000 && !deniedChars.contains c) &&
    path != ".." && path != "."

/-- The path of a file in a directory. -/
def joinPath (dir file : String) : String :=
  String.ofList (Text.dropTrailing (· == '\\') dir.toList ++
    '\\' :: file.toList.dropWhile (· == '\\'))

namespace FileSystem

/-- Whether there is something at a written path. -/
def holdsText (fs : FileSystem) (path : String) : Except Failure Bool :=
  match encodeText? (normalizePath path) with
  | some path => .ok (fs.holds (.ofText path))
  | none => .error .text

/-- Reads the file at a written path. -/
def readText (fs : FileSystem) (path : String) : Except Failure Bytes :=
  let path := normalizePath path
  if isValidPath path then (fs.ask (readContent (.ofText path))).mapError .file
  else .error (.file (.invalidPath path))

end FileSystem

end BootManager.Firmware
