import BootManager.Log
import BootManager.Text.Ascii
import BootManager.Text.Blank
import BootManager.Volume.PartitionType

/-!
# Where a configuration is read

What the meaning of a configuration depends on besides its files, and the files themselves: a source
answers questions about files, always the same way.
-/

namespace BootManager.Config

/-- Where files are read from. Reading answers nothing for a file that cannot be read. -/
structure Source where
  read : String → Logged (Option Bytes)
  holds : String → Logged Bool

/-- The surroundings of a configuration. -/
structure Context where
  /-- Whether the firmware was made by Apple. -/
  appleFirmware : Bool
  arch : Architecture
  /-- The place among `volumes` of the one the boot manager was started from. -/
  selfVolume : Option Nat
  /-- The directory that the boot manager was started from. -/
  selfDir : String
  /-- The time in minutes past midnight. -/
  minuteOfDay : Option UInt32
  volumes : List Volume

namespace Context

/-- The identifier of the partition that the boot manager was started from, in capital letters. -/
def selfPartGuid (ctx : Context) : Option String := do
  let place ← ctx.selfVolume
  let volume ← ctx.volumes[place]?
  let guid ← volume.partGuid
  pure (Text.upper guid.toText)

/-- The path of a file that is named relative to the boot manager's directory. -/
def resolve (ctx : Context) (file : String) : String :=
  if file.toList.head? = some '\\' ∨ ctx.selfDir = "" then file
  else
    String.ofList (Text.dropTrailing (· == '\\') ctx.selfDir.toList ++ '\\' :: file.toList)

end Context

/-- Files kept in memory by path. The case of letters and backslashes in front do not count. -/
structure MemoryFiles where
  files : List (String × Bytes)
  deriving DecidableEq, Repr

namespace MemoryFiles

/-- No files. -/
def empty : MemoryFiles := ⟨[]⟩

/-- What identifies the file of a path. -/
def key (path : String) : String :=
  Text.lower (String.ofList (path.toList.dropWhile (· == '\\')))

/-- Adds a file, in place of one that has the same path. -/
def insert (m : MemoryFiles) (path : String) (content : Bytes) : MemoryFiles :=
  ⟨(key path, content) :: m.files.filter fun file => file.1 != key path⟩

/-- Files given as paths with contents. Of several with the same path, the last counts. -/
def ofList (files : List (String × Bytes)) : MemoryFiles :=
  files.foldl (fun m file => m.insert file.1 file.2) empty

/-- The content of a file. -/
def read? (m : MemoryFiles) (path : String) : Option Bytes :=
  m.files.lookup (key path)

/-- Whether there is a file with a path, or a file in a directory with it. -/
def holds (m : MemoryFiles) (path : String) : Bool :=
  m.files.any fun file =>
    file.1 == key path || ((key path).toList ++ ['\\']).isPrefixOf file.1.toList

/-- The files as a source. -/
def source (m : MemoryFiles) : Source where
  read path := pure (m.read? path)
  holds path := pure (m.holds path)

end MemoryFiles

end BootManager.Config
