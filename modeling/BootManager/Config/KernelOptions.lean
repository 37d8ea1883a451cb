import BootManager.Config.Context
import BootManager.Config.Path
import BootManager.Config.TextFile

/-!
# Options for kernels

The command lines that a kernel can be started with: those of an options file next to it, else those
that its filesystem table suggests, else those that mount a root partition that was found.
-/

namespace BootManager.Config

/-- A command line with its title. -/
structure KernelOptions where
  title : String
  options : String
  deriving DecidableEq, Repr

namespace KernelOptions

/-- The names of options files, the preferred one first. -/
def fileNames : List String :=
  ["refindplus_linux.conf", "refindplus-linux.conf", "refind_linux.conf", "refind-linux.conf"]

/-- The table of filesystems. -/
def fstab : String := "\\etc\\fstab"

/-- The command lines that start a system as usual and for one user. -/
def pair (options : String) : List KernelOptions :=
  [⟨"Boot with Normal Options", options⟩, ⟨"Boot into Single User Mode", options ++ " single"⟩]

/-- The command lines of an options file: the lines with a title and options. -/
def ofFile (bytes : Bytes) : List KernelOptions :=
  (TextFile.ofBytes bytes).wordLines.filterMap fun line =>
    match line with
    | title :: options :: _ => some ⟨title, options⟩
    | _ => none

/-- The device that a line of a filesystem table mounts as the root. A device written as a key and a
value is two words. -/
def rootDevice? : Line → Option String
  | device :: target :: third :: _ =>
    if target = "\\" then some device
    else if third = "\\" then some (device ++ "=" ++ target)
    else none
  | _ => none

/-- The text with slashes for its backslashes. -/
def withSlashes (s : String) : String :=
  String.ofList (s.toList.map fun c => if c = '\\' then '/' else c)

/-- The command lines that a filesystem table suggests. -/
def ofFstab (bytes : Bytes) : List KernelOptions :=
  (TextFile.ofBytes bytes).wordLines.flatMap fun line =>
    match (rootDevice? line).filter (· != "") with
    | some device => pair ("ro root=" ++ withSlashes device)
    | none => []

/-- The command lines that mount a root partition by its identifier. -/
def ofRoot (root : Volume) : List KernelOptions :=
  match root.partGuid with
  | some guid =>
    let mode := if root.isReadOnly then "ro" else "rw"
    pair (mode ++ " root=/dev/disk/by-partuuid/" ++ guid.toText)
  | none => []

/-- The first options file of a directory that can be read. -/
def readFirst (source : Source) (dir : String) : List String → Logged (Option Bytes)
  | [] => pure none
  | name :: rest => do
    let path := if dir = "" then name else dir ++ "\\" ++ name
    if ← source.holds path then
      match ← source.read path with
      | some bytes =>
        Logged.debug s!"Reading kernel options from \"{path}\""
        pure (some bytes)
      | none => readFirst source dir rest
    else readFirst source dir rest

/-- The command lines for a loader, read from its volume; `root` is the root partition that was
found. -/
def read (source : Source) (loader : String) (root : Option Volume) :
    Logged (List KernelOptions) := do
  match ← readFirst source (Path.directory loader) fileNames with
  | some bytes => pure (ofFile bytes)
  | none =>
    let fromTable ← source.read fstab
    match (fromTable.map ofFstab).filter (!·.isEmpty) with
    | some options => pure options
    | none => pure ((root.map ofRoot).getD [])

end KernelOptions

end BootManager.Config
