import BootManager.Firmware.Machine

/-!
# Variables of a machine

Variables are kept by the firmware, or as files in a directory. The directory is next to the boot
manager if it can be made there, and otherwise on a boot partition.
-/

namespace BootManager.Firmware

namespace FileSystem

/-- Reads the variable in a file. -/
def readVariable (path : FilePath) : FileM (Option Bytes) := do
  if (← get).holds path then
    let data ← readContent path
    pure (some data)
  else pure none

/-- Writes a variable into a file, or deletes the file if there is nothing to write. -/
def writeVariable (path : FilePath) (data : Bytes) : FileM Unit := do
  if !data.isEmpty then writeFile path data
  else if (← get).holds path then deleteFile path

end FileSystem

namespace Attempt

/-- A text in the firmware's characters. -/
def encode (text : String) : Attempt String :=
  match encodeText? text with
  | some text => pure text
  | none => throw .text

/-- Reads a variable of the firmware. -/
def getVariable (vendor : Guid) (name : String) : Attempt (Option Bytes) := do
  let name ← encode name
  let m ← get
  match m.failGet.lookup name with
  | some .notFound => pure none
  | some status => throw (.firmware status)
  | none => pure ((m.nvram.find? fun v => v.isCalled vendor name).map (·.data))

/-- The attributes of a variable that can be used before and after the operating system is
started. -/
def variableAttributes (persistent : Bool) : Nat :=
  if persistent then 7 else 6

/-- Writes a variable of the firmware, or deletes it if there is nothing to write. Then it need not
have been there. -/
def setVariable (vendor : Guid) (name : String) (data : Bytes) (persistent : Bool) :
    Attempt Unit := do
  let name ← encode name
  let m ← get
  match m.failSet.lookup name with
  | some status =>
    if data.isEmpty ∧ status = .notFound then pure () else throw (.firmware status)
  | none =>
    let others := m.nvram.filter fun v => !v.isCalled vendor name
    let written : List FirmwareVariable :=
      if data.isEmpty then []
      else [{ vendor, name, data, attributes := variableAttributes persistent }]
    set { m with nvram := others ++ written }

end Attempt

/-- The variables of the firmware. -/
def firmwareVariables : VariableBackend Machine where
  get vendor name := (Attempt.getVariable vendor name).run
  set vendor name data persistent := (Attempt.setVariable vendor name data persistent).run

/-- A directory that variables are kept in, whose filesystem is held. -/
structure VariableDirectory where
  /-- The handle of the filesystem. -/
  handle : Nat
  path : String
  deriving DecidableEq, Repr

namespace VariableDirectory

/-- The name of the directory next to the boot manager. -/
def ownName : String := "vars"

/-- The directory on a boot partition. -/
def espPath : String := "\\refind-vars"

/-- The path of the file of a variable. -/
def filePath (dir : VariableDirectory) (name : String) : Attempt FilePath := do
  let path ← Attempt.encode (joinPath dir.path name)
  pure (.ofText path)

/-- The variables in a directory. The namespace is no part of the names of files. -/
def backend (dir : VariableDirectory) : VariableBackend Machine where
  get _ name := ExceptT.run do
    let path ← dir.filePath name
    Attempt.onFs dir.handle (FileSystem.readVariable path)
  set _ name data _ := ExceptT.run do
    let path ← dir.filePath name
    Attempt.onFs dir.handle (FileSystem.writeVariable path data)

/-- Makes sure that there is a directory on a filesystem that is held, and lets go of it
otherwise. -/
def create (handle : Nat) (path : Attempt String) : Attempt VariableDirectory := do
  let made ← Attempt.outcome do
    let path ← path
    let encoded ← Attempt.encode path
    Attempt.onFs handle (FileSystem.createDirectory (.ofText encoded))
    pure (⟨handle, path⟩ : VariableDirectory)
  match made with
  | .ok dir => pure dir
  | .error failure =>
    Attempt.release handle
    throw failure

/-- The directory next to the boot manager. -/
def openOwn (selfDir : String) : Attempt VariableDirectory := do
  let handle ← Attempt.holdImageFs
  create handle (Attempt.encode (joinPath selfDir ownName))

/-- The directory on a boot partition. -/
def openOnEsp (esp : Nat) : Attempt VariableDirectory := do
  Attempt.hold esp
  create esp (pure espPath)

/-- Finds the directory: next to the boot manager, else on a boot partition. -/
def find (selfDir : String) (esp : Option Nat) : Attempt VariableDirectory := do
  match ← (openOwn selfDir).outcome with
  | .ok dir => pure dir
  | .error failure =>
    Logged.debug s!"No vars directory next to the boot manager: {failure.summary}"
    match esp with
    | none => throw (.stored .noDirectory)
    | some esp =>
      match ← (openOnEsp esp).outcome with
      | .ok dir => pure dir
      | .error failure =>
        Logged.warn failure.summary
        throw (.stored .noDirectory)

end VariableDirectory

/-- Where the variables of a machine go. -/
structure MachineStore where
  directory : Option VariableDirectory
  /-- Whether the boot manager's own variables go to the firmware. -/
  useNvram : Bool
  deriving DecidableEq, Repr

namespace MachineStore

/-- The store on the machine's variables. -/
def store (s : MachineStore) : VariableStore Machine where
  firmware := firmwareVariables
  disk := s.directory.map (·.backend)
  useNvram := s.useNvram

/-- Finds out where variables go. A directory is only looked for if it is needed. -/
def locate (useNvram : Bool) (selfDir : String) (esp : Option Nat) : Attempt MachineStore := do
  if useNvram then pure ⟨none, useNvram⟩
  else
    match ← (VariableDirectory.find selfDir esp).outcome with
    | .ok dir => pure ⟨some dir, useNvram⟩
    | .error failure =>
      Logged.warn failure.summary
      pure ⟨none, useNvram⟩

/-- Lets go of the directory. -/
def close (s : MachineStore) : Attempt Unit :=
  match s.directory with
  | some dir => Attempt.release dir.handle
  | none => pure ()

end MachineStore

end BootManager.Firmware
