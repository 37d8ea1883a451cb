import BootManager.Firmware.Console
import BootManager.Firmware.DevicePath
import BootManager.Firmware.FileSystem
import BootManager.Variable.Memory

/-!
# The machine

What the firmware of a machine offers: things with protocols, variables, a clock and a console. A
filesystem can be held by one user at a time.
-/

namespace BootManager.Firmware

/-- A slot for a block device. -/
structure BlockSlot where
  device : Device
  /-- Whether there is a medium in it. -/
  hasMedium : Bool

/-- What the firmware knows about a partition. -/
structure PartitionRecord where
  revision : Nat
  /-- The kind of the partition table that it is from. -/
  kind : Nat
  guid : Guid
  type : Guid
  attributes : Nat
  /-- The units of its name, with zeros after them. -/
  name : List UInt16
  deriving DecidableEq, Repr

/-- What a handle can offer. -/
inductive Protocol where
  | path
  | block
  | fs
  | partition
  deriving DecidableEq, Repr

/-- What opening a protocol gives. -/
abbrev Protocol.Interface : Protocol → Type
  | path => DevicePath
  | block => BlockSlot
  | fs => FileSystem
  | partition => PartitionRecord

/-- A thing that the firmware knows, with the protocols that it offers. -/
structure Handle where
  path : Option DevicePath
  block : Option BlockSlot
  fs : Option FileSystem
  partition : Option PartitionRecord
  /-- The protocols that cannot be opened. -/
  refused : List (Protocol × Status)

namespace Handle

/-- What a handle offers for a protocol. -/
def offer? (h : Handle) : (protocol : Protocol) → Option protocol.Interface
  | .path => h.path
  | .block => h.block
  | .fs => h.fs
  | .partition => h.partition

/-- Opens a protocol. -/
def open? (h : Handle) (protocol : Protocol) : Except Status protocol.Interface :=
  match h.offer? protocol, h.refused.lookup protocol with
  | none, _ => .error .unsupported
  | some _, some status => .error status
  | some interface, none => .ok interface

end Handle

/-- What the clock shows. -/
structure Time where
  year : Nat
  month : Nat
  day : Nat
  hour : Nat
  minute : Nat
  second : Nat
  nanosecond : Nat
  /-- The distance from universal time in minutes, if it is known. -/
  zone : Option Int
  deriving DecidableEq, Repr

/-- How the boot manager was started. -/
structure Image where
  /-- The handle of the device that it was loaded from. -/
  device : Option Nat
  /-- The path of its file. -/
  path : Option String
  /-- What it was started with. -/
  options : Option Bytes
  deriving DecidableEq, Repr

/-- A variable of the firmware. -/
structure FirmwareVariable extends StoredVariable where
  attributes : Nat
  deriving DecidableEq, Repr

/-- A machine. Handles are known by their places. -/
structure Machine where
  vendor : String
  /-- Whether the firmware can start systems of the old kind. -/
  hasCsm : Bool
  clock : Option Time
  /-- Why paths cannot be turned into texts, if they cannot. -/
  pathTextFault : Option Status
  /-- How the boot manager was started, if the firmware tells. -/
  image : Option Image
  handles : List Handle
  nvram : List FirmwareVariable
  /-- The names of variables that cannot be read. -/
  failGet : List (String × Status)
  /-- The names of variables that cannot be written. -/
  failSet : List (String × Status)
  /-- The handles whose filesystems are held. -/
  held : List Nat
  /-- Everything that was printed. -/
  console : String

namespace Machine

/-- Opens a protocol of a handle. -/
def open? (m : Machine) (place : Nat) (protocol : Protocol) : Except Status protocol.Interface :=
  match m.handles[place]? with
  | some handle => handle.open? protocol
  | none => .error .unsupported

/-- The handles that offer a protocol, in order. -/
def offering (m : Machine) (protocol : Protocol) : List Nat :=
  (List.range m.handles.length).filter fun place =>
    ((m.handles[place]?).bind fun handle => handle.offer? protocol).isSome

/-- The handle with a protocol that has the longest part of a path for its own, the first of
several. -/
def locate? (m : Machine) (protocol : Protocol) (path : DevicePath) : Option Nat :=
  (List.range (path.length + 1)).reverse.findSome? fun count =>
    (m.offering protocol).find? fun place =>
      (m.handles[place]?).bind (·.path) == some (path.take count)

/-- Opens the filesystem of a handle, which nobody else may hold. -/
def openFs? (m : Machine) (place : Nat) : Except Status FileSystem :=
  match m.open? place .fs with
  | .error status => .error status
  | .ok fs => if m.held.contains place then .error .accessDenied else .ok fs

/-- Replaces the filesystem of a handle. -/
def setFs (m : Machine) (place : Nat) (fs : FileSystem) : Machine :=
  { m with handles := m.handles.modify place fun handle => { handle with fs := some fs } }

/-- The handle with the filesystem that the boot manager was started from. -/
def imageFs? (m : Machine) : Except Status Nat := do
  match m.image.bind (·.device) with
  | none => .error .unsupported
  | some device =>
    let path ← m.open? device .path
    match m.locate? .fs path with
    | some place => .ok place
    | none => .error .notFound

end Machine

/-- A computation that works on a machine. -/
abbrev MachineM := StateT Machine Logged

/-- A computation that works on a machine and may fail. -/
abbrev Attempt := ExceptT Failure MachineM

namespace Attempt

variable {α : Type}

/-- Passes on the answer of the firmware. -/
def ofStatus : Except Status α → Attempt α
  | .ok a => pure a
  | .error status => throw (.firmware status)

/-- What comes of a computation, which may have failed. -/
def outcome (attempt : Attempt α) : Attempt (Except Failure α) :=
  ExceptT.lift attempt.run

/-- Drops the messages that a level does not show. -/
def restrict (limit : Level) (attempt : Attempt α) : Attempt α :=
  fun m => Logged.restrict limit (attempt m)

/-- Holds a filesystem. -/
def hold (place : Nat) : Attempt Unit := do
  let m ← get
  let _ ← ofStatus (m.openFs? place)
  set { m with held := place :: m.held }

/-- Holds the filesystem that the boot manager was started from, and gives its handle. -/
def holdImageFs : Attempt Nat := do
  let place ← ofStatus (← get).imageFs?
  hold place
  pure place

/-- Lets go of a filesystem. -/
def release (place : Nat) : Attempt Unit :=
  modify fun m => { m with held := m.held.erase place }

/-- Runs a computation and lets go of a filesystem after it, whatever comes of it. -/
def releasing (place : Nat) (attempt : Attempt α) : Attempt α := do
  let result ← attempt.outcome
  release place
  ofExcept result

/-- The filesystem of a handle. -/
def fsOf (place : Nat) : Attempt FileSystem := do
  match ((← get).handles[place]?).bind (·.fs) with
  | some fs => pure fs
  | none => throw (.firmware .unsupported)

/-- Runs an operation on the filesystem of a handle. -/
def onFs (place : Nat) (operation : FileM α) : Attempt α := do
  let fs ← fsOf place
  let (result, fs) := operation.run.run fs
  modify fun m => m.setFs place fs
  ofExcept (result.mapError .file)

/-- Prints texts one after the other, as far as the console shows them. -/
def print (texts : List String) : Attempt Unit :=
  modify fun m => { m with console := m.console ++ String.ofList (Console.ofTexts texts) }

/-- Prints a line. -/
def printLine (line : String) : Attempt Unit :=
  print [line, "\n"]

end Attempt

end BootManager.Firmware
