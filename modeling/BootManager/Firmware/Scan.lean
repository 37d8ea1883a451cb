import BootManager.Firmware.Machine
import BootManager.Firmware.Mounted
import BootManager.Text.Utf16
import BootManager.Volume.Set

/-!
# Scanning a machine

Every handle with a block device is opened and classified, and the volumes are put together. A
handle that cannot be opened is left out; only a machine without any block device cannot be scanned.
-/

namespace BootManager.Firmware

/-- A block device as the slot lets it be read. -/
def BlockSlot.opened (slot : BlockSlot) : Device :=
  { slot.device with
    read := fun lba size =>
      if slot.hasMedium then
        match slot.device.read lba size with
        | .error .noMedia => .error (.readFailed .noMedia)
        | result => result
      else .error .noMedia }

/-- The revision of records of partitions that are understood. -/
def PartitionRecord.knownRevision : Nat := 0x1000

/-- The kind of records that are from a table with identifiers. -/
def PartitionRecord.gptKind : Nat := 2

/-- The entry that a record is from, if it is one with identifiers. -/
def PartitionRecord.gpt? (record : PartitionRecord) : Option GptEntry :=
  if record.revision = knownRevision ∧ record.kind = gptKind then
    some
      { partGuid := record.guid
        partType := record.type
        name := String.ofList (Text.Utf16.decode (record.name.takeWhile (· != 0)))
        attributes := record.attributes }
  else none

/-- A device that a scan opened. -/
structure OpenedDevice where
  handle : Nat
  device : Device

namespace Machine

/-- Opens the block devices of some handles. -/
def openDevices (m : Machine) : List Nat → Logged (List OpenedDevice)
  | [] => pure []
  | handle :: rest =>
    match m.open? handle .block with
    | .ok slot => do
      let devices ← m.openDevices rest
      pure (⟨handle, slot.opened⟩ :: devices)
    | .error status => do
      Logged.warn (Failure.firmware status).summary
      m.openDevices rest

/-- The place among the opened devices of the disk that a path leads through, the last of
several. -/
def wholeDisk? (m : Machine) (opened : List OpenedDevice) (path : DevicePath) : Option Nat :=
  (path.upToConnections.findSome? (m.locate? .block)).bind fun handle =>
    opened.findIdx? fun other => other.handle == handle

/-- What is known about an opened device at its place among all of them. -/
def probe (m : Machine) (opened : List OpenedDevice) (place handle : Nat) : Probe :=
  let path := (m.open? handle .path).toOption
  let wholeDisk := path.bind (m.wholeDisk? opened)
  { handle := some handle
    device := place
    wholeDisk
    wholeDiskBlockSize := (wholeDisk.bind fun disk => opened[disk]?).map (·.device.blockSize)
    path := (path.getD []).map (·.kind.pathNode)
    gpt := (m.open? handle .partition).toOption.bind (·.gpt?)
    fs := (m.openFs? handle).toOption.map (·.volumeFs) }

/-- Classifies an opened device at its place among all of them. -/
def classify (m : Machine) (opened : List OpenedDevice) (options : ScanOptions) (place : Nat)
    (found : OpenedDevice) : Logged Volume := do
  let volume ← Volume.classify (m.probe opened place found.handle) found.device options .x64
  Logged.debug
    s!"Found volume \"{volume.name}\" ({volume.fsType.name}, {volume.diskKind.name})"
  pure volume

/-- Classifies opened devices from a place on. -/
def classifyAll (m : Machine) (opened : List OpenedDevice) (options : ScanOptions) :
    Nat → List OpenedDevice → Logged (List Volume)
  | _, [] => pure []
  | place, found :: rest => do
    let volume ← m.classify opened options place found
    let volumes ← m.classifyAll opened options (place + 1) rest
    pure (volume :: volumes)

/-- Scans the volumes of a machine. The boot manager was started from the device `selfDevice`. How
long a scan takes is left open in what is reported. -/
def scan (m : Machine) (options : ScanOptions) (selfDevice : Option Nat) :
    Logged (Except Failure VolumeSet) := do
  match m.offering .block with
  | [] => pure (.error (.firmware .notFound))
  | handles =>
    let opened ← m.openDevices handles
    let volumes ← m.classifyAll opened options 0 opened
    let selfVolume := selfDevice.bind fun device =>
      volumes.findIdx? fun v => v.handle == some device
    let set ← VolumeSet.assemble volumes (opened.map (·.device)) selfVolume options
    Logged.info s!"Scanned {set.volumes.length} volumes in _ ms"
    pure (.ok set)

end Machine

end BootManager.Firmware
