import BootManager.Text.Ascii
import BootManager.Volume.ExtendedChain
import BootManager.Volume.Name
import BootManager.Volume.Sample

/-!
# Classifying a volume

What the firmware knows about a device, its filesystem and the start of its data make up a volume.
Nothing here fails: what cannot be read is left open.
-/

namespace BootManager

/-- What a node for a partition says which one it is. -/
inductive PartitionSignature where
  | none
  | mbr (number : UInt32)
  | guid (guid : Guid)
  deriving DecidableEq, Repr

/-- A node of a device path, as far as it matters. -/
inductive PathNode where
  | hardDrive (signature : PartitionSignature)
  | cdRom
  | usb
  | usbClass
  | fireWire
  | fibreChannel
  | otherMessaging
  | vendor (guid : Guid)
  | other
  deriving DecidableEq, Repr

namespace PathNode

/-- Whether a node means that the disk is outside of the machine. -/
def isExternal : PathNode → Bool
  | usb | usbClass | fireWire | fibreChannel => true
  | _ => false

/-- Whether a node names a connection. -/
def isMessaging (node : PathNode) : Bool :=
  node.isExternal || node == otherMessaging

end PathNode

/-- The entry of a partition in a partition table. -/
structure GptEntry where
  partGuid : Guid
  partType : Guid
  name : String
  attributes : Nat
  deriving DecidableEq, Repr

/-- A filesystem that could be opened, which answers a question always the same way. -/
structure VolumeFs where
  label : Logged (Option String)
  size : Logged (Option Nat)
  holds : String → Logged Bool

/-- What the firmware knows about a device. -/
structure Probe where
  handle : Option Nat
  /-- The number of the device. -/
  device : Nat
  /-- The number of the device of the disk that it lies on. -/
  wholeDisk : Option Nat
  wholeDiskBlockSize : Option Nat
  path : List PathNode
  gpt : Option GptEntry
  fs : Option VolumeFs

/-- What a scan is asked to do. -/
structure ScanOptions where
  legacy : LegacyBoot
  appleFirmware : Bool
  /-- Whether boot partitions count although they have the serial of another one. -/
  scanOtherEsp : Bool
  /-- Whether volumes that belong together get one name. -/
  syncApfs : Bool
  deriving DecidableEq, Repr

/-- The role of a volume of APFS, told from its name and from whether it holds a loader. -/
def Role.infer (name : String) (hasLoader : Bool) : Role :=
  if Text.sameIgnoringCase name "Preboot" then preboot
  else if Text.sameIgnoringCase name "Recovery" then recovery
  else if Text.sameIgnoringCase name "VM" then vm
  else if Text.sameIgnoringCase name "Update" then update
  else if " - Data".toList.isSuffixOf name.toList || Text.sameIgnoringCase name "Data" then data
  else if hasLoader then system
  else undefined

namespace Volume

/-- The loader of a system on APFS. -/
def macosLoader : String := "\\System\\Library\\CoreServices\\boot.efi"

/-- The block size of optical media. -/
def opticalBlockSize : Nat := 2048

/-- Whether the files are there that start a Windows system without the firmware's help, or cannot
be looked for. -/
def hasWindowsFiles : Option VolumeFs → Logged Bool
  | none => pure true
  | some fs => do
    if ← fs.holds "NTLDR" then pure true else fs.holds "bootmgr"

/-- Takes up what a partition table says about the partition `guid`. -/
def identify (arch : Architecture) (gpt : Option GptEntry) (guid : Guid) (v : Volume) : Volume :=
  let v := { v with partGuid := some guid }
  match gpt with
  | some entry =>
    if entry.partGuid = guid then
      { v with
        partType := some entry.partType
        partName := if entry.name = "" then none else some entry.name
        isReadOnly := entry.attributes.testBit PartitionType.readOnlyBit
        isDiscoveredRoot := PartitionType.discoverableRoot arch == some entry.partType &&
          !entry.attributes.testBit PartitionType.noAutoBit }
    else v
  | none => v

/-- Takes up what one node of the device path says. -/
def identifyNode (arch : Architecture) (gpt : Option GptEntry) (v : Volume) : PathNode → Volume
  | .hardDrive (.guid guid) => v.identify arch gpt guid
  | .hardDrive _ => { v with partGuid := some PartitionType.mbrPlaceholder }
  | _ => v

/-- Where a disk is attached, told from its device path; `kind` is what was known before. -/
def attachment (path : List PathNode) (wholeDiskBlockSize : Option Nat) (kind : DiskKind) :
    DiskKind :=
  let byNodes := path.foldl (fun kind node =>
    if node.isExternal then .external else if node = .cdRom then .optical else kind) kind
  if path.any PathNode.isMessaging ∧ wholeDiskBlockSize = some opticalBlockSize then .optical
  else byNodes

/-- Takes up what the filesystem says about itself. -/
def withFs (fs : Option VolumeFs) (v : Volume) : Logged Volume :=
  match fs with
  | none => pure v
  | some fs => do
    let label ← fs.label
    let size ← fs.size
    pure { v with hasRoot := true, fsName := label.filter (· != ""), fsSize := size }

/-- Takes up what was told from the start of a volume. -/
def withSample (sample : Sample) (v : Volume) : Volume :=
  { v with
    fsType := sample.detection.fsType
    serial := sample.detection.serial
    partType := sample.detection.partType
    hasBootCode := sample.boot.hasBootCode
    osIconName := sample.boot.osIconName
    osName := sample.boot.osName
    mbrTable := sample.boot.mbrTable }

/-- Whether boot code of a volume that can be read counts only if its files are there. -/
def needsWindowsFiles (options : ScanOptions) (v : Volume) : Bool :=
  v.hasRoot && options.legacy == .mac && v.fsType == .ntfs && v.hasBootCode

/-- Takes up which files a volume holds. -/
def withFiles (options : ScanOptions) (fs : Option VolumeFs) (v : Volume) : Logged Volume := do
  let hasBootCode ←
    if v.needsWindowsFiles options then hasWindowsFiles fs else pure v.hasBootCode
  let role ←
    if v.fsType = .apfs then do
      let hasLoader ← (fs.map fun fs => fs.holds macosLoader).getD (pure false)
      pure (Role.infer v.name hasLoader)
    else pure v.role
  pure { v with hasBootCode, role }

/-- Classifies the volume of a device. -/
def classify (probe : Probe) (device : Device) (options : ScanOptions) (arch : Architecture) :
    Logged Volume := do
  let start : Volume :=
    { handle := probe.handle
      device := some probe.device
      wholeDisk := probe.wholeDisk
      diskKind := if device.blockSize = opticalBlockSize then .optical else .internal }
  let v := probe.path.foldl (identifyNode arch probe.gpt) start
  let ctx : DetectContext :=
    { blockSize := device.blockSize
      isPartition := device.isPartition
      partType := v.partType
      apfsVendorNode := probe.path.contains (.vendor PartitionType.apfs)
      appleFirmware := options.appleFirmware }
  let sample ← Sample.take device 0 ctx options.legacy (hasWindowsFiles probe.fs)
  let v := v.withSample sample
  let bootable := sample.boot.bootable || probe.path.contains .cdRom
  if bootable = false ∧ v.hasBootCode = true then
    Logged.debug "Volume considered non-bootable, but boot code is present"
  let v := { v with
    diskKind := attachment probe.path probe.wholeDiskBlockSize v.diskKind
    hasBootCode := v.hasBootCode && bootable }
  let v ← v.withFs probe.fs
  let v := { v with name? := some v.displayName }
  let v ← v.withFiles options probe.fs
  pure { v with isReadable := v.hasBootCode || v.hasRoot }

/-- Classifies a partition inside of an extended one. Only its boot code is looked at, so it can be
read only if it has some. -/
def classifyLogical (disk : Volume) (partition : LogicalPartition) (device : Device)
    (options : ScanOptions) : Logged Volume := do
  let ctx : DetectContext :=
    { blockSize := device.blockSize
      isPartition := true
      partType := none
      apfsVendorNode := false
      appleFirmware := options.appleFirmware }
  let sample ← Sample.take device partition.offset ctx options.legacy (pure true)
  let hasBootCode := sample.boot.bootable && sample.boot.hasBootCode
  pure
    { device := disk.device
      wholeDisk := disk.device
      blockOffset := partition.offset
      diskKind := disk.diskKind
      isMbrPartition := true
      mbrPartitionIndex := partition.index
      name? := some ("Partition " ++ toString (partition.index + 1))
      fsType := sample.detection.fsType
      serial := sample.detection.serial
      hasBootCode
      osIconName := sample.boot.osIconName
      osName := sample.boot.osName
      isReadable := hasBootCode }

end Volume

end BootManager
