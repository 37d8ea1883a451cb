import BootManager.Volume.Classify

/-!
# Relating volumes to each other

A disk with a master boot record may hold more partitions than the firmware shows: those inside of
an extended one are put after the volumes that are known. Partitions that the firmware does show are
looked up in the table of their disk.
-/

namespace BootManager.Volume

/-- The smallest sum of bytes that tells one boot sector from another. -/
def minSectorSum : Nat := 1000

/-- The table of a volume that is a whole disk. -/
def diskTable? (v : Volume) : Option MbrTable :=
  if v.device.isSome ∧ v.device = v.wholeDisk ∧ v.blockOffset = 0 then v.mbrTable else none

/-- The partitions inside of one extended partition of a disk. -/
def scanExtended (devices : List Device) (options : ScanOptions) (disk : Volume)
    (entry : MbrEntry) : Logged (List Volume) :=
  match disk.device.bind fun number => devices[number]? with
  | none => pure []
  | some device => do
    let walked ← (ChainWalk.start entry).collect device
    match walked.error with
    | some error =>
      let name := disk.name
      let text := error.message
      Logged.warn s!"Extended partition on \"{name}\": {text}"
    | none => pure ()
    walked.partitions.mapM fun partition => classifyLogical disk partition device options

/-- The partitions inside of the extended partitions of a volume, if it is a whole disk. -/
def logicalPartitions (devices : List Device) (options : ScanOptions) (v : Volume) :
    Logged (List Volume) :=
  match v.diskTable? with
  | none => pure []
  | some table => do
    let found ← (table.toList.filter MbrEntry.isExtended).mapM fun entry => do
      let partitions ← scanExtended devices options v entry
      let count := partitions.length
      Logged.debug s!"Found {count} logical partitions"
      pure partitions
    pure found.flatten

/-- One block of a device. -/
def readBlock? (devices : List Device) (number lba : Nat) : Option (List UInt8) :=
  match devices[number]? with
  | none => none
  | some device =>
    match device.read lba (max device.blockSize 1) with
    | .ok block => some block.toList
    | .error _ => none

/-- The table of the disk with a number: that of the last volume at its start. -/
def tableOfDisk? (volumes : List Volume) (disk : Nat) : Option MbrTable :=
  (volumes.reverse.find? fun v => v.device == some disk && v.blockOffset == 0).bind (·.mbrTable)

/-- The sum of the bytes of a first sector. -/
def sectorSum (block : List UInt8) : Nat :=
  (block.take 512).foldl (fun sum b => sum + b.toNat) 0

/-- The place of the first entry that describes a volume of `size` blocks. It has that size, and the
block it starts with on the disk, which `direct` reads, is the first block of the volume, `own`. The
search ends where a block cannot be read. -/
def matchEntry? (size : Nat) (own : Option (List UInt8)) (direct : Nat → Option (List UInt8)) :
    Nat → List MbrEntry → Option Nat
  | _, [] => none
  | place, entry :: rest =>
    if entry.size.toNat ≠ size then matchEntry? size own direct (place + 1) rest
    else
      match own, direct entry.startLba.toNat with
      | some block, some onDisk =>
        if block = onDisk ∧ minSectorSum ≤ sectorSum block then some place
        else matchEntry? size own direct (place + 1) rest
      | _, _ => none

/-- The entry in the table of its disk that describes a volume, if there is one. -/
def mbrPlace? (devices : List Device) (volumes : List Volume) (v : Volume) : Option Nat := do
  let number ← v.device
  let disk ← v.wholeDisk
  if number = disk then none
  let table ← tableOfDisk? volumes disk
  let device ← devices[number]?
  matchEntry? device.blockCount (readBlock? devices number v.blockOffset)
    (readBlock? devices disk) 0 table.toList

/-- Takes up the entry that describes a volume. -/
def withMbrPlace (devices : List Device) (volumes : List Volume) (v : Volume) : Volume :=
  match mbrPlace? devices volumes v with
  | some place =>
    { v with
      isMbrPartition := true
      mbrPartitionIndex := place
      name? := some (v.name?.getD ("Partition " ++ toString (place + 1))) }
  | none => v

/-- Relates volumes to each other. The partitions inside of extended ones come after them, disk by
disk. These are neither disks nor described by the table of one. -/
def relate (devices : List Device) (options : ScanOptions) (volumes : List Volume) :
    Logged (List Volume) := do
  let logical ← volumes.mapM (logicalPartitions devices options)
  pure (volumes.map (withMbrPlace devices volumes) ++ logical.flatten)

end BootManager.Volume
