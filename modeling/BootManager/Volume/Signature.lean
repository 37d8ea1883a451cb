import BootManager.Volume.Buffer
import BootManager.Volume.PartitionType

/-!
# Signatures of filesystems

The kind of a filesystem is told from bytes at fixed places near its start. The formats are tried in
a fixed order, and the first that fits decides. A buffer that is too short for a format does not fit
it.
-/

namespace BootManager

/-- How many bytes from the start of a volume are looked at. -/
def sampleSize : Nat := 69632

/-- What was told from the start of a volume. -/
structure Detection where
  fsType : FsType
  serial : Serial
  partType : Option Guid
  deriving DecidableEq, Repr

/-- What telling a filesystem depends on besides its bytes. -/
structure DetectContext where
  /-- The block size of the device. -/
  blockSize : Nat
  /-- Whether the device is a partition rather than a whole disk. -/
  isPartition : Bool
  /-- The type of the partition, if it is known. -/
  partType : Option Guid
  /-- Whether the device path tells that the volume is one of APFS. -/
  apfsVendorNode : Bool
  appleFirmware : Bool
  deriving DecidableEq, Repr

namespace Signature

open Buffer

/-- A kind of filesystem with its serial. -/
abbrev Match := FsType × Serial

/-- Where some formats keep their description. -/
def superblock : Nat := 1024

/-- Where other formats keep their description. -/
def highSuperblock : Nat := 65536

/-- The 16-byte identifier at a place. -/
def uuidAt (buf : Array UInt8) (offset : Nat) : Serial :=
  match bigNumber? buf offset 16 with
  | some n => .uuid (BitVec.ofNat 128 n)
  | none => .none

/-- A 64-bit serial at a place. -/
def serial64 (kind : UInt64 → Serial) (number : Option Nat) : Serial :=
  match number with
  | some n => kind (UInt64.ofNat n)
  | none => .none

/-- A 32-bit serial at a place. -/
def serial32 (kind : UInt32 → Serial) (number : Option Nat) : Serial :=
  match number with
  | some n => kind (UInt32.ofNat n)
  | none => .none

/-- The three generations of ext, told apart by what they use. -/
def ext? (buf : Array UInt8) : Option Match := do
  if buf.size < superblock + 100 then none
  let magic ← number? buf (superblock + 56) 2
  if magic ≠ 0xEF53 then none
  let compatible ← number? buf (superblock + 92) 4
  let incompatible ← number? buf (superblock + 96) 4
  let fsType :=
    if incompatible.testBit 6 || incompatible.testBit 9 then FsType.ext4
    else if compatible.testBit 2 then FsType.ext3
    else FsType.ext2
  pure (fsType, uuidAt buf (superblock + 104))

def reiserFs? (buf : Array UInt8) : Option Match :=
  let magic := highSuperblock + 52
  if buf.size < highSuperblock + 100 then none
  else if hasAt buf magic (ascii "ReIsErFs") || hasAt buf magic (ascii "ReIsEr2Fs") ||
      hasAt buf magic (ascii "ReIsEr3Fs") then
    some (.reiserFs, uuidAt buf (highSuperblock + 84))
  else none

def btrfs? (buf : Array UInt8) : Option Match :=
  if hasAt buf (highSuperblock + 64) (ascii "_BHRfS_M") then some (.btrfs, .none) else none

def xfs? (buf : Array UInt8) : Option Match :=
  if 512 ≤ buf.size ∧ hasAt buf 0 (ascii "XFSB") = true then some (.xfs, .none) else none

def jfs? (buf : Array UInt8) : Option Match :=
  if hasAt buf 32768 (ascii "JFS1") then some (.jfs, .none) else none

/-- HFS in its two newer forms, with the identifier that stands at the end of its notes
for finders. -/
def hfsPlus? (buf : Array UInt8) : Option Match :=
  match number? buf superblock 2 with
  | some magic =>
    if magic = 0x2B48 ∨ magic = 0x5848 then
      some (.hfsPlus, serial64 .hfs ((bigNumber? buf (superblock + 0x50 + 24) 8).filter (· != 0)))
    else none
  | none => none

/-- What a first sector with a boot signature tells: it always decides, even if it tells nothing. -/
def bootSector? (buf : Array UInt8) (ctx : DetectContext) : Option Match :=
  if buf.size < 512 ∨ hasBootSignature buf = false then none
  else if hasAt buf 3 (ascii "NTFS    ") then some (.ntfs, serial64 .ntfs (number? buf 0x48 8))
  else if hasAt buf 0x36 (ascii "FAT12   ") || hasAt buf 0x36 (ascii "FAT16   ") then
    some (.fat, serial32 .fat (number? buf 0x27 4))
  else if hasAt buf 0x52 (ascii "FAT32   ") then some (.fat, serial32 .fat (number? buf 0x43 4))
  else if hasWithin buf 512 (ascii "EXFAT") then
    some (.exFat, serial32 .exFat (number? buf 0x64 4))
  else if ctx.isPartition then some (.unknown, .none)
  else some (.wholeDisk, .none)

/-- The first format that fits. -/
def match? (buf : Array UInt8) (ctx : DetectContext) : Option Match :=
  ext? buf <|> reiserFs? buf <|> btrfs? buf <|> xfs? buf <|> jfs? buf <|> hfsPlus? buf <|>
    bootSector? buf ctx

/-- What the surroundings tell of a volume that no format fits. -/
def guess (ctx : DetectContext) : Detection :=
  if ctx.apfsVendorNode ∨ ctx.partType = some PartitionType.apfs then
    ⟨.apfs, .none, some (ctx.partType.getD PartitionType.apfs)⟩
  else if ctx.partType = some PartitionType.hfs then ⟨.hfsPlus, .none, ctx.partType⟩
  else if ctx.blockSize = 2048 then ⟨.iso9660, .none, ctx.partType⟩
  else if ctx.appleFirmware then ⟨.apfs, .none, ctx.partType⟩
  else ⟨.unknown, .none, ctx.partType⟩

end Signature

/-- Tells the filesystem of a volume from its start. -/
def Detection.ofBuffer (buf : Array UInt8) (ctx : DetectContext) : Detection :=
  match Signature.match? buf ctx with
  | some (fsType, serial) => ⟨fsType, serial, ctx.partType⟩
  | none => Signature.guess ctx

end BootManager
