import BootManager.Guid

/-!
# Volumes

A volume is a partition or a whole disk, with everything that was found out about it.
-/

namespace BootManager

/-- The kind of a filesystem, told from what stands on the disk. -/
inductive FsType where
  | unknown
  /-- A whole disk with a partition table, rather than a filesystem. -/
  | wholeDisk
  | fat
  | exFat
  | hfsPlus
  | ext2
  | ext3
  | ext4
  | reiserFs
  | btrfs
  | xfs
  | jfs
  | iso9660
  | ntfs
  | apfs
  deriving DecidableEq, Repr

/-- The display name of a kind of filesystem. -/
def FsType.name : FsType → String
  | unknown => "Unknown"
  | wholeDisk => "Whole Disk"
  | fat => "FAT"
  | exFat => "ExFAT"
  | hfsPlus => "HFS+"
  | ext2 => "Ext2"
  | ext3 => "Ext3"
  | ext4 => "Ext4"
  | reiserFs => "ReiserFS"
  | btrfs => "Btrfs"
  | xfs => "XFS"
  | jfs => "JFS"
  | iso9660 => "ISO-9660"
  | ntfs => "NTFS"
  | apfs => "APFS"

/-- Where a disk is attached. -/
inductive DiskKind where
  /-- Inside the machine. -/
  | internal
  /-- At a cable. -/
  | external
  /-- An optical drive. -/
  | optical
  /-- The network. -/
  | net
  deriving DecidableEq, Repr

/-- The display name of where a disk is attached. -/
def DiskKind.name : DiskKind → String
  | internal => "Internal"
  | external => "External"
  | optical => "Optical"
  | net => "Net"

/-- The serial number of a filesystem. Only some formats have a 16-byte identifier; it is kept with
its first byte on the disk as the highest. -/
inductive Serial where
  | none
  | uuid (bits : BitVec 128)
  | hfs (number : UInt64)
  | ntfs (number : UInt64)
  | fat (number : UInt32)
  | exFat (number : UInt32)
  deriving DecidableEq, Repr

/-- Whether a serial tells nothing, because it is missing or zero. -/
def Serial.isNull : Serial → Bool
  | none => true
  | uuid bits => bits == 0
  | hfs number => number == 0
  | ntfs number => number == 0
  | fat number => number == 0
  | exFat number => number == 0

/-- The role of a volume among those that share an APFS container. -/
inductive Role where
  | undefined
  | system
  | user
  | recovery
  | vm
  | preboot
  | installer
  | data
  | baseband
  | update
  | xart
  | hardware
  | backup
  | enterprise
  | prelogin
  | unknown
  deriving DecidableEq, Repr

/-- The number that stands for a role on the disk. -/
def Role.code : Role → Nat
  | undefined => 0x0000
  | system => 0x0001
  | user => 0x0002
  | recovery => 0x0004
  | vm => 0x0008
  | preboot => 0x0010
  | installer => 0x0020
  | data => 0x0040
  | baseband => 0x0080
  | update => 0x00C0
  | xart => 0x0100
  | hardware => 0x0140
  | backup => 0x0180
  | enterprise => 0x0240
  | prelogin => 0x02C0
  | unknown => 0xFFFF

/-- An address of a sector by cylinder, head and sector, as the three bytes that hold it. -/
structure Chs where
  head : UInt8
  sector : UInt8
  cylinder : UInt8
  deriving DecidableEq, Repr

/-- One of the four entries of a partition table in a master boot record. -/
structure MbrEntry where
  flags : UInt8
  first : Chs
  partType : UInt8
  last : Chs
  startLba : UInt32
  size : UInt32
  deriving DecidableEq, Repr

/-- The partition table of a master boot record. -/
abbrev MbrTable := Vector MbrEntry 4

/-- A partition or a whole disk. -/
structure Volume where
  /-- The number of the firmware handle it was found on; partitions inside of another have none. -/
  handle : Option Nat := none
  /-- The number of the device it is read through. -/
  device : Option Nat := none
  /-- The number of the device of the disk it lies on. -/
  wholeDisk : Option Nat := none
  /-- Its first block on `device`. -/
  blockOffset : Nat := 0
  partGuid : Option Guid := none
  partType : Option Guid := none
  serial : Serial := .none
  fsType : FsType := .unknown
  diskKind : DiskKind := .internal
  role : Role := .undefined
  /-- Whether a master boot record describes it. -/
  isMbrPartition : Bool := false
  /-- Its number among the partitions of a master boot record; logical ones start at 4. -/
  mbrPartitionIndex : Nat := 0
  /-- The name shown to the user. -/
  name? : Option String := none
  /-- The label of the filesystem. -/
  fsName : Option String := none
  /-- The name in the partition table. -/
  partName : Option String := none
  /-- Whether the root directory could be opened. -/
  hasRoot : Bool := false
  /-- Whether loaders may be looked for on it. -/
  isReadable : Bool := false
  /-- Whether the partition table marks it read-only. -/
  isReadOnly : Bool := false
  /-- Whether its boot sector starts an operating system. -/
  hasBootCode : Bool := false
  /-- Names of icons that suit its boot sector, the most specific first. -/
  osIconName : Option String := none
  /-- The operating system that its boot sector starts. -/
  osName : Option String := none
  mbrTable : Option MbrTable := none
  /-- The size of the filesystem in bytes. -/
  fsSize : Option Nat := none
  /-- Whether it is the root partition of Linux that needs no configuration to be found. -/
  isDiscoveredRoot : Bool := false
  deriving DecidableEq

namespace Volume

/-- The name shown to the user, empty if there is none. -/
def name (v : Volume) : String :=
  v.name?.getD ""

end Volume

end BootManager
