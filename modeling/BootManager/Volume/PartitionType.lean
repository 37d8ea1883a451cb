import BootManager.Volume.Basic

/-!
# Types of partitions

The identifiers that partition tables give to kinds of partitions.
-/

namespace BootManager

/-- The machine that the boot manager was built for. -/
inductive Architecture where
  | ia32
  | x64
  | aa64
  | other
  deriving DecidableEq, Repr

/-- The part of file names that tells machines apart. -/
def Architecture.suffix : Architecture → Option String
  | ia32 => some "ia32"
  | x64 => some "x64"
  | aa64 => some "aa64"
  | other => none

namespace PartitionType

/-- A partition that firmware loads boot managers from. -/
def esp : Guid := ⟨0xC12A7328F81F11D2BA4B00A0C93EC93B#128⟩

def hfs : Guid := ⟨0x48465300000011AAAA1100306543ECAC#128⟩

def apfs : Guid := ⟨0x7C3457EF000011AAAA1100306543ECAC#128⟩

def recoveryHd : Guid := ⟨0x426F6F74000011AAAA1100306543ECAC#128⟩

def appleRaidOnline : Guid := ⟨0x52414944000011AAAA1100306543ECAC#128⟩

def appleRaidOffline : Guid := ⟨0x524149445F4F11AAAA1100306543ECAC#128⟩

def coreStorage : Guid := ⟨0x53746F72616711AAAA1100306543ECAC#128⟩

def appleTvRecovery : Guid := ⟨0x5265636F766511AAAA1100306543ECAC#128⟩

def linux : Guid := ⟨0x0FC63DAF848347728E793D69D8477DE4#128⟩

def microsoftReserved : Guid := ⟨0xE3C9E3160B5C4DB8817DF92DF00215AE#128⟩

/-- What stands for the missing identifier of a partition in a master boot record. -/
def mbrPlaceholder : Guid := ⟨0x92A6C61F713049B9B05C8D7E7B039127#128⟩

/-- The attribute of a partition that is not to be mounted unasked. -/
def noAutoBit : Nat := 63

/-- The attribute of a partition that is not to be written to. -/
def readOnlyBit : Nat := 60

/-- The type of a root partition of Linux that needs no configuration to be found. -/
def discoverableRoot : Architecture → Option Guid
  | .ia32 => some ⟨0x44479540F29741B29AF7D131D5F0458A#128⟩
  | .x64 => some ⟨0x4F68BCE3E8CD4DB196E7FBCAF984B709#128⟩
  | .aa64 => some ⟨0xB921B0451DF041C3AF444C6F280D3FAE#128⟩
  | .other => none

/-- The types that tell what a volume is even if its filesystem cannot be read, with its name. -/
def names : List (Guid × String) :=
  [(appleRaidOnline, "Apple Raid Partition (Online)"),
    (appleRaidOffline, "Apple Raid Partition (Offline)"),
    (recoveryHd, "Recovery HD"),
    (appleTvRecovery, "AppleTV Recovery Partition"),
    (coreStorage, "Fusion/FileVault Container"),
    (apfs, "APFS/FileVault Container"),
    (linux, "Linux Volume"),
    (microsoftReserved, "Microsoft Reserved Partition"),
    (hfs, "Unidentified HFS+ Volume")]

/-- The name of a volume of a type, if the type tells it. -/
def name? (partType : Guid) : Option String :=
  (names.find? fun entry => entry.1 == partType).map (·.2)

end PartitionType

/-- Whether a volume is a partition that firmware loads boot managers from. -/
def Volume.isEsp (v : Volume) : Bool :=
  v.partType == some PartitionType.esp

end BootManager
