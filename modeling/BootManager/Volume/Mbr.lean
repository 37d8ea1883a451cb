import BootManager.Volume.Basic
import BootManager.Volume.Buffer

/-!
# Master boot records

A master boot record ends in a table of four partitions. The same table stands in every link of the
chain that an extended partition holds.
-/

namespace BootManager

namespace MbrEntry

/-- Whether the flags are those of a partition, active or not. -/
def hasValidFlags (e : MbrEntry) : Bool :=
  e.flags == 0x00 || e.flags == 0x80

/-- Whether the entry describes any sectors. -/
def isUsed (e : MbrEntry) : Bool :=
  e.startLba != 0 && e.size != 0

/-- Whether a type is one of an extended partition. -/
def isExtendedType (partType : UInt8) : Bool :=
  partType == 0x05 || partType == 0x0F || partType == 0x85

/-- Whether the entry describes an extended partition. -/
def isExtended (e : MbrEntry) : Bool :=
  isExtendedType e.partType

/-- The entry that stands at a place of a buffer. -/
def ofBuffer? (buf : Array UInt8) (offset : Nat) : Option MbrEntry :=
  match Buffer.slice? buf offset 16 with
  | some [flags, h, s, c, partType, h', s', c', l₀, l₁, l₂, l₃, n₀, n₁, n₂, n₃] =>
    some
      { flags
        first := ⟨h, s, c⟩
        partType
        last := ⟨h', s', c'⟩
        startLba := UInt32.ofNat (Bytes.toNat [l₀, l₁, l₂, l₃])
        size := UInt32.ofNat (Bytes.toNat [n₀, n₁, n₂, n₃]) }
  | _ => none

end MbrEntry

namespace MbrTable

/-- Where the table stands in a sector. -/
def offset : Nat := 446

/-- The table of a sector, if the sector is long enough to have one. -/
def ofSector? (sector : Array UInt8) : Option MbrTable := do
  let a ← MbrEntry.ofBuffer? sector offset
  let b ← MbrEntry.ofBuffer? sector (offset + 16)
  let c ← MbrEntry.ofBuffer? sector (offset + 32)
  let d ← MbrEntry.ofBuffer? sector (offset + 48)
  pure #v[a, b, c, d]

/-- Whether a table describes partitions: one entry is used, and all flags are valid. Boot sectors
of filesystems have other bytes there. -/
def isPlausible (table : MbrTable) : Bool :=
  table.toList.any MbrEntry.isUsed && table.toList.all MbrEntry.hasValidFlags

/-- The table of a boot sector, if it has one. -/
def ofBootSector? (sector : Array UInt8) : Option MbrTable :=
  if Buffer.hasBootSignature sector then (ofSector? sector).filter isPlausible else none

end MbrTable

end BootManager
