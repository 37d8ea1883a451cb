import BootManager.Log
import BootManager.Volume.PartitionType

/-!
# Duplicate filesystems

Firmware may show one filesystem at several places. One of them is kept, and loaders are not looked
for on the others; they stay in the list, where disks and partitions are still told from them.
-/

namespace BootManager.Volume

/-- How duplicates are told. -/
structure DuplicatePolicy where
  /-- Whether boot partitions are kept although they have the serial of another volume. -/
  scanOtherEsp : Bool
  /-- The serial of the volume that the boot manager was started from. -/
  selfSerial : Option Serial
  /-- The place of that volume, which is the one to keep. -/
  selfVolume : Option Nat
  deriving DecidableEq, Repr

namespace DuplicatePolicy

/-- Whether the volume at a place has the serial of one that is kept instead; `before` are the
volumes in front of it. -/
def isDuplicate (policy : DuplicatePolicy) (before : List Volume) (place : Nat) (v : Volume) :
    Bool :=
  if v.serial.isNull then false
  else if policy.selfVolume.isSome ∧ policy.selfSerial = some v.serial then
    policy.selfVolume != some place
  else if before.all fun other => other.serial != v.serial then false
  else if policy.scanOtherEsp && v.isEsp then policy.selfSerial == some v.serial
  else true

/-- Marks the volume at a place unreadable if it is a duplicate. -/
def mark (policy : DuplicatePolicy) (before : List Volume) (place : Nat) (v : Volume) :
    Logged Volume :=
  if policy.isDuplicate before place v then do
    let name := v.name
    Logged.debug s!"Skipping duplicate volume \"{name}\""
    pure { v with isReadable := false }
  else pure v

/-- Marks every duplicate unreadable. -/
def markAll (policy : DuplicatePolicy) (volumes : List Volume) : Logged (List Volume) :=
  volumes.zipIdx.mapM fun (v, place) => policy.mark (volumes.take place) place v

end DuplicatePolicy

end BootManager.Volume
