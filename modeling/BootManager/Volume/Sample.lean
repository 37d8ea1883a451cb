import BootManager.Volume.BootCode
import BootManager.Volume.Device
import BootManager.Volume.Signature

/-!
# Samples of volumes

The start of a volume is read once, and both its filesystem and its boot code are told from that.
-/

namespace BootManager

/-- What was told from the start of a volume. -/
structure Sample where
  detection : Detection
  boot : BootCode

namespace Sample

/-- How many blocks a sample has: as many as fit, and no more than the device has from
`offset` on. -/
def blockCount (device : Device) (offset : Nat) : Nat :=
  min (min (device.lastBlock + 1) (UInt64.size - 1) - offset) (sampleSize / device.blockSize)

/-- Reads the start of the volume that begins at block `offset`. -/
def read (device : Device) (offset : Nat) : Except ScanError (Array UInt8) :=
  if device.blockSize = 0 ∨ device.blockSize > sampleSize then
    .error (.blockSizeTooLarge device.blockSize)
  else if blockCount device offset = 0 then .error (.readFailed .endOfMedia)
  else (device.read offset (blockCount device offset * device.blockSize)).map Vector.toArray

/-- Tells what there is at block `offset`. If that cannot be read, nothing starts there, and the
filesystem is told from its surroundings. -/
def take (device : Device) (offset : Nat) (ctx : DetectContext) (legacy : LegacyBoot)
    (hasFiles : Logged Bool) : Logged Sample :=
  match read device offset with
  | .ok buf => do
    let detection := Detection.ofBuffer buf ctx
    let boot ← BootCode.ofSector buf legacy detection.fsType hasFiles
    if boot.hasBootCode then
      let name := boot.osName.getD "unknown"
      Logged.debug s!"Found legacy boot code ({name})"
    pure ⟨detection, boot⟩
  | .error error => do
    let text := error.message
    Logged.debug s!"Could not sample volume at block {offset}: {text}"
    pure ⟨Detection.ofBuffer #[] ctx, {}⟩

end Sample

end BootManager
