import BootManager.Config.KernelOptions
import BootManager.Firmware.Machine
import BootManager.Firmware.Mounted
import BootManager.Volume.Set

/-!
# Loaders on volumes

The options for a loader are looked for on the volume that holds it.
-/

namespace BootManager.Firmware.Attempt

/-- Holds the filesystem of a volume, or the one that the boot manager was started from. -/
def holdVolume (set : VolumeSet) : Option Nat → Attempt Nat
  | none => holdImageFs
  | some place =>
    match (set.volumes[place]?).bind (·.handle) with
    | none => throw (.scan (.noFileSystem place))
    | some handle => do
      hold handle
      pure handle

/-- The command lines for a loader on a volume. -/
def kernelOptions (set : VolumeSet) (volume : Option Nat) (loader : String) :
    Attempt (List Config.KernelOptions) := do
  let handle ← holdVolume set volume
  releasing handle do
    let fs ← fsOf handle
    let options ← Config.KernelOptions.read fs.source loader set.root
    pure options

end BootManager.Firmware.Attempt
