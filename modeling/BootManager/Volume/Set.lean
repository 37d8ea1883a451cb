import BootManager.Volume.Duplicate
import BootManager.Volume.Find
import BootManager.Volume.Group
import BootManager.Volume.Relate

/-!
# All volumes of a machine

The volumes that a scan found, with what they have to do with each other.
-/

namespace BootManager

/-- The result of a scan. -/
structure VolumeSet where
  /-- The volumes in the order they were found, and after them those inside of extended
  partitions. -/
  volumes : List Volume
  devices : List Device
  roles : Volume.RoleLists
  /-- Whether every container holds one system at most. -/
  singleApfs : Bool
  /-- Whether every volume that belongs to others says which container it is in. -/
  validApfs : Bool
  /-- Whether volumes that belong together got one name. -/
  apfsSynced : Bool
  /-- The place of the volume that the boot manager was started from. -/
  selfVolume : Option Nat
  /-- The place of the root partition of Linux that needs no configuration to be found. -/
  discoveredRoot : Option Nat

namespace VolumeSet

/-- No volumes. -/
def empty : VolumeSet where
  volumes := []
  devices := []
  roles := .collect []
  singleApfs := false
  validApfs := false
  apfsSynced := false
  selfVolume := none
  discoveredRoot := none

/-- How duplicates are told among the volumes of a scan. -/
def policy (options : ScanOptions) (selfVolume : Option Nat) (volumes : List Volume) :
    Volume.DuplicatePolicy where
  scanOtherEsp := options.scanOtherEsp
  selfSerial := (selfVolume.bind fun place => volumes[place]?).map (·.serial)
  selfVolume := selfVolume

/-- Gives volumes that belong together one name, if they can be told. -/
def reconcile (set : VolumeSet) : Logged VolumeSet := do
  if set.roles.preboot.isEmpty || !set.validApfs then pure set
  else
    let volumes ← Volume.unifyNames set.singleApfs set.volumes
    pure { set with volumes, apfsSynced := true }

/-- The volumes as found, with duplicates marked and partitions related to their disks. -/
def gather (volumes : List Volume) (devices : List Device) (selfVolume : Option Nat)
    (options : ScanOptions) : Logged VolumeSet := do
  let volumes ← (policy options selfVolume volumes).markAll volumes
  let volumes ← Volume.relate devices options volumes
  let singleApfs ← Volume.groupsAreSingle volumes
  pure
    { volumes
      devices
      roles := .collect volumes
      singleApfs
      validApfs := Volume.groupsAreValid volumes
      apfsSynced := false
      selfVolume
      discoveredRoot := volumes.findIdx? (·.isDiscoveredRoot) }

/-- Puts classified volumes together. -/
def assemble (volumes : List Volume) (devices : List Device) (selfVolume : Option Nat)
    (options : ScanOptions) : Logged VolumeSet := do
  let set ← gather volumes devices selfVolume options
  if options.syncApfs then
    let set ← set.reconcile
    if set.apfsSynced = false then
      Logged.debug "APFS volume groups left as found"
    pure set
  else pure set

/-- The root partition of Linux that needs no configuration to be found. -/
def root (set : VolumeSet) : Option Volume :=
  set.discoveredRoot.bind fun place => set.volumes[place]?

end VolumeSet

end BootManager
