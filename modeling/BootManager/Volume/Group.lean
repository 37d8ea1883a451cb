import BootManager.Log
import BootManager.Text.Ascii
import BootManager.Volume.Name

/-!
# Volumes that belong together

A system on APFS is spread over volumes of one container. They are grouped by their roles, and the
volumes of one system get the name of its system volume.
-/

namespace BootManager.Volume

/-- A group of volumes. -/
inductive Group where
  | recovery
  /-- Volumes that hold nothing to start. -/
  | skipped
  | preboot
  | system
  | data
  /-- Recovery partitions from before APFS. -/
  | hfsRecovery
  deriving DecidableEq, Repr

/-- The group of a role. -/
def Group.ofRole? : Role → Option Group
  | .recovery => some recovery
  | .preboot => some preboot
  | .system => some system
  | .data => some data
  | .vm | .update | .baseband | .xart | .hardware => some skipped
  | _ => none

/-- The group of a volume, if it is in one. -/
def group? (v : Volume) : Option Group :=
  if v.fsType = .hfsPlus ∧ v.partType = some PartitionType.recoveryHd then some .hfsRecovery
  else if v.fsType = .apfs then Group.ofRole? v.role
  else none

/-- The places of the volumes of a group, in order. -/
def places (volumes : List Volume) (group : Group) : List Nat :=
  (volumes.zipIdx.filter fun (v, _) => v.group? == some group).map (·.2)

/-- The volumes of a group, in order. -/
def members (volumes : List Volume) (group : Group) : List Volume :=
  volumes.filter fun v => v.group? == some group

/-- The places of the volumes of every group. -/
structure RoleLists where
  recovery : List Nat
  skipped : List Nat
  preboot : List Nat
  system : List Nat
  data : List Nat
  hfsRecovery : List Nat
  deriving DecidableEq, Repr

/-- Puts every volume into the list of its group. -/
def RoleLists.collect (volumes : List Volume) : RoleLists where
  recovery := places volumes .recovery
  skipped := places volumes .skipped
  preboot := places volumes .preboot
  system := places volumes .system
  data := places volumes .data
  hfsRecovery := places volumes .hfsRecovery

/-- Whether a volume says which container it is in. -/
def hasContainer (v : Volume) : Bool :=
  match v.partGuid with
  | some guid => guid.bits != 0
  | none => false

/-- Whether every volume that belongs to others says which container it is in. -/
def groupsAreValid (volumes : List Volume) : Bool :=
  [Group.system, .data, .preboot].all fun group => (members volumes group).all hasContainer

/-- Whether a volume counts as a system in the container of another volume. -/
def isInstanceBeside (preboot v : Volume) : Bool :=
  v.fsType == .apfs && (v.role == .system || v.role == .undefined) && v.partGuid.isSome &&
    v.partGuid == preboot.partGuid && v.name != ""

/-- Whether the container of each of these volumes holds one system at most. -/
def holdOneSystem (volumes : List Volume) : List Volume → Logged Bool
  | [] => pure true
  | preboot :: rest =>
    let instances := volumes.countP (isInstanceBeside preboot)
    if instances ≤ 1 then holdOneSystem volumes rest
    else do
      Logged.info s!"APFS container holds {instances} macOS installs"
      pure false

/-- Whether every container holds one system at most. -/
def groupsAreSingle (volumes : List Volume) : Logged Bool :=
  holdOneSystem volumes (members volumes .preboot)

/-- What the name of a data volume ends in. -/
def dataSuffix : String := " - Data"

/-- What the name of a data volume that is renamed has in it. -/
def dataMark : String := "- Data"

/-- A system volume with the name that the volumes beside it get. -/
structure NamedSystem where
  name : String
  partGuid : Option Guid
  deriving DecidableEq, Repr

/-- The system volumes that have a name. -/
def namedSystems (volumes : List Volume) : List NamedSystem :=
  ((members volumes .system).map fun v => ⟨sanitize v.name, v.partGuid⟩).filter (·.name != "")

/-- Gives a data volume the name of the system that its own name is made of. -/
def renameData (systems : List NamedSystem) (v : Volume) : Logged Volume :=
  let name := v.name
  if v.group? = some .data ∧ Text.containsRun dataMark.toList name.toList = true then
    match systems.find? fun system => system.name ++ dataSuffix == name with
    | some system => do
      let newName := system.name
      Logged.debug s!"Mapped \"{name}\" to \"{newName}\""
      pure { v with name? := some newName }
    | none => pure v
  else pure v

/-- Gives a preboot volume the name of the system in its container. -/
def renamePreboot (systems : List NamedSystem) (v : Volume) : Logged Volume :=
  if v.group? = some .preboot ∧ v.partGuid.isSome then
    match systems.find? fun system => system.partGuid == v.partGuid with
    | some system => do
      let newName := system.name
      Logged.debug s!"Mapped Preboot to \"{newName}\""
      pure { v with name? := some newName }
    | none => pure v
  else pure v

/-- Gives the volumes of each system one name. Preboot volumes keep theirs unless `single` says that
every container holds one system at most. -/
def unifyNames (single : Bool) (volumes : List Volume) : Logged (List Volume) := do
  let systems := namedSystems volumes
  let volumes ← volumes.mapM (renameData systems)
  if single then volumes.mapM (renamePreboot systems) else pure volumes

end BootManager.Volume
