import BootManager.Volume.Classify
import Mathlib.Data.List.Basic

/-!
# What is known of a classified volume

Whatever firmware and disk say, a volume has a name, and it is readable exactly if it starts
something or its root directory can be opened. Where older systems are not started, boot sectors are
not looked at, and firmware made by Apple starts a Windows system only if its files are there. The
main result is `classify_consistent`.
-/

namespace BootManager

/-! ## Samples -/

/-- Boot sectors are not looked at where older systems are not started. -/
theorem Sample.boot_take_of_unsupported {legacy : LegacyBoot} (unsupported : legacy = .none)
    (device : Device) (offset : Nat) (ctx : DetectContext) (hasFiles : Logged Bool) :
    (take device offset ctx legacy hasFiles).value.boot = {} := by
  unfold take
  rw [unsupported]
  cases read device offset with
  | error error => rfl
  | ok buf => rfl

namespace Volume

/-! ## Names -/

theorem orElse_ne_some {a b : Option String} {name : String} (first : a ≠ some name)
    (second : b ≠ some name) : (a <|> b) ≠ some name := by
  cases a with
  | none => exact second
  | some _ => exact first

theorem nameOfLabel?_ne_empty (v : Volume) : v.nameOfLabel? ≠ some "" := by
  unfold nameOfLabel?
  split
  next label telling =>
    have named : label ≠ "" := by simpa using (Option.filter_eq_some_iff.mp telling).2
    split
    · decide
    · exact fun none => named (Option.some.inj none)
  next => nofun

theorem nameOfPartition?_ne_empty (v : Volume) : v.nameOfPartition? ≠ some "" := by
  intro none
  have telling := (Option.filter_eq_some_iff.mp none).2
  simp at telling

theorem nameOfMedium?_ne_empty (v : Volume) : v.nameOfMedium? ≠ some "" := by
  unfold nameOfMedium?
  split
  · split
    · decide
    · decide
  · nofun

theorem partitionTypeName?_ne_empty (partType : Guid) :
    PartitionType.name? partType ≠ some "" := by
  intro none
  obtain ⟨entry, found, same⟩ := Option.map_eq_some_iff.mp none
  have all : ∀ entry ∈ PartitionType.names, entry.2 ≠ "" := by decide
  exact all entry (List.mem_of_find?_eq_some found) same

theorem nameOfFilesystem_ne_empty (v : Volume) : v.nameOfFilesystem ≠ "" := by
  have volume (text : String) : text ++ " Volume" ≠ "" :=
    fun none => absurd (String.append_eq_empty_iff.mp none).2 (by decide)
  unfold nameOfFilesystem
  split
  · exact volume _
  · decide
  · decide
  · exact volume _

/-- Every volume is shown by some name. -/
theorem displayName_ne_empty (v : Volume) : v.displayName ≠ "" := by
  have type : v.partType.bind PartitionType.name? ≠ some "" := by
    cases v.partType with
    | none => nofun
    | some partType => exact partitionTypeName?_ne_empty partType
  have known := orElse_ne_some v.nameOfLabel?_ne_empty
    (orElse_ne_some v.nameOfPartition?_ne_empty (orElse_ne_some v.nameOfMedium?_ne_empty type))
  unfold displayName
  generalize (v.nameOfLabel? <|> v.nameOfPartition? <|> v.nameOfMedium? <|>
    v.partType.bind PartitionType.name?) = name? at known ⊢
  cases name? with
  | none => exact v.nameOfFilesystem_ne_empty
  | some name => exact fun none => known (congrArg some none)

/-! ## What a device path tells -/

/-- Where a volume was found. -/
structure Site where
  handle : Option Nat
  device : Option Nat
  wholeDisk : Option Nat

/-- Where the volume was found. -/
def site (v : Volume) : Site :=
  ⟨v.handle, v.device, v.wholeDisk⟩

/-- The volume without what identifies its partition. -/
def unidentified (v : Volume) : Volume :=
  { v with
    partGuid := none
    partType := none
    partName := none
    isReadOnly := false
    isDiscoveredRoot := false }

/-- A device path identifies the partition and tells nothing else. -/
theorem unidentified_identifyNode (arch : Architecture) (gpt : Option GptEntry) (v : Volume)
    (node : PathNode) : (identifyNode arch gpt v node).unidentified = v.unidentified := by
  unfold identifyNode
  split
  · unfold identify
    split
    · dsimp only
      split
      · rfl
      · rfl
    · rfl
  · rfl
  · rfl

theorem unidentified_foldl_identifyNode (arch : Architecture) (gpt : Option GptEntry) (v : Volume)
    (path : List PathNode) :
    (path.foldl (identifyNode arch gpt) v).unidentified = v.unidentified := by
  induction path generalizing v with
  | nil => rfl
  | cons node rest ih => rw [List.foldl_cons, ih, unidentified_identifyNode]

theorem site_withFs (fs : Option VolumeFs) (v : Volume) : (withFs fs v).value.site = v.site := by
  cases fs with
  | none => rfl
  | some fs => rfl

/-! ## Classified volumes -/

section

variable (probe : Probe) (device : Device) (options : ScanOptions) (arch : Architecture)

/-- What the firmware tells about a volume, before anything is read from it. -/
def identified : Volume :=
  probe.path.foldl (identifyNode arch probe.gpt)
    { handle := probe.handle
      device := some probe.device
      wholeDisk := probe.wholeDisk
      diskKind := if device.blockSize = opticalBlockSize then .optical else .internal }

/-- What its start tells. -/
def sampled : Sample :=
  (Sample.take device 0
    { blockSize := device.blockSize
      isPartition := device.isPartition
      partType := (identified probe device arch).partType
      apfsVendorNode := probe.path.contains (.vendor PartitionType.apfs)
      appleFirmware := options.appleFirmware }
    options.legacy (hasWindowsFiles probe.fs)).value

/-- All that is told about it before its files are looked at. -/
def described : Volume :=
  let sample := sampled probe device options arch
  let v := (identified probe device arch).withSample sample
  let v := { v with
    diskKind := attachment probe.path probe.wholeDiskBlockSize v.diskKind
    hasBootCode := v.hasBootCode && (sample.boot.bootable || probe.path.contains .cdRom) }
  let v := (v.withFs probe.fs).value
  { v with name? := some v.displayName }

theorem value_classify : (classify probe device options arch).value =
    let v := ((described probe device options arch).withFiles options probe.fs).value
    { v with isReadable := v.hasBootCode || v.hasRoot } := by
  unfold classify
  rw [Logged.value_bind]
  dsimp only
  -- what is reported in between changes nothing
  exact iteInduction (motive := fun rest : Logged Volume => rest.value = _) (fun _ => rfl)
    (fun _ => rfl)

end

theorem value_hasWindowsFiles (fs : VolumeFs) :
    (hasWindowsFiles (some fs)).value =
      ((fs.holds "NTLDR").value || (fs.holds "bootmgr").value) := by
  unfold hasWindowsFiles
  rw [Logged.value_bind]
  cases (fs.holds "NTLDR").value <;> rfl

/-- Looking at files tells whether boot code counts, where that depends on them, and a role. -/
theorem value_withFiles (options : ScanOptions) (fs : Option VolumeFs) (v : Volume) :
    (v.withFiles options fs).value =
      { v with
        hasBootCode :=
          if v.needsWindowsFiles options then (hasWindowsFiles fs).value else v.hasBootCode
        role :=
          if v.fsType = .apfs then
            Role.infer v.name (fs.any fun fs => (fs.holds macosLoader).value)
          else v.role } := by
  have hasLoader : ((fs.map fun fs => VolumeFs.holds fs macosLoader).getD (pure false)).value =
      fs.any fun fs => (fs.holds macosLoader).value := by
    cases fs <;> rfl
  unfold withFiles
  by_cases asked : v.needsWindowsFiles options = true
  · by_cases apfs : v.fsType = .apfs
    · simp [asked, apfs, hasLoader]
    · simp [asked, apfs]
  · by_cases apfs : v.fsType = .apfs
    · simp [asked, apfs, hasLoader]
    · simp [asked, apfs]

theorem site_described (probe : Probe) (device : Device) (options : ScanOptions)
    (arch : Architecture) : (described probe device options arch).site =
      ⟨probe.handle, some probe.device, probe.wholeDisk⟩ := by
  refine (site_withFs probe.fs _).trans ?_
  exact congrArg site (unidentified_foldl_identifyNode arch probe.gpt _ probe.path)

/-- What is known of a classified volume. -/
structure Classified (probe : Probe) (options : ScanOptions) (v : Volume) : Prop where
  site_eq : v.site = ⟨probe.handle, some probe.device, probe.wholeDisk⟩
  named : v.name ≠ ""
  isReadable_eq : v.isReadable = (v.hasBootCode || v.hasRoot)
  /-- Where older systems are not started, nothing is taken from boot sectors. -/
  unsupported : options.legacy = .none → v.hasBootCode = false ∧ v.mbrTable = none

theorem classify_classified (probe : Probe) (device : Device) (options : ScanOptions)
    (arch : Architecture) :
    Classified probe options (classify probe device options arch).value := by
  rw [value_classify, value_withFiles]
  refine ⟨site_described probe device options arch, displayName_ne_empty _, rfl,
    fun unsupported => ?_⟩
  have start : (sampled probe device options arch).boot = {} :=
    Sample.boot_take_of_unsupported unsupported _ _ _ _
  have plain : (described probe device options arch).needsWindowsFiles options = false := by
    simp [needsWindowsFiles, unsupported]
  have code : (described probe device options arch).hasBootCode = false ∧
      (described probe device options arch).mbrTable = none := by
    unfold described
    cases probe.fs with
    | none => simp [withFs, withSample, start]
    | some fs => simp [withFs, withSample, start]
  dsimp only
  rw [plain, if_neg Bool.false_ne_true]
  exact code

/-! ## Files and roles -/

section

variable (probe : Probe) (device : Device) (options : ScanOptions) (arch : Architecture)

theorem hasRoot_described :
    (described probe device options arch).hasRoot = probe.fs.isSome := by
  have unread : (identified probe device arch).hasRoot = false :=
    congrArg hasRoot (unidentified_foldl_identifyNode arch probe.gpt _ probe.path)
  unfold described
  cases probe.fs with
  | none => exact unread
  | some fs => rfl

theorem role_described : (described probe device options arch).role = .undefined := by
  have begun : (identified probe device arch).role = .undefined :=
    congrArg role (unidentified_foldl_identifyNode arch probe.gpt _ probe.path)
  unfold described
  cases probe.fs with
  | none => exact begun
  | some fs => exact begun

end

/-- A filesystem has one of the files that start a Windows system without the firmware's help. -/
def HoldsWindowsFiles (fs : VolumeFs) : Prop :=
  (fs.holds "NTLDR").value = true ∨ (fs.holds "bootmgr").value = true

/-- What a classified volume says of itself agrees with what was found. -/
structure Consistent (probe : Probe) (options : ScanOptions) (v : Volume) : Prop extends
    Classified probe options v where
  hasRoot_eq : v.hasRoot = probe.fs.isSome
  /-- Only volumes of APFS have a role. -/
  role_eq : v.fsType ≠ .apfs → v.role = .undefined
  /-- Where firmware made by Apple starts older systems, boot code on NTFS counts only if the files
  are there that it starts, or cannot be looked for. -/
  windows : options.legacy = .mac → v.fsType = .ntfs → v.hasBootCode = true →
    ∀ fs, probe.fs = some fs → HoldsWindowsFiles fs

/-- Classification makes a consistent volume of whatever firmware and disk say. -/
theorem classify_consistent (probe : Probe) (device : Device) (options : ScanOptions)
    (arch : Architecture) :
    Consistent probe options (classify probe device options arch).value := by
  have classified := classify_classified probe device options arch
  rw [value_classify, value_withFiles] at classified ⊢
  refine ⟨classified, ?_, ?_, ?_⟩
  · exact hasRoot_described probe device options arch
  · intro other
    exact (if_neg other).trans (role_described probe device options arch)
  · intro mac ntfs code fs mounted
    let v := described probe device options arch
    have readable : v.hasRoot = true := by
      rw [hasRoot_described, mounted]
      rfl
    -- Boot code that was found in the first place is asked about once more.
    have looked : (hasWindowsFiles probe.fs).value = true := by
      by_cases asked : v.needsWindowsFiles options = true
      · exact (if_pos asked).symm.trans code
      · have found : v.hasBootCode = true := (if_neg asked).symm.trans code
        refine absurd ?_ asked
        simp [needsWindowsFiles, readable, mac, found, show v.fsType = .ntfs from ntfs]
    rw [mounted, value_hasWindowsFiles, Bool.or_eq_true] at looked
    exact looked

end Volume

end BootManager
