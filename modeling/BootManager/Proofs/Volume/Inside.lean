import BootManager.Proofs.Volume.ExtendedChain
import BootManager.Volume.Relate
import Mathlib.Algebra.Order.BigOperators.Group.List
import Mathlib.Algebra.Order.Group.Nat

/-!
# What is found inside of extended partitions

The partitions that the chains of a disk describe become volumes of their own. They lie on the
device of the disk, behind its start, and have no table, so they are no disks themselves.
-/

namespace BootManager

namespace ExtendedChain

variable {device : Device} {base : Nat}

/-- A chain never leads in front of where it starts, and it starts nowhere at block 0. -/
theorem pos_of_block? {i block : Nat} (there : block? device base i = some block) :
    0 < base ∧ base ≤ block := by
  induction i generalizing block with
  | zero =>
    rw [block?] at there
    split at there
    · cases there
    · obtain rfl := Option.some.inj there
      omega
  | succ i ih =>
    obtain ⟨before, -, link, linked, -, -, rfl⟩ := exists_of_block?_succ there
    have start := (ih linked).1
    omega

theorem exists_collected (device : Device) (entry : MbrEntry) :
    ∃ count ≤ ChainWalk.maxLinks, ((ChainWalk.start entry).collect device).value.partitions =
      partitions device entry.startLba.toNat count := by
  obtain ⟨count, follows, collected⟩ := collect_of_reached (reached_start device entry)
  exact ⟨count, follows.limited, congrArg (·.partitions) collected⟩

theorem offset_pos {entry : MbrEntry} {partition : LogicalPartition}
    (member : partition ∈ ((ChainWalk.start entry).collect device).value.partitions) :
    0 < partition.offset := by
  obtain ⟨count, -, collected⟩ := exists_collected device entry
  rw [collected] at member
  obtain ⟨k, lt, rfl⟩ := List.mem_mapIdx.mp member
  obtain ⟨i, block, there, link, same⟩ := exists_of_mem_describedBefore (List.getElem_mem lt)
  have start := pos_of_block? there
  rw [same]
  dsimp only
  omega

theorem length_collect_le (device : Device) (entry : MbrEntry) :
    ((ChainWalk.start entry).collect device).value.partitions.length ≤ 385 := by
  obtain ⟨count, limited, collected⟩ := exists_collected device entry
  have few := (length_describedBefore_le device entry.startLba.toNat count).1
  have links : ChainWalk.maxLinks = 128 := rfl
  rw [collected, partitions, List.length_mapIdx]
  omega

end ExtendedChain

namespace Volume

variable {devices : List Device} {options : ScanOptions}

/-! ## The extended partitions of one disk -/

theorem diskTable?_eq_some_iff {v : Volume} {table : MbrTable} :
    v.diskTable? = some table ↔ ∃ number, v.device = some number ∧ v.wholeDisk = some number ∧
      v.blockOffset = 0 ∧ v.mbrTable = some table := by
  unfold diskTable?
  constructor
  · intro known
    split at known
    next whole =>
      obtain ⟨there, same, first⟩ := whole
      obtain ⟨number, device⟩ := Option.isSome_iff_exists.mp there
      exact ⟨number, device, same.symm.trans device, first, known⟩
    next => cases known
  · rintro ⟨number, device, disk, first, table⟩
    rw [if_pos ⟨Option.isSome_of_eq_some device, device.trans disk.symm, first⟩, table]

section

variable {disk : Volume} {entry : MbrEntry} {table : MbrTable}

theorem value_scanExtended_of_none
    (missing : (disk.device.bind fun number => devices[number]?) = none) :
    (scanExtended devices options disk entry).value = [] := by
  rw [scanExtended, missing, Logged.value_pure]

theorem value_scanExtended {device : Device}
    (there : (disk.device.bind fun number => devices[number]?) = some device) :
    (scanExtended devices options disk entry).value =
      ((ChainWalk.start entry).collect device).value.partitions.map
        fun partition => (classifyLogical disk partition device options).value := by
  unfold scanExtended
  rw [there]
  simp only [Logged.value_bind]
  cases ((ChainWalk.start entry).collect device).value.error with
  | none => simp
  | some error => simp

theorem value_logicalPartitions_of_none (plain : disk.diskTable? = none) :
    (disk.logicalPartitions devices options).value = [] := by
  rw [logicalPartitions, plain, Logged.value_pure]

theorem value_logicalPartitions (known : disk.diskTable? = some table) :
    (disk.logicalPartitions devices options).value =
      (table.toList.filter MbrEntry.isExtended).flatMap
        fun entry => (scanExtended devices options disk entry).value := by
  rw [logicalPartitions, known]
  simp [List.flatMap_def]

theorem mem_scanExtended {w : Volume} :
    w ∈ (scanExtended devices options disk entry).value ↔
      ∃ device, (disk.device.bind fun number => devices[number]?) = some device ∧
        ∃ partition ∈ ((ChainWalk.start entry).collect device).value.partitions,
          (classifyLogical disk partition device options).value = w := by
  cases there : disk.device.bind fun number => devices[number]? with
  | none => simp [value_scanExtended_of_none there]
  | some device => simp [value_scanExtended there]

theorem mem_logicalPartitions {w : Volume} :
    w ∈ (disk.logicalPartitions devices options).value ↔
      ∃ table, disk.diskTable? = some table ∧ ∃ entry ∈ table.toList, entry.isExtended = true ∧
        w ∈ (scanExtended devices options disk entry).value := by
  cases known : disk.diskTable? with
  | none => simp [value_logicalPartitions_of_none known]
  | some table => simp [value_logicalPartitions known, and_assoc]

end

theorem length_scanExtended_le (disk : Volume) (entry : MbrEntry) :
    (scanExtended devices options disk entry).value.length ≤ 385 := by
  cases there : disk.device.bind fun number => devices[number]? with
  | none =>
    rw [value_scanExtended_of_none there]
    exact Nat.zero_le 385
  | some device =>
    rw [value_scanExtended there, List.length_map]
    exact ExtendedChain.length_collect_le device entry

theorem length_logicalPartitions_le (v : Volume) :
    (v.logicalPartitions devices options).value.length ≤ 4 * 385 := by
  cases known : v.diskTable? with
  | none =>
    rw [value_logicalPartitions_of_none known]
    exact Nat.zero_le _
  | some table =>
    let sizes := (table.toList.filter MbrEntry.isExtended).map
      fun entry => (scanExtended devices options v entry).value.length
    have four : sizes.length ≤ 4 := by
      have shorter := List.length_filter_le MbrEntry.isExtended table.toList
      rwa [Vector.length_toList, ← List.length_map] at shorter
    have each : ∀ size ∈ sizes, size ≤ 385 := by
      intro size member
      obtain ⟨entry, -, rfl⟩ := List.mem_map.mp member
      exact length_scanExtended_le v entry
    calc (v.logicalPartitions devices options).value.length
        = sizes.sum := by rw [value_logicalPartitions known, List.length_flatMap]
      _ ≤ sizes.length • 385 := List.sum_le_card_nsmul sizes 385 each
      _ ≤ 4 * 385 := Nat.mul_le_mul_right 385 four

/-! ## What is known of what is found -/

/-- What is known of a volume that was found inside of an extended partition of a disk. -/
structure IsInside (disk w : Volume) : Prop where
  device : w.device = disk.device
  wholeDisk : w.wholeDisk = disk.device
  blockOffset : 0 < w.blockOffset
  mbrTable : w.mbrTable = none
  isMbrPartition : w.isMbrPartition = true
  isReadable : w.isReadable = w.hasBootCode

theorem isInside_of_mem_scanExtended {disk w : Volume} {entry : MbrEntry}
    (member : w ∈ (scanExtended devices options disk entry).value) : IsInside disk w := by
  obtain ⟨device, -, partition, found, rfl⟩ := mem_scanExtended.mp member
  have first : 0 < partition.offset := ExtendedChain.offset_pos found
  exact ⟨rfl, rfl, first, rfl, rfl, rfl⟩

theorem isInside_of_mem_logicalPartitions {disk w : Volume}
    (member : w ∈ (disk.logicalPartitions devices options).value) : IsInside disk w := by
  obtain ⟨-, -, entry, -, -, member⟩ := mem_logicalPartitions.mp member
  exact isInside_of_mem_scanExtended member

namespace IsInside

variable {disk w : Volume} (inside : IsInside disk w)

include inside

theorem diskTable?_eq_none : w.diskTable? = none := by
  refine Option.eq_none_iff_forall_ne_some.mpr fun table known => ?_
  obtain ⟨-, -, -, first, -⟩ := diskTable?_eq_some_iff.mp known
  exact Nat.ne_of_gt inside.blockOffset first

theorem logicalPartitions_eq : w.logicalPartitions devices options = pure [] := by
  rw [logicalPartitions, inside.diskTable?_eq_none]

/-- It is its own disk, as far as an entry is looked up for it. -/
theorem withMbrPlace_eq (volumes : List Volume) : w.withMbrPlace devices volumes = w := by
  have nowhere : mbrPlace? devices volumes w = none := by
    unfold mbrPlace?
    rw [inside.device, inside.wholeDisk]
    cases disk.device with
    | none => rfl
    | some number => simp
  rw [withMbrPlace, nowhere]

end IsInside

/-! ## All disks -/

/-- The partitions inside of the extended ones of all disks. -/
def inside (devices : List Device) (options : ScanOptions) (volumes : List Volume) : List Volume :=
  volumes.flatMap fun v => (v.logicalPartitions devices options).value

/-- What is inside of the extended partitions of all disks: the partitions of their chains, each
told from its boot code. -/
theorem mem_inside {volumes : List Volume} {w : Volume} :
    w ∈ inside devices options volumes ↔
      ∃ disk ∈ volumes, ∃ table, disk.diskTable? = some table ∧
        ∃ entry ∈ table.toList, entry.isExtended = true ∧
          ∃ device, (disk.device.bind fun number => devices[number]?) = some device ∧
            ∃ partition ∈ ((ChainWalk.start entry).collect device).value.partitions,
              (classifyLogical disk partition device options).value = w := by
  simp only [inside, List.mem_flatMap, mem_logicalPartitions, mem_scanExtended]

theorem exists_disk_of_mem_inside {volumes : List Volume} {w : Volume}
    (member : w ∈ inside devices options volumes) : ∃ disk ∈ volumes, IsInside disk w := by
  obtain ⟨disk, known, member⟩ := List.mem_flatMap.mp member
  exact ⟨disk, known, isInside_of_mem_logicalPartitions member⟩

theorem value_relate (volumes : List Volume) : (relate devices options volumes).value =
    volumes.map (withMbrPlace devices volumes) ++ inside devices options volumes := by
  simp only [relate, Logged.value_bind, Logged.value_pure, Logged.value_mapM, inside,
    List.flatMap_def]

end Volume

end BootManager
