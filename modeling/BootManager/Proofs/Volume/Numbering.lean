import BootManager.Proofs.Volume.OfferedOnce
import BootManager.Proofs.Volume.Sweep
import Mathlib.Data.List.Nodup

/-!
# The numbers of logical partitions

The partitions inside of an extended one are numbered from 4 on, as they come in its chain, and are
named after their numbers. The numbers start anew in every extended partition of a disk, so they
collide exactly if more than one of them holds any partition. The main result is
`Volume.logicalPartitions_numberingLaw`.
-/

namespace BootManager

namespace ExtendedChain

theorem index_partitions (device : Device) (base count : Nat) :
    (partitions device base count).map (·.index) =
      List.range' ChainWalk.firstIndex (partitions device base count).length := by
  apply List.ext_getElem
  · rw [List.length_map, List.length_range']
  · intro k lt lt'
    rw [List.getElem_map, List.getElem_range', Nat.one_mul]
    simp [partitions, ChainWalk.firstIndex]

end ExtendedChain

namespace Volume

open ChainWalk (firstIndex)

/-- Whether partitions are numbered as they come, from 4 on. -/
def IsNumbered (found : List Volume) : Prop :=
  found.map (·.mbrPartitionIndex) = List.range' firstIndex found.length

/-- The extended partitions of a disk that hold any partition. -/
def holders (devices : List Device) (options : ScanOptions) (disk : Volume) : List MbrEntry :=
  (disk.diskTable?.toList.flatMap fun table => table.toList.filter MbrEntry.isExtended).filter
    fun entry => !(scanExtended devices options disk entry).value.isEmpty

/-- The name of a partition that has none but a number. -/
def numberName (number : Nat) : String :=
  "Partition " ++ toString (number + 1)

variable {devices : List Device} {options : ScanOptions} {disk : Volume}

theorem numberName_injective : Function.Injective numberName := by
  intro m n same
  have written : toString (m + 1) = toString (n + 1) := (String.append_right_inj _).mp same
  rw [Nat.toString_eq_ofList_toDigits, Nat.toString_eq_ofList_toDigits] at written
  have digits : Nat.toDigits 10 (m + 1) = Nat.toDigits 10 (n + 1) := by
    simpa using congrArg String.toList written
  have read := congrArg (fun digits => Nat.ofDigitChars 10 digits 0) digits
  simp only [Nat.ofDigitChars_ten_toDigits] at read
  exact Nat.succ.inj read

/-! ## One extended partition -/

theorem isNumbered_scanExtended (disk : Volume) (entry : MbrEntry) :
    IsNumbered (scanExtended devices options disk entry).value := by
  unfold IsNumbered
  cases there : disk.device.bind fun number => devices[number]? with
  | none =>
    rw [value_scanExtended_of_none there]
    rfl
  | some device =>
    obtain ⟨count, -, collected⟩ := ExtendedChain.exists_collected device entry
    rw [value_scanExtended there, List.length_map, List.map_map, collected]
    exact ExtendedChain.index_partitions device entry.startLba.toNat count

theorem name?_of_mem_logicalPartitions {w : Volume}
    (member : w ∈ (disk.logicalPartitions devices options).value) :
    w.name? = some (numberName w.mbrPartitionIndex) := by
  obtain ⟨-, -, entry, -, -, member⟩ := mem_logicalPartitions.mp member
  obtain ⟨device, -, partition, -, rfl⟩ := mem_scanExtended.mp member
  rfl

/-! ## All extended partitions of a disk -/

theorem flatMap_filter_nonempty {α β : Type} (f : α → List β) (l : List α) :
    (l.filter fun a => !(f a).isEmpty).flatMap f = l.flatMap f := by
  induction l with
  | nil => rfl
  | cons a rest ih =>
    cases holds : f a with
    | nil => simp [holds, ih]
    | cons b more => simp [holds, ih]

theorem value_logicalPartitions_holders (disk : Volume) :
    (disk.logicalPartitions devices options).value = (holders devices options disk).flatMap
      fun entry => (scanExtended devices options disk entry).value := by
  rw [holders, flatMap_filter_nonempty]
  cases known : disk.diskTable? with
  | none => simp [value_logicalPartitions_of_none known]
  | some table => simp [value_logicalPartitions known]

theorem numbers_logicalPartitions (disk : Volume) :
    (disk.logicalPartitions devices options).value.map (·.mbrPartitionIndex) =
      (holders devices options disk).flatMap fun entry =>
        List.range' firstIndex (scanExtended devices options disk entry).value.length := by
  rw [value_logicalPartitions_holders, List.map_flatMap]
  congr 1
  funext entry
  exact isNumbered_scanExtended disk entry

theorem isNumbered_of_length_le (alone : (holders devices options disk).length ≤ 1) :
    IsNumbered (disk.logicalPartitions devices options).value := by
  rw [value_logicalPartitions_holders]
  match holders devices options disk, alone with
  | [], _ => rfl
  | [entry], _ =>
    rw [List.flatMap_singleton]
    exact isNumbered_scanExtended disk entry

/-- The first partitions of two extended ones have the same number. -/
theorem length_le_of_nodup
    (apart : ((disk.logicalPartitions devices options).value.map (·.mbrPartitionIndex)).Nodup) :
    (holders devices options disk).length ≤ 1 := by
  have first (entry : MbrEntry) (holds : entry ∈ holders devices options disk) :
      firstIndex ∈
        List.range' firstIndex (scanExtended devices options disk entry).value.length := by
    have some : (scanExtended devices options disk entry).value ≠ [] := by
      simpa using (List.mem_filter.mp holds).2
    have pos := List.length_pos_iff.mpr some
    rw [List.mem_range'_1]
    omega
  rw [numbers_logicalPartitions] at apart
  match holders devices options disk, first, apart with
  | [], _, _ => exact Nat.zero_le 1
  | [entry], _, _ => exact Nat.le_refl 1
  | entry :: other :: rest, first, apart =>
    rw [List.flatMap_cons, List.flatMap_cons] at apart
    have here := first entry List.mem_cons_self
    have there := first other (List.mem_cons_of_mem _ List.mem_cons_self)
    exact absurd (List.mem_append_left _ there) (List.disjoint_of_nodup_append apart here)

theorem IsNumbered.nodup {found : List Volume} (numbered : IsNumbered found) :
    (found.map (·.mbrPartitionIndex)).Nodup := by
  rw [numbered]
  exact List.nodup_range'

theorem nodup_names_iff :
    ((disk.logicalPartitions devices options).value.map (·.name?)).Nodup ↔
      ((disk.logicalPartitions devices options).value.map (·.mbrPartitionIndex)).Nodup := by
  have names : (disk.logicalPartitions devices options).value.map (·.name?) =
      ((disk.logicalPartitions devices options).value.map (·.mbrPartitionIndex)).map
        (some ∘ numberName) := by
    rw [List.map_map]
    exact List.map_congr_left fun w member => name?_of_mem_logicalPartitions member
  have injective : Function.Injective (some ∘ numberName) := by
    intro m n same
    exact numberName_injective (Option.some.inj same)
  rw [names, List.nodup_map_iff injective]

/-- How the partitions are numbered that are found in the extended ones of one volume of a list. -/
structure NumberingLaw (devices : List Device) (options : ScanOptions) (before : List Volume)
    (disk : Volume) (after : List Volume) : Prop where
  /-- They stand together behind all volumes of the list, in the order of the volumes. -/
  appended : (relate devices options (before ++ disk :: after)).value.drop
      (before ++ disk :: after).length =
    inside devices options before ++
      ((disk.logicalPartitions devices options).value ++ inside devices options after)
  /-- Their numbers start anew in every extended partition. -/
  numbers : (disk.logicalPartitions devices options).value.map (·.mbrPartitionIndex) =
    (holders devices options disk).flatMap fun entry =>
      List.range' firstIndex (scanExtended devices options disk entry).value.length
  /-- Their names tell the numbers. -/
  named : ∀ w ∈ (disk.logicalPartitions devices options).value,
    w.name? = some ("Partition " ++ toString (w.mbrPartitionIndex + 1))
  /-- So they are numbered as they come if no more than one extended partition holds any. -/
  numbered_iff : IsNumbered (disk.logicalPartitions devices options).value ↔
    (holders devices options disk).length ≤ 1
  /-- Otherwise numbers collide. -/
  numbers_apart_iff :
    ((disk.logicalPartitions devices options).value.map (·.mbrPartitionIndex)).Nodup ↔
      (holders devices options disk).length ≤ 1
  /-- And so do names. -/
  names_apart_iff : ((disk.logicalPartitions devices options).value.map (·.name?)).Nodup ↔
    (holders devices options disk).length ≤ 1

/-- Logical partitions are numbered from 4 on within one extended partition. On a disk with several
their numbers and names stay apart exactly if no more than one of these holds any. -/
theorem logicalPartitions_numberingLaw (devices : List Device) (options : ScanOptions)
    (before : List Volume) (disk : Volume) (after : List Volume) :
    NumberingLaw devices options before disk after := by
  have apart : ((disk.logicalPartitions devices options).value.map (·.mbrPartitionIndex)).Nodup ↔
      (holders devices options disk).length ≤ 1 :=
    ⟨length_le_of_nodup, fun alone => (isNumbered_of_length_le alone).nodup⟩
  refine ⟨?_, numbers_logicalPartitions disk, fun w => name?_of_mem_logicalPartitions, ?_, apart,
    nodup_names_iff.trans apart⟩
  · rw [drop_relate, inside, List.flatMap_append, List.flatMap_cons]
    rfl
  · constructor
    · intro numbered
      exact length_le_of_nodup numbered.nodup
    · exact isNumbered_of_length_le

/-! ## Two extended partitions -/

open VolumeSet (signedSector sectorDevice nextEntry unusedEntry legacyOptions)

/-- A disk with two extended partitions, which hold the partition after them each. -/
def twoChains : Device :=
  let table := signedSector
    (List.replicate 446 0 ++ [0, 0, 0, 0, 6, 0, 0, 0, 1, 0, 0, 0, 1, 0, 0, 0])
  sectorDevice 4 false fun
    | 1 | 3 => table
    | _ => List.replicate 512 0

def laterEntry : MbrEntry :=
  { nextEntry 5 2 with startLba := 3 }

def twoChainsTable : MbrTable :=
  #v[nextEntry 5 2, laterEntry, unusedEntry, unusedEntry]

def twoChainsDisk : Volume :=
  { device := some 0, wholeDisk := some 0, mbrTable := some twoChainsTable }

/-- Both partitions get the number 4, and a name that tells it. -/
theorem twoChains_not_numbered :
    let found := (relate [twoChains] legacyOptions [twoChainsDisk]).value.drop 1
    ¬IsNumbered found ∧ ¬(found.map (·.mbrPartitionIndex)).Nodup ∧
      ¬(found.map (·.name?)).Nodup := by
  intro found
  have whole : found = (twoChainsDisk.logicalPartitions [twoChains] legacyOptions).value := by
    have drop := drop_relate [twoChains] legacyOptions [twoChainsDisk]
    rwa [inside, List.flatMap_singleton] at drop
  have one (entry : MbrEntry)
      (single : ((ChainWalk.start entry).collect twoChains).value.partitions.length = 1) :
      (scanExtended [twoChains] legacyOptions twoChainsDisk entry).value.map
        (·.mbrPartitionIndex) = [4] := by
    have there : (twoChainsDisk.device.bind fun number => [twoChains][number]?) = some twoChains :=
      rfl
    rw [isNumbered_scanExtended twoChainsDisk entry, value_scanExtended there, List.length_map,
      single]
    rfl
  have numbers : found.map (·.mbrPartitionIndex) = [4, 4] := by
    have known : twoChainsDisk.diskTable? = some twoChainsTable := rfl
    have extended : twoChainsTable.toList.filter MbrEntry.isExtended =
        [nextEntry 5 2, laterEntry] := by decide
    rw [whole, value_logicalPartitions known, extended, List.flatMap_cons, List.flatMap_singleton,
      List.map_append, one (nextEntry 5 2) (by decide +kernel), one laterEntry (by decide +kernel)]
    rfl
  have collide : ¬(found.map (·.mbrPartitionIndex)).Nodup := by
    rw [numbers]
    decide
  refine ⟨fun numbered => collide numbered.nodup, collide, fun apart => collide ?_⟩
  rw [whole] at apart ⊢
  exact nodup_names_iff.mp apart

end Volume

end BootManager
