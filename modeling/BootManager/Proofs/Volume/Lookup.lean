import BootManager.Proofs.Volume.OfferedOnce
import Mathlib.Algebra.BigOperators.Group.List.Basic
import Mathlib.Algebra.GroupWithZero.Nat

/-!
# Looking up a volume in the table of its disk

An entry describes a volume if it has the size of its device and starts with its first block. The
search for the first such entry ends early where an entry of that size leads to a block that cannot
be read, and it counts blocks as a 64-bit word. Apart from that it finds what it looks for. The main
result is `Volume.mbrPlace?_lookupLaw`.
-/

namespace BootManager

namespace Volume

/-! ## Places in a list -/

section

variable {α : Type} {p : α → Prop} {l : List α} {a : α} {place : Nat}

/-- Everything before a place of a list has a property. -/
def AllBefore (p : α → Prop) (l : List α) (place : Nat) : Prop :=
  ∀ j < place, ∀ a, l[j]? = some a → p a

/-- What stands at a place of a list is the first that has a property. -/
structure IsFirst (p : α → Prop) (l : List α) (place : Nat) : Prop where
  here : ∃ a, l[place]? = some a ∧ p a
  earlier : AllBefore (fun a => ¬p a) l place

theorem allBefore_zero : AllBefore p l 0 :=
  fun _ lt => absurd lt (Nat.not_lt_zero _)

theorem allBefore_cons_succ : AllBefore p (a :: l) (place + 1) ↔ p a ∧ AllBefore p l place := by
  constructor
  · intro all
    exact ⟨all 0 (Nat.succ_pos place) a rfl, fun j lt => all (j + 1) (Nat.succ_lt_succ lt)⟩
  · rintro ⟨first, others⟩ j lt b there
    cases j with
    | zero => exact Option.some.inj there ▸ first
    | succ j => exact others j (Nat.lt_of_succ_lt_succ lt) b there

theorem not_isFirst_nil : ¬IsFirst p [] place := by
  rintro ⟨⟨a, there, -⟩, -⟩
  cases there

theorem isFirst_cons_zero : IsFirst p (a :: l) 0 ↔ p a := by
  constructor
  · rintro ⟨⟨b, there, holds⟩, -⟩
    exact Option.some.inj there ▸ holds
  · intro holds
    exact ⟨⟨a, rfl, holds⟩, allBefore_zero⟩

theorem isFirst_cons_succ : IsFirst p (a :: l) (place + 1) ↔ ¬p a ∧ IsFirst p l place := by
  constructor
  · rintro ⟨here, earlier⟩
    obtain ⟨first, others⟩ := allBefore_cons_succ.mp earlier
    exact ⟨first, here, others⟩
  · rintro ⟨first, here, others⟩
    exact ⟨here, allBefore_cons_succ.mpr ⟨first, others⟩⟩

end

/-! ## The last disk with a number -/

/-- Whether a volume lies at the start of the disk with a number. -/
def IsStartOf (disk : Nat) (v : Volume) : Prop :=
  v.device = some disk ∧ v.blockOffset = 0

/-- The last volume at the start of a disk has a table. -/
def IsTableOf (volumes : List Volume) (disk : Nat) (table : MbrTable) : Prop :=
  ∃ before v after, volumes = before ++ v :: after ∧ IsStartOf disk v ∧
    (∀ w ∈ after, ¬IsStartOf disk w) ∧ v.mbrTable = some table

theorem tableOfDisk?_eq_some_iff {volumes : List Volume} {disk : Nat} {table : MbrTable} :
    tableOfDisk? volumes disk = some table ↔ IsTableOf volumes disk table := by
  have starts (v : Volume) :
      (v.device == some disk && v.blockOffset == 0) = true ↔ IsStartOf disk v := by
    simp [IsStartOf]
  rw [tableOfDisk?, Option.bind_eq_some_iff]
  constructor
  · rintro ⟨v, found, holds⟩
    obtain ⟨start, after, before, split, none⟩ := List.find?_eq_some_iff_append.mp found
    refine ⟨before.reverse, v, after.reverse, ?_, (starts v).mp start, fun w member begins => ?_,
      holds⟩
    · rw [← List.reverse_reverse volumes, split]
      simp
    · have never := none w (List.mem_reverse.mp member)
      rw [Bool.not_eq_true'] at never
      exact Bool.false_ne_true (never.symm.trans ((starts w).mpr begins))
  · rintro ⟨before, v, after, rfl, start, none, holds⟩
    refine ⟨v, List.find?_eq_some_iff_append.mpr ⟨(starts v).mpr start, after.reverse,
      before.reverse, by simp, fun w member => ?_⟩, holds⟩
    rw [Bool.not_eq_true', ← Bool.not_eq_true, starts]
    exact none w (List.mem_reverse.mp member)

/-! ## What is looked up where -/

theorem sectorSum_eq (block : List UInt8) :
    sectorSum block = ((block.take 512).map UInt8.toNat).sum := by
  rw [sectorSum, List.sum_eq_foldl, List.foldl_map]

/-- What the search for the entry of a volume goes by. -/
@[ext] structure Lookup where
  /-- The device of the volume. -/
  device : Device
  /-- The table of its disk. -/
  table : MbrTable
  /-- The first block of the volume, if it can be read. -/
  own : Option (List UInt8)
  /-- The blocks of the disk that can be read. -/
  direct : Nat → Option (List UInt8)

namespace Lookup

/-- A lookup is that of a volume, which lies on a disk with a table. -/
structure IsOf (devices : List Device) (volumes : List Volume) (v : Volume) (lookup : Lookup)
    (number disk : Nat) : Prop where
  device_eq : v.device = some number
  wholeDisk_eq : v.wholeDisk = some disk
  apart : number ≠ disk
  present : devices[number]? = some lookup.device
  table : IsTableOf volumes disk lookup.table
  own_eq : lookup.own = readBlock? devices number v.blockOffset
  direct_eq : lookup.direct = readBlock? devices disk

variable (lookup : Lookup) (size : Nat) (entry : MbrEntry)

/-- An entry describes a volume of `size` blocks: it has that size, and the block at its start is
the first block of the volume, which is not nearly empty. -/
def Describes : Prop :=
  entry.size.toNat = size ∧ ∃ block, lookup.own = some block ∧
    lookup.direct entry.startLba.toNat = some block ∧
      1000 ≤ ((block.take 512).map UInt8.toNat).sum

/-- An entry of `size` blocks starts with one that cannot be read. -/
def Stops : Prop :=
  entry.size.toNat = size ∧ lookup.direct entry.startLba.toNat = none

/-- The search comes to the first entry of a table that describes a volume of `size` blocks. -/
def Finds (place : Nat) : Prop :=
  IsFirst (lookup.Describes size) lookup.table.toList place ∧
    AllBefore (fun entry => ¬lookup.Stops size entry) lookup.table.toList place

/-- The number of blocks of the device, however many there are. -/
def blocks : Nat :=
  lookup.device.lastBlock + 1

/-- An entry that leads to a block which cannot be read stands before the one that describes the
volume. -/
def IsHidden : Prop :=
  ∃ place, IsFirst (lookup.Describes lookup.blocks) lookup.table.toList place ∧
    ¬AllBefore (fun entry => ¬lookup.Stops lookup.blocks entry) lookup.table.toList place

/-- The device has more blocks than a word counts, and an entry fits what is left of their
number. -/
def IsMiscounted : Prop :=
  UInt64.size ≤ lookup.blocks ∧ ∃ place, lookup.Finds lookup.device.blockCount place

end Lookup

/-! ## The search -/

section

variable {lookup : Lookup} {size start place : Nat} {entry : MbrEntry} {rest : List MbrEntry}

theorem search_of_unread {direct : Nat → Option (List UInt8)} (entries : List MbrEntry) :
    matchEntry? size none direct start entries = none := by
  induction entries generalizing start with
  | nil => rfl
  | cons entry rest ih =>
    unfold matchEntry?
    split
    · exact ih
    · rfl

/-- What the search does at one entry: it ends without a result, ends there or goes on. -/
theorem search_cons (lookup : Lookup) (size start : Nat) (entry : MbrEntry)
    (rest : List MbrEntry) :
    (lookup.Stops size entry ∧ ¬lookup.Describes size entry ∧
        matchEntry? size lookup.own lookup.direct start (entry :: rest) = none) ∨
      (lookup.Describes size entry ∧
        matchEntry? size lookup.own lookup.direct start (entry :: rest) = some start) ∨
      (¬lookup.Stops size entry ∧ ¬lookup.Describes size entry ∧
        matchEntry? size lookup.own lookup.direct start (entry :: rest) =
          matchEntry? size lookup.own lookup.direct (start + 1) rest) := by
  by_cases fits : entry.size.toNat = size
  · cases there : lookup.direct entry.startLba.toNat with
    | none =>
      refine .inl ⟨⟨fits, there⟩, ?_, ?_⟩
      · rintro ⟨-, _, -, direct, -⟩
        cases there.symm.trans direct
      · unfold matchEntry?
        rw [if_neg (not_not_intro fits), there]
        cases lookup.own <;> rfl
    | some onDisk =>
      have goesOn : ¬lookup.Stops size entry := by
        rintro ⟨-, direct⟩
        cases there.symm.trans direct
      cases known : lookup.own with
      | none =>
        refine .inr (.inr ⟨goesOn, ?_, ?_⟩)
        · rintro ⟨-, _, own, -⟩
          cases known.symm.trans own
        · rw [search_of_unread, search_of_unread]
      | some block =>
        have describes : lookup.Describes size entry ↔
            block = onDisk ∧ minSectorSum ≤ sectorSum block := by
          rw [Lookup.Describes, known, there, sectorSum_eq]
          simp [fits, minSectorSum, eq_comm]
        have step : matchEntry? size (some block) lookup.direct start (entry :: rest) =
            if block = onDisk ∧ minSectorSum ≤ sectorSum block then some start
            else matchEntry? size (some block) lookup.direct (start + 1) rest := by
          conv_lhs => unfold matchEntry?
          rw [if_neg (not_not_intro fits), there]
        by_cases hit : block = onDisk ∧ minSectorSum ≤ sectorSum block
        · exact .inr (.inl ⟨describes.mpr hit, step.trans (if_pos hit)⟩)
        · exact .inr (.inr ⟨goesOn, fun is => hit (describes.mp is), step.trans (if_neg hit)⟩)
  · refine .inr (.inr ⟨fun stops => fits stops.1, fun describes => fits describes.1, ?_⟩)
    conv_lhs => unfold matchEntry?
    exact if_pos fits

/-- The search comes to the first entry that describes a volume, unless it ends before. -/
theorem search_eq_some_iff {entries : List MbrEntry} :
    matchEntry? size lookup.own lookup.direct start entries = some place ↔
      ∃ i, place = start + i ∧ IsFirst (lookup.Describes size) entries i ∧
        AllBefore (fun entry => ¬lookup.Stops size entry) entries i := by
  induction entries generalizing start with
  | nil => simp [not_isFirst_nil, matchEntry?]
  | cons entry rest ih =>
    rcases search_cons lookup size start entry rest with
      ⟨stops, other, ends⟩ | ⟨describes, found⟩ | ⟨goesOn, other, next⟩
    · rw [ends]
      constructor
      · nofun
      · rintro ⟨i, -, first, reached⟩
        cases i with
        | zero => exact absurd (isFirst_cons_zero.mp first) other
        | succ i => exact absurd stops (allBefore_cons_succ.mp reached).1
    · rw [found, Option.some_inj]
      constructor
      · rintro rfl
        exact ⟨0, rfl, isFirst_cons_zero.mpr describes, allBefore_zero⟩
      · rintro ⟨i, rfl, first, -⟩
        cases i with
        | zero => rfl
        | succ i => exact absurd describes (isFirst_cons_succ.mp first).1
    · rw [next, ih]
      constructor
      · rintro ⟨i, rfl, first, reached⟩
        exact ⟨i + 1, by omega, isFirst_cons_succ.mpr ⟨other, first⟩,
          allBefore_cons_succ.mpr ⟨goesOn, reached⟩⟩
      · rintro ⟨i, rfl, first, reached⟩
        cases i with
        | zero => exact absurd (isFirst_cons_zero.mp first) other
        | succ i =>
          exact ⟨i, by omega, (isFirst_cons_succ.mp first).2, (allBefore_cons_succ.mp reached).2⟩

theorem Lookup.search_table :
    matchEntry? size lookup.own lookup.direct 0 lookup.table.toList = some place ↔
      lookup.Finds size place := by
  rw [search_eq_some_iff, Finds]
  simp

end

/-! ## Volumes -/

section

variable {devices : List Device} {volumes : List Volume} {v : Volume} {lookup : Lookup}
  {number disk place : Nat}

theorem Lookup.IsOf.mbrPlace?_eq (known : lookup.IsOf devices volumes v number disk) :
    mbrPlace? devices volumes v = matchEntry? lookup.device.blockCount lookup.own lookup.direct 0
      lookup.table.toList := by
  have table := tableOfDisk?_eq_some_iff.mpr known.table
  unfold mbrPlace?
  simp [known.device_eq, known.wholeDisk_eq, known.apart, known.present, table, known.own_eq,
    known.direct_eq]

theorem exists_isOf_of_mbrPlace? (found : mbrPlace? devices volumes v = some place) :
    ∃ lookup number disk, Lookup.IsOf devices volumes v lookup number disk := by
  unfold mbrPlace? at found
  simp only [Option.bind_eq_bind, Option.bind_eq_some_iff] at found
  obtain ⟨number, device_eq, disk, wholeDisk_eq, found⟩ := found
  split at found
  next => cases found
  next apart =>
    simp only [Option.bind_eq_some_iff] at found
    obtain ⟨table, known, device, present, -⟩ := found
    exact ⟨⟨device, table, _, _⟩, number, disk, device_eq, wholeDisk_eq, apart, present,
      tableOfDisk?_eq_some_iff.mp known, rfl, rfl⟩

/-- There is one way to look up a volume at most. -/
theorem Lookup.IsOf.unique {other : Lookup} {number' disk' : Nat}
    (known : lookup.IsOf devices volumes v number disk)
    (known' : other.IsOf devices volumes v number' disk') : other = lookup := by
  obtain rfl : number = number' := Option.some.inj (known.device_eq.symm.trans known'.device_eq)
  obtain rfl : disk = disk' := Option.some.inj (known.wholeDisk_eq.symm.trans known'.wholeDisk_eq)
  have table := tableOfDisk?_eq_some_iff.mpr known.table
  have table' := tableOfDisk?_eq_some_iff.mpr known'.table
  exact Lookup.ext (Option.some.inj (known'.present.symm.trans known.present))
    (Option.some.inj (table'.symm.trans table)) (known'.own_eq.trans known.own_eq.symm)
    (known'.direct_eq.trans known.direct_eq.symm)

end

/-! ## What is found -/

/-- The entry at a place of the table of its disk is the first that describes a volume. -/
def IsDescribedAt (devices : List Device) (volumes : List Volume) (v : Volume) (place : Nat) :
    Prop :=
  ∃ lookup number disk, Lookup.IsOf devices volumes v lookup number disk ∧
    IsFirst (lookup.Describes lookup.blocks) lookup.table.toList place

/-- What looking up a volume in the table of its disk finds. -/
structure LookupLaw (devices : List Device) (volumes : List Volume) (v : Volume) : Prop where
  /-- It finds the first entry that describes the volume, with its blocks counted by a word, unless
  an entry before leads to a block that cannot be read. -/
  found_iff : ∀ place, mbrPlace? devices volumes v = some place ↔
    ∃ lookup number disk, Lookup.IsOf devices volumes v lookup number disk ∧
      lookup.Finds lookup.device.blockCount place
  /-- So it finds the entry that describes the volume, and only that, unless that entry is hidden or
  the blocks are miscounted. -/
  described_iff :
    (∀ place, mbrPlace? devices volumes v = some place ↔ IsDescribedAt devices volumes v place) ↔
      ∀ lookup number disk, Lookup.IsOf devices volumes v lookup number disk →
        ¬lookup.IsHidden ∧ ¬lookup.IsMiscounted

namespace Lookup

variable {lookup : Lookup}

theorem blockCount_eq (counted : lookup.blocks < UInt64.size) :
    lookup.device.blockCount = lookup.blocks :=
  Nat.mod_eq_of_lt counted

/-- No entry has more blocks than a word counts. -/
theorem not_describes_of_le (endless : UInt64.size ≤ lookup.blocks) (entry : MbrEntry) :
    ¬lookup.Describes lookup.blocks entry := by
  rintro ⟨fits, -⟩
  have small := entry.size.toNat_lt
  have large : UInt64.size = 18446744073709551616 := rfl
  omega

/-- One lookup finds the entry that describes the volume, and only that, unless that is hidden or
the blocks are miscounted. -/
theorem finds_iff_isFirst (lookup : Lookup) :
    (∀ place, lookup.Finds lookup.device.blockCount place ↔
        IsFirst (lookup.Describes lookup.blocks) lookup.table.toList place) ↔
      ¬lookup.IsHidden ∧ ¬lookup.IsMiscounted := by
  by_cases counted : lookup.blocks < UInt64.size
  · have right : ¬lookup.IsMiscounted := fun endless => Nat.not_lt.mpr endless.1 counted
    rw [blockCount_eq counted]
    constructor
    · intro same
      refine ⟨?_, right⟩
      rintro ⟨place, first, unreached⟩
      exact unreached ((same place).mpr first).2
    · rintro ⟨shown, -⟩ place
      refine ⟨fun finds => finds.1, fun first => ⟨first, ?_⟩⟩
      exact not_not.mp fun unreached => shown ⟨place, first, unreached⟩
  · have endless : UInt64.size ≤ lookup.blocks := Nat.not_lt.mp counted
    have never (place : Nat) :
        ¬IsFirst (lookup.Describes lookup.blocks) lookup.table.toList place := by
      rintro ⟨⟨entry, -, describes⟩, -⟩
      exact not_describes_of_le endless entry describes
    constructor
    · intro same
      refine ⟨?_, ?_⟩
      · rintro ⟨place, first, -⟩
        exact never place first
      · rintro ⟨-, place, finds⟩
        exact never place ((same place).mp finds)
    · rintro ⟨-, right⟩ place
      exact ⟨fun finds => absurd ⟨endless, place, finds⟩ right,
        fun first => absurd first (never place)⟩

end Lookup

section

variable {devices : List Device} {volumes : List Volume} {v : Volume}

theorem mbrPlace?_eq_some_iff {place : Nat} : mbrPlace? devices volumes v = some place ↔
    ∃ lookup number disk, Lookup.IsOf devices volumes v lookup number disk ∧
      lookup.Finds lookup.device.blockCount place := by
  constructor
  · intro result
    obtain ⟨lookup, number, disk, known⟩ := exists_isOf_of_mbrPlace? result
    rw [known.mbrPlace?_eq, Lookup.search_table] at result
    exact ⟨lookup, number, disk, known, result⟩
  · rintro ⟨lookup, number, disk, known, finds⟩
    rwa [known.mbrPlace?_eq, Lookup.search_table]

theorem mbrPlace?_iff_isDescribedAt :
    (∀ place, mbrPlace? devices volumes v = some place ↔ IsDescribedAt devices volumes v place) ↔
      ∀ lookup number disk, Lookup.IsOf devices volumes v lookup number disk →
        ¬lookup.IsHidden ∧ ¬lookup.IsMiscounted := by
  constructor
  · intro same lookup number disk known
    refine lookup.finds_iff_isFirst.mp fun place => ?_
    have here := same place
    rw [known.mbrPlace?_eq, Lookup.search_table] at here
    rw [here]
    constructor
    · rintro ⟨other, _, _, known', first⟩
      rwa [← known.unique known']
    · intro first
      exact ⟨lookup, number, disk, known, first⟩
  · intro right place
    have each (lookup : Lookup) (number disk : Nat)
        (known : lookup.IsOf devices volumes v number disk) :=
      lookup.finds_iff_isFirst.mpr (right lookup number disk known) place
    rw [mbrPlace?_eq_some_iff]
    constructor
    · rintro ⟨lookup, number, disk, known, finds⟩
      exact ⟨lookup, number, disk, known, (each lookup number disk known).mp finds⟩
    · rintro ⟨lookup, number, disk, known, first⟩
      exact ⟨lookup, number, disk, known, (each lookup number disk known).mpr first⟩

end

/-- A volume is looked up in the table of its disk as it should be, unless the entry that describes
it is hidden by one that leads nowhere, or its blocks are miscounted. -/
theorem mbrPlace?_lookupLaw (devices : List Device) (volumes : List Volume) (v : Volume) :
    LookupLaw devices volumes v where
  found_iff _ := mbrPlace?_eq_some_iff
  described_iff := mbrPlace?_iff_isDescribedAt

/-! ## An entry behind the end of the disk -/

open VolumeSet (sectorDevice)

theorem readBlock?_sectorDevice {devices : List Device} {number lba lastBlock : Nat}
    {isPartition : Bool} {sector : Nat → Bytes}
    (there : devices[number]? = some (sectorDevice lastBlock isPartition sector)) :
    readBlock? devices number lba =
      if (sector lba).length = 512 then some (sector lba) else none := by
  unfold readBlock?
  rw [there]
  by_cases fits : (sector lba).length = 512
  · rw [if_pos fits]
    have size : (sector lba).length = max 512 1 := fits
    simp only [sectorDevice, dif_pos size]
    rfl
  · rw [if_neg fits]
    have size : (sector lba).length ≠ max 512 1 := fits
    simp only [sectorDevice, dif_neg size]

/-- The blocks of a disk of two blocks, of which the second is full. -/
def twoBlocks : Nat → Bytes
  | 0 => List.replicate 512 0
  | 1 => List.replicate 512 0x5A
  | _ => []

/-- The disk, and its second block as a partition. -/
def strayDevices : List Device :=
  [sectorDevice 1 false twoBlocks, sectorDevice 0 true fun lba => twoBlocks (lba + 1)]

/-- An entry for one block. -/
def oneBlock (startLba : UInt32) : MbrEntry :=
  { flags := 0, first := ⟨0, 0, 0⟩, partType := 6, last := ⟨0, 0, 0⟩, startLba, size := 1 }

/-- A table with an entry for a block behind the end of the disk before that of the second one. -/
def strayTable : MbrTable :=
  #v[oneBlock 100, oneBlock 1, { oneBlock 0 with size := 0 }, { oneBlock 0 with size := 0 }]

def strayDisk : Volume :=
  { device := some 0, wholeDisk := some 0, mbrTable := some strayTable }

def secondVolume : Volume :=
  { device := some 1, wholeDisk := some 0 }

/-- The partition is looked up by blocks that are as long as they should be. -/
def strayLookup : Lookup where
  device := sectorDevice 0 true fun lba => twoBlocks (lba + 1)
  table := strayTable
  own := some (twoBlocks 1)
  direct lba := if (twoBlocks lba).length = 512 then some (twoBlocks lba) else none

theorem strayLookup_isOf :
    strayLookup.IsOf strayDevices [strayDisk, secondVolume] secondVolume 1 0 where
  device_eq := rfl
  wholeDisk_eq := rfl
  apart := Nat.one_ne_zero
  present := rfl
  table := by
    refine ⟨[], strayDisk, [secondVolume], rfl, ⟨rfl, rfl⟩, fun w member => ?_, rfl⟩
    obtain rfl := List.mem_singleton.mp member
    rintro ⟨start, -⟩
    cases start
  own_eq := by
    have partition : strayDevices[1]? =
        some (sectorDevice 0 true fun lba => twoBlocks (lba + 1)) := rfl
    have whole : (twoBlocks 1).length = 512 := List.length_replicate
    rw [readBlock?_sectorDevice partition]
    exact (if_pos whole).symm
  direct_eq := by
    have disk : strayDevices[0]? = some (sectorDevice 1 false twoBlocks) := rfl
    exact funext fun lba => (readBlock?_sectorDevice disk).symm

/-- The second entry describes the partition. -/
theorem strayLookup_isFirst :
    IsFirst (strayLookup.Describes strayLookup.blocks) strayLookup.table.toList 1 := by
  have whole : (twoBlocks 1).length = 512 := List.length_replicate
  have bright : 1000 ≤ (((twoBlocks 1).take 512).map UInt8.toNat).sum := by
    rw [twoBlocks, List.take_replicate, List.map_replicate, List.sum_replicate]
    decide
  have second : strayLookup.direct (oneBlock 1).startLba.toNat = some (twoBlocks 1) := by
    have start : (oneBlock 1).startLba.toNat = 1 := rfl
    simp only [strayLookup, start, if_pos whole]
  refine ⟨⟨oneBlock 1, rfl, rfl, twoBlocks 1, rfl, second, bright⟩, fun j lt entry there => ?_⟩
  obtain rfl : j = 0 := Nat.lt_one_iff.mp lt
  obtain rfl := Option.some.inj there
  rintro ⟨-, _, -, direct, -⟩
  cases direct

/-- It is not found, as the first entry leads to a block that cannot be read. -/
theorem secondVolume_not_described :
    ¬∀ place, mbrPlace? strayDevices [strayDisk, secondVolume] secondVolume = some place ↔
      IsDescribedAt strayDevices [strayDisk, secondVolume] secondVolume place := by
  intro same
  have right := mbrPlace?_iff_isDescribedAt.mp same strayLookup 1 0 strayLookup_isOf
  refine right.1 ⟨1, strayLookup_isFirst, fun reached => ?_⟩
  exact reached 0 Nat.one_pos (oneBlock 100) rfl ⟨rfl, rfl⟩

end Volume

end BootManager
