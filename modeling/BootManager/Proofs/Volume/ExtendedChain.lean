import BootManager.Proofs.Volume.ChainWalk
import BootManager.Proofs.Volume.TableBytes
import Mathlib.Algebra.Group.Nat.Defs

/-!
# The chain of an extended partition

Where the tables of a chain stand, and what they describe, is told from the bytes of the device. A
walk hands out the partitions of one table after the other, and ends with an error exactly if the
chain leads back to a table it led to before, or to more tables than are followed.
-/

namespace BootManager

namespace ExtendedChain

open ChainWalk

/-! ## One table -/

/-- An entry that counts: it has the flags of a partition, active or not, and describes sectors. -/
def Counts (entry : MbrEntry) : Prop :=
  (entry.flags = 0x00 ∨ entry.flags = 0x80) ∧ entry.startLba ≠ 0 ∧ entry.size ≠ 0

instance (entry : MbrEntry) : Decidable (Counts entry) :=
  inferInstanceAs (Decidable ((_ ∨ _) ∧ _ ∧ _))

/-- An entry that leads to another table: it has one of the types of extended partitions. -/
def Leads (entry : MbrEntry) : Prop :=
  entry.partType = 0x05 ∨ entry.partType = 0x0F ∨ entry.partType = 0x85

instance (entry : MbrEntry) : Decidable (Leads entry) :=
  inferInstanceAs (Decidable (_ ∨ _ ∨ _))

/-- The entries of a table in front of the first that does not count. -/
def leading (table : MbrTable) : List MbrEntry :=
  table.toList.takeWhile fun entry => Counts entry

/-- The partitions that a table describes, in front of its link. -/
def own (table : MbrTable) : List MbrEntry :=
  (leading table).takeWhile fun entry => ¬Leads entry

/-- The link of a table to the next one. -/
def link? (table : MbrTable) : Option MbrEntry :=
  (leading table).find? fun entry => Leads entry

theorem hasValidFlags_and_isUsed (entry : MbrEntry) :
    (entry.hasValidFlags && entry.isUsed) = decide (Counts entry) := by
  rw [Bool.eq_iff_iff, decide_eq_true_iff]
  simp [Counts, MbrEntry.hasValidFlags, MbrEntry.isUsed]

theorem isExtended_eq (entry : MbrEntry) : entry.isExtended = decide (Leads entry) := by
  rw [Bool.eq_iff_iff, decide_eq_true_iff]
  simp [Leads, MbrEntry.isExtended, MbrEntry.isExtendedType, or_assoc]

theorem cutTable_eq (entries : List MbrEntry) :
    let counted := entries.takeWhile fun entry => Counts entry
    cutTable entries = (counted.takeWhile fun entry => ¬Leads entry,
      counted.find? fun entry => Leads entry) := by
  induction entries with
  | nil => rfl
  | cons entry rest ih =>
    rw [cutTable, hasValidFlags_and_isUsed, isExtended_eq]
    by_cases counts : Counts entry
    · by_cases leads : Leads entry
      · simp [counts, leads]
      · simp [counts, leads, ih]
    · simp [counts]

theorem length_leading_le (table : MbrTable) : (leading table).length ≤ 4 := by
  have shorter : (leading table).length ≤ table.toList.length :=
    (List.takeWhile_sublist _).length_le
  rwa [Vector.length_toList] at shorter

theorem length_own_le (table : MbrTable) : (own table).length ≤ 4 :=
  Nat.le_trans (List.takeWhile_sublist _).length_le (length_leading_le table)

/-- A table with a link describes three partitions at most. -/
theorem length_own_lt {table : MbrTable} {link : MbrEntry} (linked : link? table = some link) :
    (own table).length ≤ 3 := by
  have most := length_leading_le table
  refine Nat.le_of_not_lt fun all => ?_
  have whole : own table = leading table :=
    (List.takeWhile_prefix _).eq_of_length_le (by simp only [own] at all; omega)
  have leads : Leads link := by simpa using List.find?_some linked
  have member : link ∈ own table := whole ▸ List.mem_of_find?_eq_some linked
  have plain := List.all_eq_true.mp List.all_takeWhile link member
  simp [leads] at plain

/-- A table is at a block exactly if the block can be read and is signed, and the four entries stand
in front of the signature. -/
theorem tableAt?_eq_some_iff {device : Device} {block : Nat} {table : MbrTable} :
    tableAt? device block = some table ↔
      ∃ sector, device.read block (max device.blockSize 512) = .ok sector ∧
        Buffer.StandsAt sector.toArray 510 [0x55, 0xAA] ∧
          ∀ k (lt : k < 4), table[k].StandsAt sector.toArray (446 + 16 * k) := by
  simp only [← MbrTable.ofSector?_eq_some_iff, ← Buffer.hasBootSignature_iff]
  unfold tableAt? readTable?
  cases device.read block (max device.blockSize 512) with
  | error error => simp
  | ok sector => simp

/-- There is no table at a block exactly if the block cannot be read or is not signed. -/
theorem tableAt?_eq_none_iff {device : Device} {block : Nat} : tableAt? device block = none ↔
    (∃ error, device.read block (max device.blockSize 512) = .error error) ∨
      ∃ sector, device.read block (max device.blockSize 512) = .ok sector ∧
        ¬Buffer.StandsAt sector.toArray 510 [0x55, 0xAA] := by
  simp only [← Buffer.hasBootSignature_iff]
  unfold tableAt? readTable?
  cases device.read block (max device.blockSize 512) with
  | error error => simp
  | ok sector =>
    have long : 512 ≤ sector.toArray.size := by
      rw [Vector.size_toArray]
      exact Nat.le_max_right _ _
    obtain ⟨table, found⟩ := MbrTable.exists_ofSector? long
    simp [found]

/-! ## The chain -/

section

variable (device : Device) (base : Nat)

/-- The block of the table with a number, if the chain that starts at `base` has so many. -/
def block? : Nat → Option Nat
  | 0 => if base = 0 then none else some base
  | i + 1 =>
    (((block? i).bind (tableAt? device)).bind link?).map fun link => base + link.startLba.toNat

/-- The partitions that the table with a number describes, each with its first block. -/
def described (i : Nat) : List (Nat × MbrEntry) :=
  match block? device base i with
  | none => []
  | some block =>
    match tableAt? device block with
    | none => []
    | some table => (own table).map fun entry => (block + entry.startLba.toNat, entry)

/-- The partitions that the first tables describe. -/
def describedBefore (count : Nat) : List (Nat × MbrEntry) :=
  (List.range count).flatMap (described device base)

/-- The partitions of the first tables, numbered from 4 on as they come. -/
def partitions (count : Nat) : List LogicalPartition :=
  (describedBefore device base count).mapIdx fun k (offset, entry) =>
    ⟨4 + k, offset, entry⟩

/-- The error of a chain that has a table after those that are followed. -/
def error? (count : Nat) : Option ScanError :=
  (block? device base count).map .malformedPartitionTable

/-- What is found in the tables that are followed. -/
def found (count : Nat) : List Found :=
  (partitions device base count).map .ok ++ (error? device base count).toList.map .error

/-- The first tables are there, and the chain leads to each of them once. -/
def IsStraight (count : Nat) : Prop :=
  ∀ i < count, (block? device base i).isSome = true ∧
    ∀ k < i, block? device base k ≠ block? device base i

/-- How many tables of a chain are followed: all that are there, up to the first that the chain led
to before, and no more than 128. -/
structure Follows (count : Nat) : Prop where
  limited : count ≤ 128
  straight : IsStraight device base count
  ends : block? device base count = none ∨ count = 128 ∨
    ∃ k < count, block? device base k = block? device base count

end

variable {device : Device} {base : Nat}

theorem described_of_block {i block : Nat} {table : MbrTable}
    (there : block? device base i = some block) (present : tableAt? device block = some table) :
    described device base i =
      (own table).map fun entry => (block + entry.startLba.toNat, entry) := by
  unfold described
  rw [there]
  dsimp only
  rw [present]

theorem block?_succ {i block : Nat} {table : MbrTable}
    (there : block? device base i = some block) (present : tableAt? device block = some table) :
    block? device base (i + 1) =
      (link? table).map fun link => base + link.startLba.toNat := by
  rw [block?, there, Option.bind_some, present, Option.bind_some]

theorem describedBefore_succ (count : Nat) : describedBefore device base (count + 1) =
    describedBefore device base count ++ described device base count := by
  rw [describedBefore, List.range_succ, List.flatMap_append, List.flatMap_singleton]
  rfl

theorem partitions_succ (count : Nat) : partitions device base (count + 1) =
    partitions device base count ++ (described device base count).mapIdx fun k (offset, entry) =>
      ⟨4 + (describedBefore device base count).length + k, offset, entry⟩ := by
  rw [partitions, describedBefore_succ, List.mapIdx_append]
  simp only [partitions, Nat.add_comm, Nat.add_left_comm]

theorem described_of_missing {i block : Nat} (there : block? device base i = some block)
    (missing : tableAt? device block = none) : described device base i = [] := by
  unfold described
  rw [there]
  dsimp only
  rw [missing]

theorem block?_succ_of_missing {i block : Nat} (there : block? device base i = some block)
    (missing : tableAt? device block = none) : block? device base (i + 1) = none := by
  rw [block?, there, Option.bind_some, missing]
  rfl

theorem IsStraight.succ {count block : Nat} (straight : IsStraight device base count)
    (there : block? device base count = some block)
    (new : ∀ k < count, block? device base k ≠ some block) :
    IsStraight device base (count + 1) := by
  intro i lt
  rcases Nat.lt_succ_iff_lt_or_eq.mp lt with below | rfl
  · exact straight i below
  · rw [there]
    exact ⟨rfl, new⟩

/-! ## Walks along the chain -/

/-- What a walk knows once it took up the first tables of a chain. -/
structure Reached (device : Device) (base count : Nat) (w : ChainWalk) : Prop where
  origin : w.base = base
  next : w.next = block? device base count
  visited : ∀ block, block ∈ w.visited ↔ ∃ k < count, block? device base k = some block
  tables : w.visited.length = count
  pending : w.pending = partitions device base count
  index : w.index = 4 + (describedBefore device base count).length
  straight : IsStraight device base count
  limited : count ≤ 128

theorem reached_start (device : Device) (entry : MbrEntry) :
    Reached device entry.startLba.toNat 0 (start entry) where
  origin := rfl
  next := rfl
  visited := by simp [start]
  tables := rfl
  pending := rfl
  index := rfl
  straight := fun i lt => absurd lt (Nat.not_lt_zero i)
  limited := Nat.zero_le 128

/-- A walk that takes up a table knows one table more. -/
theorem Reached.succ {count block : Nat} {table : MbrTable} {w : ChainWalk}
    (reached : Reached device base count w) (next : w.next = some block)
    (new : block ∉ w.visited) (room : w.visited.length < 128)
    (present : tableAt? device block = some table) :
    Reached device base (count + 1) ((w.reach block).takeTable block table) := by
  have there : block? device base count = some block := reached.next.symm.trans next
  have cut : cutTable table.toList = (own table, link? table) := cutTable_eq table.toList
  refine ⟨reached.origin, ?_, ?_, ?_, ?_, ?_, ?_, ?_⟩
  · rw [block?_succ there present, takeTable, cut, ← reached.origin]
    rfl
  · intro other
    change other ∈ block :: w.visited ↔ _
    rw [List.mem_cons, reached.visited]
    constructor
    · rintro (rfl | ⟨k, lt, same⟩)
      · exact ⟨count, Nat.lt_succ_self count, there⟩
      · exact ⟨k, Nat.lt_succ_of_lt lt, same⟩
    · rintro ⟨k, lt, same⟩
      rcases Nat.lt_succ_iff_lt_or_eq.mp lt with below | rfl
      · exact .inr ⟨k, below, same⟩
      · exact .inl (Option.some.inj (same.symm.trans there))
  · exact congrArg (· + 1) reached.tables
  · rw [partitions_succ, described_of_block there present, takeTable, cut,
      ← reached.index, ← reached.pending]
    refine congrArg (w.pending ++ ·) (List.ext_getElem? fun k => ?_)
    rw [List.getElem?_mapIdx, List.getElem?_mapIdx, List.getElem?_map]
    cases (own table)[k]? with
    | none => rfl
    | some entry => rfl
  · rw [describedBefore_succ, described_of_block there present, takeTable, cut,
      List.length_append, List.length_map, ← Nat.add_assoc, ← reached.index]
    rfl
  · refine reached.straight.succ there fun k lt same => new ?_
    exact (reached.visited block).mpr ⟨k, lt, same⟩
  · have := reached.tables
    omega

/-- A walk to the end of a chain collects what the tables that are followed describe. -/
theorem collect_of_reached {w : ChainWalk} : ∀ {count : Nat}, Reached device base count w →
    ∃ total, Follows device base total ∧ (w.collect device).value =
      ⟨partitions device base total, error? device base total⟩ := by
  -- `Reached` holds before every step, and only a step that reads a table is followed by another
  induction w using induction_advance device with
  | step w ih =>
    intro count reached
    rw [value_collect]
    have step := advance_spec device w
    generalize outcome : (w.advance device).value = went at step
    cases step with
    | ended none =>
      have ends : block? device base count = .none := reached.next.symm.trans none
      refine ⟨count, ⟨reached.limited, reached.straight, .inl ends⟩, ?_⟩
      rw [error?, ends, ← reached.pending]
      rfl
    | malformed block visited some bad =>
      have there : block? device base count = .some block := reached.next.symm.trans some
      refine ⟨count, ⟨reached.limited, reached.straight, .inr ?_⟩, ?_⟩
      · rcases bad with again | full
        · obtain ⟨k, lt, same⟩ := (reached.visited block).mp again
          exact .inr ⟨k, lt, same.trans there.symm⟩
        · exact .inl (Nat.le_antisymm reached.limited (reached.tables ▸ full))
      · rw [error?, there, ← reached.pending]
        rfl
    | unreadable block some new room missing =>
      have there : block? device base count = .some block := reached.next.symm.trans some
      have ends := block?_succ_of_missing there missing
      have fresh : ∀ k < count, block? device base k ≠ .some block := fun k lt same =>
        new ((reached.visited block).mpr ⟨k, lt, same⟩)
      refine ⟨count + 1, ⟨reached.tables ▸ room, reached.straight.succ there fresh, .inl ends⟩, ?_⟩
      rw [partitions_succ, described_of_missing there missing, error?, ends, ← reached.pending]
      simp [reach]
    | table block table some new room present =>
      exact ih _ outcome (reached.succ some new room present)

/-! ## Bounds -/

theorem length_described_le (device : Device) (base i : Nat) :
    (described device base i).length ≤ 4 := by
  unfold described
  split
  · exact Nat.zero_le 4
  · split
    · exact Nat.zero_le 4
    · rw [List.length_map]
      exact length_own_le _

/-- What is known of a table that is linked to from another. -/
theorem exists_of_block?_succ {i next : Nat} (there : block? device base (i + 1) = some next) :
    ∃ block table link, block? device base i = some block ∧ tableAt? device block = some table ∧
      link? table = some link ∧ next = base + link.startLba.toNat := by
  obtain ⟨link, linked, rfl⟩ := Option.map_eq_some_iff.mp there
  obtain ⟨table, present, linked⟩ := Option.bind_eq_some_iff.mp linked
  obtain ⟨block, before, present⟩ := Option.bind_eq_some_iff.mp present
  exact ⟨block, table, link, before, present, linked, rfl⟩

/-- Every table describes three partitions and a link at most, or four partitions and no link. -/
theorem length_describedBefore_le (device : Device) (base count : Nat) :
    (describedBefore device base count).length ≤ 3 * count + 1 ∧
      ((block? device base count).isSome = true →
        (describedBefore device base count).length ≤ 3 * count) := by
  induction count with
  | zero => exact ⟨by simp [describedBefore], fun _ => by simp [describedBefore]⟩
  | succ count ih =>
    rw [describedBefore_succ, List.length_append]
    have here := length_described_le device base count
    cases there : block? device base count with
    | none =>
      have empty : described device base count = [] := by rw [described, there]
      have ends : block? device base (count + 1) = none := by rw [block?, there]; rfl
      rw [empty, ends, List.length_nil]
      exact ⟨by omega, fun more => absurd more (by simp)⟩
    | some block =>
      have before := ih.2 (by rw [there]; rfl)
      refine ⟨by omega, fun more => ?_⟩
      obtain ⟨next, linked⟩ := Option.isSome_iff_exists.mp more
      obtain ⟨block', table, link, there', present, link?_eq, -⟩ := exists_of_block?_succ linked
      have few := length_own_lt link?_eq
      rw [described_of_block there' present, List.length_map]
      omega

/-- At most 385 items are found: three partitions in each of 128 tables and an error, or one more
partition in the last table. -/
theorem length_found_le {count : Nat} (limited : count ≤ 128) :
    (found device base count).length ≤ 385 := by
  obtain ⟨most, fewer⟩ := length_describedBefore_le device base count
  simp only [found, partitions, List.length_append, List.length_map, List.length_mapIdx]
  cases there : block? device base count with
  | none =>
    simp only [error?, there, Option.map_none, Option.toList_none, List.length_nil]
    omega
  | some block =>
    have fewer := fewer (by rw [there]; rfl)
    simp only [error?, there, Option.map_some, Option.toList_some, List.length_singleton]
    omega

theorem block?_lt (small : base < 2 ^ 32) {i block : Nat}
    (there : block? device base i = some block) : block < 2 ^ 33 := by
  cases i with
  | zero =>
    rw [block?] at there
    split at there
    · cases there
    · obtain rfl := Option.some.inj there
      omega
  | succ i =>
    obtain ⟨_, _, link, -, -, -, rfl⟩ := exists_of_block?_succ there
    have := link.startLba.toNat_lt
    omega

theorem exists_of_mem_describedBefore {count : Nat} {item : Nat × MbrEntry}
    (member : item ∈ describedBefore device base count) :
    ∃ i block, block? device base i = some block ∧
      ∃ entry : MbrEntry, item = (block + entry.startLba.toNat, entry) := by
  obtain ⟨i, -, member⟩ := List.mem_flatMap.mp member
  unfold described at member
  split at member
  · cases member
  · rename_i block there
    split at member
    · cases member
    · obtain ⟨entry, -, rfl⟩ := List.mem_map.mp member
      exact ⟨i, block, there, entry, rfl⟩

theorem offset_lt (small : base < 2 ^ 32) {count : Nat} {partition : LogicalPartition}
    (member : partition ∈ partitions device base count) : partition.offset < 2 ^ 64 := by
  obtain ⟨k, lt, rfl⟩ := List.mem_mapIdx.mp member
  obtain ⟨i, block, there, entry, same⟩ := exists_of_mem_describedBefore (List.getElem_mem lt)
  rw [same]
  have below := block?_lt small there
  have start := entry.startLba.toNat_lt
  simp only
  omega

theorem block?_succ_eq_none_iff {i block : Nat} (there : block? device base i = some block) :
    block? device base (i + 1) = none ↔ tableAt? device block = none ∨
      ∃ table, tableAt? device block = some table ∧ link? table = none := by
  cases present : tableAt? device block with
  | none => simp [block?_succ_of_missing there present]
  | some table => simp [block?_succ there present]

theorem Follows.not_lt {count other : Nat} (follows : Follows device base count)
    (more : Follows device base other) : ¬count < other := by
  intro lt
  obtain ⟨there, new⟩ := more.straight count lt
  rcases follows.ends with ends | full | ⟨k, below, same⟩
  · simp [ends] at there
  · have := more.limited
    omega
  · exact new k below same

/-- A walk that follows `count` tables of a chain. -/
structure WalkLaw (device : Device) (entry : MbrEntry) (count : Nat) : Prop where
  /-- A table is at a block exactly if the block can be read and is signed, and the four entries
  stand in front of the signature. -/
  tables : ∀ block table, tableAt? device block = some table ↔
    ∃ sector, device.read block (max device.blockSize 512) = .ok sector ∧
      Buffer.StandsAt sector.toArray 510 [0x55, 0xAA] ∧
        ∀ k (lt : k < 4), table[k].StandsAt sector.toArray (446 + 16 * k)
  /-- It follows as many as there are, up to the first that the chain led to before. -/
  follows : Follows device entry.startLba.toNat count
  /-- It hands out what is found in them, and nothing ever after. -/
  handed : ∀ n, handed? device n (start entry) = (found device entry.startLba.toNat count)[n]?
  /-- Walking to the end of the chain at once finds the same. -/
  collected : ((start entry).collect device).value =
    ⟨partitions device entry.startLba.toNat count, error? device entry.startLba.toNat count⟩
  /-- An extended partition that starts nowhere holds nothing. -/
  nowhere : entry.startLba = 0 → ∀ n, handed? device n (start entry) = none
  /-- The chain goes on at every table that can be read, is signed and has a link. -/
  quiet : ∀ i block, block? device entry.startLba.toNat i = some block →
    (block? device entry.startLba.toNat (i + 1) = none ↔
      (∃ error, device.read block (max device.blockSize 512) = .error error) ∨
        (∃ sector, device.read block (max device.blockSize 512) = .ok sector ∧
          ¬Buffer.StandsAt sector.toArray 510 [0x55, 0xAA]) ∨
        ∃ table, tableAt? device block = some table ∧ link? table = none)
  /-- The walk ends with an error exactly if there is a table after those, which the chain led to
  before or which is one too many. -/
  malformed : ∀ error, error? device entry.startLba.toNat count = some error ↔
    ∃ block, error = .malformedPartitionTable block ∧
      block? device entry.startLba.toNat count = some block ∧
        (count = 128 ∨ ∃ k < count, block? device entry.startLba.toNat k = some block)
  /-- It never reads more than 128 tables. -/
  reads : ∀ n, (polled device n (start entry)).reads ≤ 128
  /-- It hands out 385 items at most. -/
  few : (found device entry.startLba.toNat count).length ≤ 385
  /-- No block of a table leaves the 64-bit words. -/
  blocks : ∀ i block, block? device entry.startLba.toNat i = some block → block < 2 ^ 64
  /-- Neither does the first block of a partition. -/
  offsets : ∀ partition ∈ partitions device entry.startLba.toNat count,
    partition.offset < 2 ^ 64

theorem Follows.error?_eq_some_iff {count : Nat} (follows : Follows device base count)
    {error : ScanError} : error? device base count = some error ↔
      ∃ block, error = .malformedPartitionTable block ∧ block? device base count = some block ∧
        (count = 128 ∨ ∃ k < count, block? device base k = some block) := by
  rw [error?, Option.map_eq_some_iff]
  constructor
  · rintro ⟨block, there, rfl⟩
    refine ⟨block, rfl, there, ?_⟩
    rcases follows.ends with ends | full | ⟨k, lt, same⟩
    · rw [ends] at there
      cases there
    · exact .inl full
    · exact .inr ⟨k, lt, same.trans there⟩
  · rintro ⟨block, rfl, there, -⟩
    exact ⟨block, there, rfl⟩

/-- A walk hands out what the tables of a chain describe, table by table, up to the first that
cannot be read, is not signed or has no link. Where the chain leads back to a table that it led to
before, or to more than 128 tables, the walk ends with one error. How many tables are followed
depends on the device and the entry alone. -/
theorem walk_follows_chain (device : Device) (entry : MbrEntry) :
    ∃ count, WalkLaw device entry count ∧
      ∀ other, Follows device entry.startLba.toNat other → other = count := by
  obtain ⟨count, follows, collected⟩ := collect_of_reached (reached_start device entry)
  have handed (n : Nat) : handed? device n (start entry) =
      (found device entry.startLba.toNat count)[n]? := by
    have remains : remaining device (start entry) = found device entry.startLba.toNat count := by
      rw [remaining, if_neg (by simp [start]), collected]
      rfl
    rw [handed?_eq, remains]
  have small := entry.startLba.toNat_lt
  have unique (other : Nat) (more : Follows device entry.startLba.toNat other) : other = count :=
    Nat.le_antisymm (Nat.le_of_not_lt (follows.not_lt more))
      (Nat.le_of_not_lt (more.not_lt follows))
  refine ⟨count, ⟨fun _ _ => tableAt?_eq_some_iff, follows, handed, collected, ?_, ?_,
    fun _ => follows.error?_eq_some_iff, ?_, length_found_le follows.limited, ?_,
    fun _ => offset_lt small⟩, unique⟩
  · intro zero n
    have past : (start entry).next = none := if_pos (by rw [zero]; rfl)
    rw [handed?_eq, remaining_of_past past rfl, List.getElem?_nil]
  · intro i block there
    rw [block?_succ_eq_none_iff there, tableAt?_eq_none_iff, or_assoc]
  · intro n
    have modest : (start entry).Modest := ⟨Nat.le_refl 0, Nat.zero_le maxLinks⟩
    exact (modest.polled n).limited
  · intro i block there
    have := block?_lt small there
    omega

end ExtendedChain

end BootManager
