import BootManager.Volume.Sample

/-!
# Samples of disks in memory

A disk in memory holds its data and zeros after them, up to whole blocks. A sample of it is exactly
what it holds from a block on: as many blocks as a sample has room for, and no more than there are.
From a block behind the last one nothing is read. The main result is `Sample.read_readLaw`.
-/

namespace BootManager

/-! ## What a disk in memory holds -/

namespace Device

/-- A byte of a disk in memory: one of its data, or one of the zeros after them. -/
def byteAt (data : Array UInt8) (place : Nat) : UInt8 :=
  data[place]?.getD 0

/-- How many blocks a disk in memory has: all up to the one with the last of its bytes, and one
if there are none. -/
def blocksFor (blockSize size : Nat) : Nat :=
  (size - 1) / blockSize + 1

theorem blocksFor_le (blockSize size : Nat) : blocksFor blockSize size ≤ max 1 size := by
  have short : (size - 1) / blockSize ≤ size - 1 := Nat.div_le_self _ _
  unfold blocksFor
  omega

theorem size_padded {blockSize : Nat} (pos : 0 < blockSize) (data : Array UInt8) :
    (padded data blockSize).size = blocksFor blockSize data.size * blockSize := by
  have split := Nat.div_add_mod data.size blockSize
  have part := Nat.mod_lt data.size pos
  have last {blocks rest : Nat} (within : rest < blockSize) :
      (blockSize * blocks + rest) / blockSize = blocks := by
    rw [Nat.mul_add_div pos, Nat.div_eq_of_lt within, Nat.add_zero]
  unfold padded blocksFor
  by_cases whole : data.size % blockSize = 0
  · cases full : data.size / blockSize with
    | zero =>
      have none : data.size = 0 := by rw [← split, full, whole, Nat.mul_zero]
      simp [none]
    | succ blocks =>
      have size : data.size = blockSize * blocks + blockSize := by
        rw [← split, full, whole, Nat.mul_succ, Nat.add_zero]
      have some : data.size ≠ 0 := by omega
      have before : data.size - 1 = blockSize * blocks + (blockSize - 1) := by omega
      rw [if_pos ⟨whole, some⟩, before, last (by omega), size, Nat.succ_mul, Nat.mul_comm]
  · have before : data.size - 1 =
        blockSize * (data.size / blockSize) + (data.size % blockSize - 1) := by omega
    rw [if_neg fun both => whole both.1, before, last (by omega), Array.size_append,
      Array.size_replicate, Nat.succ_mul, Nat.mul_comm]
    omega

theorem toList_padded (data : Array UInt8) (blockSize : Nat) :
    ∃ count, (padded data blockSize).toList = data.toList ++ List.replicate count 0 := by
  unfold padded
  split
  · exact ⟨0, by rw [List.replicate_zero, List.append_nil]⟩
  · exact ⟨_, by rw [Array.toList_append, Array.toList_replicate]⟩

theorem getD_append_zeros (bytes : Bytes) (count place : Nat) :
    ((bytes ++ List.replicate count 0)[place]?).getD 0 = bytes[place]?.getD 0 := by
  by_cases inside : place < bytes.length
  · rw [List.getElem?_append_left inside]
  · have past : bytes.length ≤ place := Nat.not_lt.mp inside
    rw [List.getElem?_append_right past, List.getElem?_eq_none past, List.getElem?_replicate]
    split <;> rfl

theorem getElem?_padded {data : Array UInt8} {blockSize place : Nat}
    (within : place < (padded data blockSize).size) :
    (padded data blockSize)[place]? = some (byteAt data place) := by
  obtain ⟨count, bytes⟩ := toList_padded data blockSize
  have byte := getD_append_zeros data.toList count place
  rw [← bytes, Array.getElem?_toList, Array.getElem?_toList] at byte
  rw [byteAt, ← byte, Array.getElem?_eq_getElem within, Option.getD_some]

/-- What a disk in memory holds from a byte on. -/
def bytesFrom (data : Array UInt8) (start count : Nat) : Array UInt8 :=
  Array.ofFn fun place : Fin count => byteAt data (start + place)

theorem extract_padded {data : Array UInt8} {blockSize start count : Nat}
    (within : start + count ≤ (padded data blockSize).size) :
    (padded data blockSize).extract start (start + count) = bytesFrom data start count := by
  apply Array.ext
  · rw [Array.size_extract, bytesFrom, Array.size_ofFn]
    omega
  · intro place left right
    rw [bytesFrom, Array.size_ofFn] at right
    have there : (padded data blockSize)[start + place]? = some (byteAt data (start + place)) :=
      getElem?_padded (by omega)
    rw [Array.getElem?_eq_getElem (by omega)] at there
    simpa [bytesFrom] using there

end Device

namespace Sample

section

variable {blockSize offset count : Nat} {data : Array UInt8}

theorem memory_eq (pos : 0 < blockSize) (data : Array UInt8) (isPartition : Bool) :
    Device.memory data blockSize isPartition =
      ⟨blockSize, Device.blocksFor blockSize data.size - 1, isPartition,
        Device.readData (Device.padded data blockSize) blockSize⟩ := by
  unfold Device.memory
  simp only [if_neg (Nat.ne_of_gt pos), Device.size_padded pos, Nat.mul_div_cancel _ pos]

/-! ## How much is read -/

theorem blockCount_memory (pos : 0 < blockSize) (data : Array UInt8) (isPartition : Bool)
    (offset : Nat) : blockCount (.memory data blockSize isPartition) offset =
      min (min (Device.blocksFor blockSize data.size) (UInt64.size - 1) - offset)
        (sampleSize / blockSize) := by
  rw [memory_eq pos]
  rfl

theorem read_of_blockSize {device : Device} (pos : 0 < device.blockSize)
    (le : device.blockSize ≤ sampleSize) (offset : Nat) :
    read device offset =
      if blockCount device offset = 0 then .error (.readFailed .endOfMedia)
      else (device.read offset (blockCount device offset * device.blockSize)).map
        Vector.toArray := by
  have valid : ¬(device.blockSize = 0 ∨ device.blockSize > sampleSize) := by omega
  rw [read, if_neg valid]

/-- Blocks that a disk in memory has are read as they are. -/
theorem readData_padded (pos : 0 < blockSize)
    (within : offset + count ≤ Device.blocksFor blockSize data.size) :
    (Device.readData (Device.padded data blockSize) blockSize offset (count * blockSize)).map
        Vector.toArray = .ok (Device.bytesFrom data (offset * blockSize) (count * blockSize)) := by
  have whole : count * blockSize % blockSize = 0 := Nat.mul_mod_left _ _
  have fits : offset * blockSize + count * blockSize ≤ (Device.padded data blockSize).size := by
    rw [Device.size_padded pos, ← Nat.add_mul]
    exact Nat.mul_le_mul_right _ within
  unfold Device.readData
  rw [if_neg (not_not_intro whole), dif_pos fits, ← Device.extract_padded fits]
  rfl

theorem read_memory_of_blockCount (pos : 0 < blockSize) (le : blockSize ≤ sampleSize)
    {isPartition : Bool} (size : blockCount (.memory data blockSize isPartition) offset = count)
    (some : 0 < count) (within : offset + count ≤ Device.blocksFor blockSize data.size) :
    read (.memory data blockSize isPartition) offset =
      .ok (Device.bytesFrom data (offset * blockSize) (count * blockSize)) := by
  have shape := memory_eq pos data isPartition
  rw [read_of_blockSize (by rwa [shape]) (by rwa [shape]), size, if_neg (Nat.ne_of_gt some), shape]
  exact readData_padded pos within

end

/-! ## What is read -/

/-- A sample comes to this without any block being read: whatever reads would answer, it does. -/
def IsWithoutRead (device : Device) (offset : Nat) (result : Except ScanError (Array UInt8)) :
    Prop :=
  ∀ answer, read { device with read := answer } offset = result

/-- What the sample of a disk in memory from a block on is. -/
structure ReadLaw (data : Array UInt8) (blockSize : Nat) (disk : Device) (offset : Nat) :
    Prop where
  blockSize_eq : disk.blockSize = if blockSize = 0 then 512 else blockSize
  lastBlock_eq : disk.lastBlock + 1 = Device.blocksFor disk.blockSize data.size
  tooLarge : sampleSize < disk.blockSize →
    IsWithoutRead disk offset (.error (.blockSizeTooLarge disk.blockSize))
  /-- From a block on that there is, the disk's own bytes are read, and in a single read. -/
  start : disk.blockSize ≤ sampleSize → offset ≤ disk.lastBlock →
    let length :=
      disk.blockSize * min (sampleSize / disk.blockSize) (disk.lastBlock + 1 - offset)
    read disk offset = .ok (Device.bytesFrom data (offset * disk.blockSize) length) ∧
      ∀ answer, answer offset length = disk.read offset length →
        read { disk with read := answer } offset = read disk offset
  past : disk.blockSize ≤ sampleSize → disk.lastBlock < offset →
    IsWithoutRead disk offset (.error (.readFailed .endOfMedia))

theorem isWithoutRead_of_blockCount {device : Device} {offset : Nat} (pos : 0 < device.blockSize)
    (le : device.blockSize ≤ sampleSize) (none : blockCount device offset = 0) :
    IsWithoutRead device offset (.error (.readFailed .endOfMedia)) := by
  intro answer
  let other : Device := { device with read := answer }
  have size : 0 < other.blockSize := pos
  exact (read_of_blockSize size le offset).trans (if_pos none)

/-- There is one read that a sample can depend on. -/
theorem read_congr {device : Device} {offset : Nat} {answer}
    (same : answer offset (blockCount device offset * device.blockSize) =
      device.read offset (blockCount device offset * device.blockSize)) :
    read { device with read := answer } offset = read device offset := by
  unfold read
  dsimp only [blockCount] at same ⊢
  rw [same]
  rfl

theorem readLaw_of_pos (pos : 0 < blockSize) (data : Array UInt8) (isPartition : Bool)
    (offset : Nat) (fits : data.size < UInt64.size) :
    ReadLaw data blockSize (.memory data blockSize isPartition) offset := by
  have few : Device.blocksFor blockSize data.size ≤ UInt64.size - 1 := by
    have size := Device.blocksFor_le blockSize data.size
    unfold UInt64.size at *
    omega
  have count := blockCount_memory pos data isPartition offset
  -- the number of blocks is a word, so that it is not cut off
  rw [Nat.min_eq_left few, Nat.min_comm] at count
  have start (le : blockSize ≤ sampleSize)
      (inside : offset < Device.blocksFor blockSize data.size) :
      read (.memory data blockSize isPartition) offset =
        .ok (Device.bytesFrom data (offset * blockSize)
          (min (sampleSize / blockSize) (Device.blocksFor blockSize data.size - offset) *
            blockSize)) := by
    have some : 0 < sampleSize / blockSize := Nat.div_pos le pos
    exact read_memory_of_blockCount pos le count (by omega) (by omega)
  rw [memory_eq pos] at count start ⊢
  constructor
  case blockSize_eq => exact (if_neg (Nat.ne_of_gt pos)).symm
  case lastBlock_eq => rfl
  case tooLarge =>
    intro large answer
    exact if_pos (.inr large)
  case start =>
    intro le inside length
    have size : length = min (sampleSize / blockSize)
      (Device.blocksFor blockSize data.size - offset) * blockSize := Nat.mul_comm _ _
    refine ⟨?_, ?_⟩
    · rw [size]
      exact start le (Nat.lt_succ_of_le inside)
    · intro answer same
      rw [size, ← count] at same
      exact read_congr same
  case past =>
    intro le past
    refine isWithoutRead_of_blockCount pos le ?_
    have none : Device.blocksFor blockSize data.size - offset = 0 := Nat.sub_eq_zero_of_le past
    rw [count, none, Nat.min_zero]

/-- A sample of a disk in memory is what the disk holds from a block on, up to the length of a
sample or the end of the disk; from a block behind the end there is none. -/
theorem read_readLaw (data : Array UInt8) (blockSize : Nat) (isPartition : Bool) (offset : Nat)
    (fits : data.size < UInt64.size) :
    ReadLaw data blockSize (.memory data blockSize isPartition) offset := by
  rcases Nat.eq_zero_or_pos blockSize with rfl | pos
  · have usual : 0 < Device.usualBlockSize := by decide
    exact { readLaw_of_pos usual data isPartition offset fits with blockSize_eq := rfl }
  · exact readLaw_of_pos pos data isPartition offset fits

theorem twoBlocks_readLaw : (Array.replicate 700 (1 : UInt8)).size < UInt64.size ∧
    ReadLaw (Array.replicate 700 1) 512 (.memory (Array.replicate 700 1) 512 false) 1 := by
  have fits : (Array.replicate 700 (1 : UInt8)).size < UInt64.size := by
    rw [Array.size_replicate]
    decide
  exact ⟨fits, read_readLaw (Array.replicate 700 1) 512 false 1 fits⟩

end Sample

end BootManager
