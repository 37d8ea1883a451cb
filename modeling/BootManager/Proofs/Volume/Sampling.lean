import BootManager.Proofs.Volume.MemoryDisk
import BootManager.Proofs.Volume.OfferedOnce

/-!
# What a sample leaves out

The filesystem of a volume is told from a sample of its start. A sample is made of whole blocks, so
that it is shorter than it may be if the block size does not divide that length, and two of the
formats are then looked for behind its end. The main result is `Sample.take_samplingLaw`.
-/

namespace BootManager

/-! ## The first bytes of a buffer -/

namespace Buffer

section

variable {buf : Array UInt8} {offset count limit length : Nat} {pattern : Bytes}

theorem slice?_extract (fits : offset + count ≤ length) :
    slice? (buf.extract 0 length) offset count = slice? buf offset count := by
  have size : (buf.extract 0 length).size = min length buf.size := Array.size_extract
  have part : (buf.extract 0 length).extract offset (offset + count) =
      buf.extract offset (offset + count) := by
    rw [Array.extract_extract, Nat.zero_add, Nat.zero_add, Nat.min_eq_left fits]
  unfold slice?
  rw [size, part]
  by_cases within : offset + count ≤ buf.size
  · rw [if_pos within, if_pos (Nat.le_min.mpr ⟨fits, within⟩)]
  · rw [if_neg within, if_neg fun both => within (Nat.le_min.mp both).2]

theorem number?_extract (fits : offset + count ≤ length) :
    number? (buf.extract 0 length) offset count = number? buf offset count := by
  rw [number?, slice?_extract fits, number?]

theorem bigNumber?_extract (fits : offset + count ≤ length) :
    bigNumber? (buf.extract 0 length) offset count = bigNumber? buf offset count := by
  rw [bigNumber?, slice?_extract fits, bigNumber?]

theorem hasBootSignature_extract (fits : 512 ≤ length) :
    hasBootSignature (buf.extract 0 length) = hasBootSignature buf := by
  rw [hasBootSignature, number?_extract fits, hasBootSignature]

theorem toList_extract_zero : (buf.extract 0 length).toList = buf.toList.take length := by
  rw [Array.toList_extract, List.extract, List.drop_zero, Nat.sub_zero]

/-- A pattern stands in the first bytes of a buffer if it stands in the buffer and ends there. -/
theorem hasAt_extract_iff (nonempty : pattern ≠ []) :
    hasAt (buf.extract 0 length) offset pattern = true ↔
      hasAt buf offset pattern = true ∧ offset + pattern.length ≤ length := by
  have size : (buf.extract 0 length).size = min length buf.size := Array.size_extract
  have long : 0 < pattern.length := List.length_pos_iff.mpr nonempty
  rw [hasAt_iff, hasAt_iff, toList_extract_zero, size, List.drop_take, List.prefix_take_iff]
  constructor
  · rintro ⟨le, there, fits⟩
    exact ⟨⟨by omega, there⟩, by omega⟩
  · rintro ⟨⟨le, there⟩, fits⟩
    exact ⟨by omega, there, by omega⟩

theorem hasAt_extract (nonempty : pattern ≠ []) (fits : offset + pattern.length ≤ length) :
    hasAt (buf.extract 0 length) offset pattern = hasAt buf offset pattern := by
  rw [Bool.eq_iff_iff, hasAt_extract_iff nonempty, and_iff_left fits]

theorem hasAt_extract_of_lt (nonempty : pattern ≠ []) (past : length < offset + pattern.length) :
    hasAt (buf.extract 0 length) offset pattern = false :=
  eq_false_of_ne_true fun there =>
    Nat.not_le.mpr past ((hasAt_extract_iff nonempty).mp there).2

theorem hasWithin_extract (fits : limit ≤ length) :
    hasWithin (buf.extract 0 length) limit pattern = hasWithin buf limit pattern := by
  rw [Bool.eq_iff_iff, hasWithin_iff, hasWithin_iff, toList_extract_zero, List.take_take,
    Nat.min_eq_left fits]

theorem size_extract_lt_iff (fits : limit ≤ length) :
    (buf.extract 0 length).size < limit ↔ buf.size < limit := by
  rw [Array.size_extract]
  omega

theorem toNat_zeros (count : Nat) : Bytes.toNat (List.replicate count 0) = 0 := by
  induction count with
  | zero => rfl
  | succ count ih => rw [List.replicate_succ, Bytes.toNat, ih, UInt8.toNat_zero]

theorem number?_of_zeros {zeros : Nat} {rest : Bytes}
    (start : buf.toList = List.replicate zeros 0 ++ rest) (fits : offset + count ≤ zeros) :
    number? buf offset count = some 0 := by
  have size : buf.size = zeros + rest.length := by
    rw [← Array.length_toList, start, List.length_append, List.length_replicate]
  have within : offset + count ≤ buf.size := by omega
  have part : (buf.extract offset (offset + count)).toList = List.replicate count 0 := by
    rw [Array.toList_extract, List.extract, start, List.drop_append_of_le_length,
      List.drop_replicate, List.take_append_of_le_length, List.take_replicate]
    · congr 1
      omega
    · rw [List.length_replicate]
      omega
    · rw [List.length_replicate]
      omega
  rw [number?, slice?, if_pos within, part, Option.map_some, toNat_zeros]

end

end Buffer

/-! ## The formats near the start, and those behind them -/

namespace Signature

open Buffer

/-- Where the last of the formats near the start ends. -/
def lowEnd : Nat := 32768 + 4

/-- Where the description of ReiserFS ends. -/
def reiserFsEnd : Nat := highSuperblock + 100

/-- Where the mark of Btrfs ends. -/
def btrfsEnd : Nat := highSuperblock + 72

/-- The formats that are tried after ReiserFS and Btrfs. -/
def low? (buf : Array UInt8) (ctx : DetectContext) : Option Match :=
  xfs? buf <|> jfs? buf <|> hfsPlus? buf <|> bootSector? buf ctx

theorem match?_eq (buf : Array UInt8) (ctx : DetectContext) :
    match? buf ctx = (ext? buf <|> reiserFs? buf <|> btrfs? buf <|> low? buf ctx) :=
  rfl

section

variable {buf : Array UInt8} {length : Nat}

theorem uuidAt_extract {offset : Nat} (fits : offset + 16 ≤ length) :
    uuidAt (buf.extract 0 length) offset = uuidAt buf offset := by
  rw [uuidAt, bigNumber?_extract fits, uuidAt]

theorem ext?_extract (fits : lowEnd ≤ length) : ext? (buf.extract 0 length) = ext? buf := by
  have within {place : Nat} (low : place ≤ lowEnd) : place ≤ length := Nat.le_trans low fits
  have number (offset count : Nat) (low : offset + count ≤ lowEnd) :
      number? (buf.extract 0 length) offset count = number? buf offset count :=
    number?_extract (within low)
  have size : (buf.extract 0 length).size < superblock + 100 ↔ buf.size < superblock + 100 :=
    size_extract_lt_iff (within (by decide))
  have uuid : uuidAt (buf.extract 0 length) (superblock + 104) = uuidAt buf (superblock + 104) :=
    uuidAt_extract (within (by decide))
  unfold ext?
  simp only [size, uuid, number (superblock + 56) 2 (by decide),
    number (superblock + 92) 4 (by decide), number (superblock + 96) 4 (by decide)]

theorem xfs?_extract (fits : lowEnd ≤ length) : xfs? (buf.extract 0 length) = xfs? buf := by
  unfold lowEnd at fits
  have size : 512 ≤ (buf.extract 0 length).size ↔ 512 ≤ buf.size := by
    rw [Array.size_extract]
    omega
  have text : hasAt (buf.extract 0 length) 0 (ascii "XFSB") = hasAt buf 0 (ascii "XFSB") :=
    hasAt_extract (by decide) (Nat.le_trans (by decide) fits)
  unfold xfs?
  simp only [size, text]

theorem jfs?_extract (fits : lowEnd ≤ length) : jfs? (buf.extract 0 length) = jfs? buf := by
  unfold jfs?
  rw [hasAt_extract (by decide) fits]

theorem hfsPlus?_extract (fits : lowEnd ≤ length) :
    hfsPlus? (buf.extract 0 length) = hfsPlus? buf := by
  have magic : superblock + 2 ≤ length := Nat.le_trans (by decide) fits
  have notes : superblock + 0x50 + 24 + 8 ≤ length := Nat.le_trans (by decide) fits
  unfold hfsPlus?
  rw [number?_extract magic, bigNumber?_extract notes]

theorem bootSector?_extract (fits : lowEnd ≤ length) (ctx : DetectContext) :
    bootSector? (buf.extract 0 length) ctx = bootSector? buf ctx := by
  have sector : 512 ≤ length := Nat.le_trans (by decide) fits
  have text (offset : Nat) (s : String) (nonempty : ascii s ≠ [])
      (within : offset + (ascii s).length ≤ 512) :
      hasAt (buf.extract 0 length) offset (ascii s) = hasAt buf offset (ascii s) :=
    hasAt_extract nonempty (Nat.le_trans within sector)
  have number (offset count : Nat) (within : offset + count ≤ 512) :
      number? (buf.extract 0 length) offset count = number? buf offset count :=
    number?_extract (Nat.le_trans within sector)
  unfold bootSector?
  simp only [size_extract_lt_iff sector, hasBootSignature_extract sector,
    hasWithin_extract sector, text 3 "NTFS    " (by decide) (by decide),
    text 0x36 "FAT12   " (by decide) (by decide), text 0x36 "FAT16   " (by decide) (by decide),
    text 0x52 "FAT32   " (by decide) (by decide), number 0x48 8 (by decide),
    number 0x27 4 (by decide), number 0x43 4 (by decide), number 0x64 4 (by decide)]

theorem low?_extract (fits : lowEnd ≤ length) (ctx : DetectContext) :
    low? (buf.extract 0 length) ctx = low? buf ctx := by
  unfold low?
  rw [xfs?_extract fits, jfs?_extract fits, hfsPlus?_extract fits, bootSector?_extract fits]

/-- ReiserFS is told from the first bytes as from all, or not at all. -/
theorem reiserFs?_extract :
    reiserFs? (buf.extract 0 length) = if reiserFsEnd ≤ length then reiserFs? buf else none := by
  unfold reiserFs?
  by_cases fits : reiserFsEnd ≤ length
  · have text (s : String) (nonempty : ascii s ≠ [])
        (within : highSuperblock + 52 + (ascii s).length ≤ reiserFsEnd) :
        hasAt (buf.extract 0 length) (highSuperblock + 52) (ascii s) =
          hasAt buf (highSuperblock + 52) (ascii s) :=
      hasAt_extract nonempty (Nat.le_trans within fits)
    have size : (buf.extract 0 length).size < highSuperblock + 100 ↔
        buf.size < highSuperblock + 100 :=
      size_extract_lt_iff fits
    have uuid : uuidAt (buf.extract 0 length) (highSuperblock + 84) =
        uuidAt buf (highSuperblock + 84) :=
      uuidAt_extract fits
    simp only [if_pos fits, size, uuid, text "ReIsErFs" (by decide) (by decide),
      text "ReIsEr2Fs" (by decide) (by decide), text "ReIsEr3Fs" (by decide) (by decide)]
  · have short : (buf.extract 0 length).size < highSuperblock + 100 := by
      unfold reiserFsEnd at fits
      rw [Array.size_extract]
      omega
    rw [if_neg fits]
    exact if_pos short

/-- So is Btrfs, which takes fewer of them. -/
theorem btrfs?_extract :
    btrfs? (buf.extract 0 length) = if btrfsEnd ≤ length then btrfs? buf else none := by
  unfold btrfs?
  by_cases fits : btrfsEnd ≤ length
  · rw [if_pos fits, hasAt_extract (by decide) fits]
  · rw [if_neg fits, hasAt_extract_of_lt (by decide) (Nat.not_le.mp fits)]
    rfl

end

/-- A buffer holds a filesystem whose description does not end within its first bytes. -/
def IsBehind (length : Nat) (buf : Array UInt8) : Prop :=
  ext? buf = none ∧
    (length < reiserFsEnd ∧ (reiserFs? buf).isSome ∨
      length < btrfsEnd ∧ reiserFs? buf = none ∧ (btrfs? buf).isSome)

/-! ## The kinds of filesystems that are told -/

section

variable {buf : Array UInt8} {ctx : DetectContext} {fsType : FsType} {serial : Serial}

/-- The kinds of filesystems that are described far from the start. -/
def IsHigh (fsType : FsType) : Prop :=
  fsType = .reiserFs ∨ fsType = .btrfs

instance : DecidablePred IsHigh :=
  fun fsType => inferInstanceAs (Decidable (fsType = .reiserFs ∨ fsType = .btrfs))

theorem of_ext?_eq_some (found : ext? buf = some (fsType, serial)) :
    number? buf (superblock + 56) 2 = some 0xEF53 ∧ ¬IsHigh fsType := by
  unfold ext? at found
  split at found
  · cases found
  · obtain ⟨magic, known, found⟩ := Option.bind_eq_some_iff.mp found
    split at found
    · cases found
    · rename_i fits
      obtain ⟨compatible, -, found⟩ := Option.bind_eq_some_iff.mp found
      obtain ⟨incompatible, -, found⟩ := Option.bind_eq_some_iff.mp found
      refine ⟨not_not.mp fits ▸ known, ?_⟩
      obtain ⟨rfl, -⟩ := Prod.mk.inj (Option.some.inj found)
      split
      · decide
      · split
        · decide
        · decide

theorem ext?_of_zeros {zeros : Nat} {rest : Bytes}
    (start : buf.toList = List.replicate zeros 0 ++ rest) (fits : superblock + 56 + 2 ≤ zeros) :
    ext? buf = none := by
  refine Option.eq_none_iff_forall_ne_some.mpr fun pair found => ?_
  have magic := (of_ext?_eq_some found).1
  rw [number?_of_zeros start fits] at magic
  exact absurd magic (by decide)

theorem reiserFs?_eq_some (found : reiserFs? buf = some (fsType, serial)) : fsType = .reiserFs := by
  simp only [reiserFs?] at found
  split at found
  · cases found
  · split at found
    · exact (Prod.mk.inj (Option.some.inj found)).1.symm
    · cases found

theorem isSome_reiserFs? (long : reiserFsEnd ≤ buf.size)
    (mark : hasAt buf (highSuperblock + 52) (ascii "ReIsErFs") = true) :
    (reiserFs? buf).isSome := by
  have enough : ¬buf.size < highSuperblock + 100 := Nat.not_lt.mpr long
  simp only [reiserFs?, if_neg enough, mark, Bool.true_or, if_true, Option.isSome_some]

theorem btrfs?_eq_some (found : btrfs? buf = some (fsType, serial)) : fsType = .btrfs := by
  unfold btrfs? at found
  split at found
  · exact (Prod.mk.inj (Option.some.inj found)).1.symm
  · cases found

theorem not_isHigh_of_low? (found : low? buf ctx = some (fsType, serial)) : ¬IsHigh fsType := by
  simp only [low?, Option.orElse_eq_orElse, Option.orElse_eq_or, Option.or_eq_some_iff] at found
  obtain xfs | ⟨-, jfs | ⟨-, hfsPlus | ⟨-, sector⟩⟩⟩ := found
  · unfold xfs? at xfs
    split at xfs <;> cases xfs
    decide
  · unfold jfs? at jfs
    split at jfs <;> cases jfs
    decide
  · unfold hfsPlus? at hfsPlus
    split at hfsPlus
    · split at hfsPlus <;> cases hfsPlus
      decide
    · cases hfsPlus
  · unfold bootSector? at sector
    split_ifs at sector <;> cases sector <;> decide

theorem not_isHigh_guess (ctx : DetectContext) : ¬IsHigh (guess ctx).fsType := by
  unfold guess
  split_ifs <;> simp [IsHigh]

end

end Signature

namespace Detection

open Signature

section

variable {buf : Array UInt8} {ctx : DetectContext} {length : Nat}

/-- What is told of a volume, format by format. -/
theorem ofBuffer_eq (buf : Array UInt8) (ctx : DetectContext) :
    ofBuffer buf ctx = (ext? buf <|> reiserFs? buf <|> btrfs? buf <|> low? buf ctx).elim
      (guess ctx) fun found => ⟨found.1, found.2, ctx.partType⟩ := by
  rw [ofBuffer, match?_eq]
  split
  · rename_i found
    rw [found]
    rfl
  · rename_i none
    rw [none]
    rfl

theorem fsType_ofBuffer_of_reiserFs? (other : ext? buf = none) (found : (reiserFs? buf).isSome) :
    (ofBuffer buf ctx).fsType = .reiserFs := by
  obtain ⟨⟨fsType, serial⟩, found⟩ := Option.isSome_iff_exists.mp found
  rw [ofBuffer_eq, other, found]
  exact reiserFs?_eq_some found

theorem fsType_ofBuffer_of_btrfs? (other : ext? buf = none) (another : reiserFs? buf = none)
    (found : (btrfs? buf).isSome) : (ofBuffer buf ctx).fsType = .btrfs := by
  obtain ⟨⟨fsType, serial⟩, found⟩ := Option.isSome_iff_exists.mp found
  rw [ofBuffer_eq, other, another, found]
  exact btrfs?_eq_some found

theorem not_isHigh_ofBuffer (another : reiserFs? buf = none)
    (hidden : (ext? buf).isSome ∨ btrfs? buf = none) : ¬IsHigh (ofBuffer buf ctx).fsType := by
  rw [ofBuffer_eq, another]
  cases ext : ext? buf with
  | some found => exact (of_ext?_eq_some ext).2
  | none =>
    have third : btrfs? buf = none := by simpa [ext] using hidden
    rw [third]
    cases low : low? buf ctx with
    | some found => exact not_isHigh_of_low? low
    | none => exact not_isHigh_guess ctx

theorem fsType_ofBuffer_ne_reiserFs (another : reiserFs? buf = none) :
    (ofBuffer buf ctx).fsType ≠ .reiserFs := by
  intro told
  by_cases hidden : (ext? buf).isSome ∨ btrfs? buf = none
  · exact not_isHigh_ofBuffer another hidden (.inl told)
  · obtain ⟨other, third⟩ := not_or.mp hidden
    have btrfs : (ofBuffer buf ctx).fsType = .btrfs :=
      fsType_ofBuffer_of_btrfs? (Option.not_isSome_iff_eq_none.mp other) another
        (Option.isSome_iff_ne_none.mpr third)
    cases told.symm.trans btrfs

/-- If the first bytes of a buffer tell the same as all of them, nothing that those tell of is
described behind the first ones. -/
theorem not_isBehind_of_same (same : ofBuffer (buf.extract 0 length) ctx = ofBuffer buf ctx) :
    ¬IsBehind length buf := by
  rintro ⟨other, ⟨short, found⟩ | ⟨short, another, found⟩⟩
  · have told : (ofBuffer (buf.extract 0 length) ctx).fsType = .reiserFs := by
      rw [same]
      exact fsType_ofBuffer_of_reiserFs? other found
    have gone : reiserFs? (buf.extract 0 length) = none := by
      rw [reiserFs?_extract, if_neg (Nat.not_le.mpr short)]
    exact fsType_ofBuffer_ne_reiserFs gone told
  · have told : (ofBuffer (buf.extract 0 length) ctx).fsType = .btrfs := by
      rw [same]
      exact fsType_ofBuffer_of_btrfs? other another found
    have gone : reiserFs? (buf.extract 0 length) = none := by
      rw [reiserFs?_extract, another, ite_self]
    have third : btrfs? (buf.extract 0 length) = none := by
      rw [btrfs?_extract, if_neg (Nat.not_le.mpr short)]
    exact not_isHigh_ofBuffer gone (.inr third) (.inr told)

theorem ofBuffer_extract (fits : lowEnd ≤ length) (seen : ¬IsBehind length buf) :
    ofBuffer (buf.extract 0 length) ctx = ofBuffer buf ctx := by
  rw [ofBuffer_eq, ofBuffer_eq, ext?_extract fits, low?_extract fits, reiserFs?_extract,
    btrfs?_extract]
  cases other : ext? buf with
  | some pair => rfl
  | none =>
    by_cases far : reiserFsEnd ≤ length
    · rw [if_pos far, if_pos (Nat.le_trans (by decide) far)]
    · -- a format that is out of reach must not fit the whole buffer either
      have another : reiserFs? buf = none :=
        Option.not_isSome_iff_eq_none.mp fun found =>
          seen ⟨other, .inl ⟨Nat.not_le.mp far, found⟩⟩
      rw [if_neg far, another]
      by_cases near : btrfsEnd ≤ length
      · rw [if_pos near]
      · have third : btrfs? buf = none :=
          Option.not_isSome_iff_eq_none.mp fun found =>
            seen ⟨other, .inr ⟨Nat.not_le.mp near, another, found⟩⟩
        rw [if_neg near, third]

/-- The first bytes of a buffer tell the same as all of them, unless what those tell of is described
behind the first ones. -/
theorem ofBuffer_extract_iff (fits : lowEnd ≤ length) :
    ofBuffer (buf.extract 0 length) ctx = ofBuffer buf ctx ↔ ¬IsBehind length buf :=
  ⟨not_isBehind_of_same, ofBuffer_extract fits⟩

end

end Detection

/-! ## Disks in memory -/

namespace Sample

/-- How many bytes a sample has at most: as many as whole blocks of a size fit. -/
def reach (blockSize : Nat) : Nat :=
  sampleSize / blockSize * blockSize

theorem lowEnd_le_reach {blockSize : Nat} (pos : 0 < blockSize) (le : blockSize ≤ sampleSize) :
    Signature.lowEnd ≤ reach blockSize := by
  have split := Nat.div_add_mod sampleSize blockSize
  have part := Nat.mod_lt sampleSize pos
  have once : 1 * blockSize ≤ sampleSize / blockSize * blockSize :=
    Nat.mul_le_mul_right _ (Nat.div_pos le pos)
  rw [Nat.mul_comm] at split
  unfold reach
  unfold sampleSize at *
  unfold Signature.lowEnd
  omega

/-- The sample of a disk in memory is made of its first bytes. -/
theorem read_memory {blockSize : Nat} (pos : 0 < blockSize) (le : blockSize ≤ sampleSize)
    (data : Array UInt8) (isPartition : Bool) :
    read (.memory data blockSize isPartition) 0 =
      .ok ((Device.padded data blockSize).extract 0 (reach blockSize)) := by
  have size := Device.size_padded pos data
  have atLeast : 0 < Device.blocksFor blockSize data.size := Nat.succ_pos _
  have fits : 0 < sampleSize / blockSize := Nat.div_pos le pos
  have count : blockCount (.memory data blockSize isPartition) 0 =
      min (Device.blocksFor blockSize data.size) (sampleSize / blockSize) := by
    have short : sampleSize / blockSize ≤ sampleSize := Nat.div_le_self _ _
    rw [blockCount_memory pos]
    unfold sampleSize UInt64.size at *
    omega
  have within :
      0 + min (Device.blocksFor blockSize data.size) (sampleSize / blockSize) * blockSize ≤
        (Device.padded data blockSize).size := by
    rw [size, Nat.zero_add]
    exact Nat.mul_le_mul_right _ (Nat.min_le_left _ _)
  have same : (Device.padded data blockSize).extract 0
      (min (Device.blocksFor blockSize data.size) (sampleSize / blockSize) * blockSize) =
        (Device.padded data blockSize).extract 0 (reach blockSize) := by
    rw [Array.extract_eq_extract_right, size, reach]
    simp only [Nat.sub_zero, ← Nat.mul_min_mul_right]
    omega
  rw [read_memory_of_blockCount pos le count (by omega) (by omega), Nat.zero_mul,
    ← Device.extract_padded within, Nat.zero_add, same]

/-- What is told of a disk in memory from a sample of it. -/
def told (blockSize : Nat) (data : Array UInt8) (isPartition : Bool) (ctx : DetectContext)
    (legacy : LegacyBoot) (hasFiles : Logged Bool) : Detection :=
  (take (.memory data blockSize isPartition) 0 ctx legacy hasFiles).value.detection

/-- What a sample of a disk in memory tells, next to all of its bytes. -/
structure SamplingLaw (blockSize : Nat) : Prop where
  /-- A sample tells the same as the whole disk exactly if the filesystem is not described behind
  its end. -/
  told_iff : ∀ data isPartition ctx legacy hasFiles,
    told blockSize data isPartition ctx legacy hasFiles =
        Detection.ofBuffer (Device.padded data blockSize) ctx ↔
      ¬Signature.IsBehind (reach blockSize) (Device.padded data blockSize)
  /-- It always does exactly if a sample can reach the end of the last format. -/
  always_iff : (∀ data isPartition ctx legacy hasFiles,
    told blockSize data isPartition ctx legacy hasFiles =
      Detection.ofBuffer (Device.padded data blockSize) ctx) ↔
        Signature.reiserFsEnd ≤ reach blockSize
  /-- The block sizes that divide the length of a sample are among those where it can. -/
  whole : blockSize ∣ sampleSize → Signature.reiserFsEnd ≤ reach blockSize

section

variable {blockSize : Nat}

theorem told_eq_iff (pos : 0 < blockSize) (le : blockSize ≤ sampleSize) (data : Array UInt8)
    (isPartition : Bool) (ctx : DetectContext) (legacy : LegacyBoot) (hasFiles : Logged Bool) :
    told blockSize data isPartition ctx legacy hasFiles =
        Detection.ofBuffer (Device.padded data blockSize) ctx ↔
      ¬Signature.IsBehind (reach blockSize) (Device.padded data blockSize) := by
  rw [told, Volume.value_take_of_read (read_memory pos le data isPartition)]
  exact Detection.ofBuffer_extract_iff (lowEnd_le_reach pos le)

end

/-! ## A description at the very end -/

/-- The mark of ReiserFS among zeros, which end where its description does. -/
def lateMark : Array UInt8 :=
  (List.replicate (Signature.highSuperblock + 52) 0 ++
    (Buffer.ascii "ReIsErFs" ++ List.replicate 40 0)).toArray

theorem toList_lateMark : lateMark.toList = List.replicate (Signature.highSuperblock + 52) 0 ++
    (Buffer.ascii "ReIsErFs" ++ List.replicate 40 0) :=
  List.toList_toArray

theorem isBehind_lateMark {blockSize length : Nat} (short : length < Signature.reiserFsEnd) :
    Signature.IsBehind length (Device.padded lateMark blockSize) := by
  -- padding only adds zeros behind the content, and those change nothing
  obtain ⟨count, split⟩ := Device.toList_padded lateMark blockSize
  generalize Device.padded lateMark blockSize = buf at split
  rw [toList_lateMark, List.append_assoc, List.append_assoc] at split
  have size : buf.size = Signature.reiserFsEnd + count := by
    have mark : (Buffer.ascii "ReIsErFs").length = 8 := by decide
    rw [← Array.length_toList, split, Signature.reiserFsEnd]
    simp only [List.length_append, List.length_replicate, mark]
    omega
  have mark : Buffer.hasAt buf (Signature.highSuperblock + 52)
      (Buffer.ascii "ReIsErFs") = true := by
    refine Buffer.hasAt_iff.mpr ⟨?_, ?_⟩
    · rw [size, Signature.reiserFsEnd]
      omega
    · rw [split, List.drop_left' List.length_replicate]
      exact List.prefix_append _ _
  have long : Signature.reiserFsEnd ≤ buf.size := size ▸ Nat.le_add_right _ _
  exact ⟨Signature.ext?_of_zeros split (by decide),
    .inl ⟨short, Signature.isSome_reiserFs? long mark⟩⟩

/-- A sample of a disk in memory tells its filesystem, unless it is one of the two that are
described behind the end of a sample of that block size. -/
theorem take_samplingLaw (blockSize : Nat) (pos : 0 < blockSize) (le : blockSize ≤ sampleSize) :
    SamplingLaw blockSize where
  told_iff := told_eq_iff pos le
  always_iff := by
    constructor
    · intro always
      refine Nat.not_lt.mp fun short => ?_
      have same := always lateMark false ⟨blockSize, false, none, false, false⟩ .none (pure false)
      exact (told_eq_iff pos le _ _ _ _ _).mp same (isBehind_lateMark short)
    · intro far data isPartition ctx legacy hasFiles
      refine (told_eq_iff pos le _ _ _ _ _).mpr fun behind => ?_
      have near : Signature.btrfsEnd ≤ Signature.reiserFsEnd := by decide
      obtain ⟨-, ⟨short, -⟩ | ⟨short, -⟩⟩ := behind
      · omega
      · omega
  whole := by
    intro divides
    rw [reach, Nat.div_mul_cancel divides]
    decide

theorem take_samplingLaw_sectors : 0 < 512 ∧ 512 ≤ sampleSize ∧ SamplingLaw 512 :=
  ⟨by decide, by decide, take_samplingLaw 512 (by decide) (by decide)⟩

/-- A partition with large blocks. -/
def largeBlocks : DetectContext :=
  ⟨8192, true, none, false, false⟩

/-- With blocks of 8192 bytes a sample ends before the mark of ReiserFS does. -/
theorem lateMark_not_told :
    told 8192 lateMark true largeBlocks .none (pure false) ≠
      Detection.ofBuffer (Device.padded lateMark 8192) largeBlocks := by
  have short : reach 8192 < Signature.reiserFsEnd := by decide
  exact fun same =>
    (told_eq_iff (by decide) (by decide) _ _ _ _ _).mp same (isBehind_lateMark short)

end Sample

end BootManager
