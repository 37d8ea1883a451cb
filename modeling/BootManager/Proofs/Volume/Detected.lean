import BootManager.Proofs.Volume.BufferBytes
import BootManager.Proofs.Volume.Sampling

/-!
# What is told of a volume

A filesystem is told by marks at fixed places, and by what surrounds the volume if there is no mark
at all. Whatever the bytes and the surroundings are, a serial is told only of the filesystems that
have one of its form, and the type of the partition is only ever supplied, never changed. The main
result is `Detection.ofBuffer_detectionLaw`.
-/

namespace BootManager

/-! ## Marks of formats -/

/-- The kinds of filesystems of which a serial of some form can be told. -/
def Serial.Suits : Serial → FsType → Prop
  | .none, _ => True
  | .uuid _, fsType => fsType ∈ [.ext2, .ext3, .ext4, .reiserFs]
  | .hfs number, fsType => fsType = .hfsPlus ∧ number ≠ 0
  | .ntfs _, fsType => fsType = .ntfs
  | .fat _, fsType => fsType = .fat
  | .exFat _, fsType => fsType = .exFat

namespace Signature

open Buffer

/-- A mark of a format: bytes at a place of a buffer that has some length at least. -/
structure Mark where
  place : Nat
  bytes : Bytes
  least : Nat := 0

/-- The marks of all formats, in the order in which they are looked for. -/
def marks : List Mark :=
  [⟨superblock + 56, [0x53, 0xEF], superblock + 100⟩,
    ⟨highSuperblock + 52, ascii "ReIsErFs", reiserFsEnd⟩,
    ⟨highSuperblock + 52, ascii "ReIsEr2Fs", reiserFsEnd⟩,
    ⟨highSuperblock + 52, ascii "ReIsEr3Fs", reiserFsEnd⟩,
    ⟨highSuperblock + 64, ascii "_BHRfS_M", 0⟩,
    ⟨0, ascii "XFSB", 512⟩,
    ⟨32768, ascii "JFS1", 0⟩,
    ⟨superblock, ascii "H+", 0⟩,
    ⟨superblock, ascii "HX", 0⟩,
    ⟨510, [0x55, 0xAA], 0⟩]

/-- Some format has a mark in a buffer. -/
def IsMarked (buf : Array UInt8) : Prop :=
  ∃ mark ∈ marks, mark.least ≤ buf.size ∧ StandsAt buf mark.place mark.bytes

instance : DecidablePred IsMarked :=
  fun buf => inferInstanceAs
    (Decidable (∃ mark ∈ marks, mark.least ≤ buf.size ∧ StandsAt buf mark.place mark.bytes))

/-- What a format can tell: a kind that is told from bytes, with a serial that suits it. -/
structure IsProper (fsType : FsType) (serial : Serial) : Prop where
  not_apfs : fsType ≠ .apfs
  not_iso9660 : fsType ≠ .iso9660
  suits : serial.Suits fsType

section

variable {buf : Array UInt8} {ctx : DetectContext} {fsType : FsType} {serial : Serial}

theorem suits_uuidAt (known : fsType ∈ [.ext2, .ext3, .ext4, .reiserFs]) (offset : Nat) :
    (uuidAt buf offset).Suits fsType := by
  unfold uuidAt
  split
  · exact known
  · trivial

/-- A serial that is zero on the disk is not told. -/
theorem suits_hfs (offset : Nat) :
    (serial64 .hfs ((bigNumber? buf offset 8).filter (· != 0))).Suits .hfsPlus := by
  unfold serial64
  split
  · rename_i number known
    obtain ⟨known, kept⟩ := Option.filter_eq_some_iff.mp known
    have some : number ≠ 0 := by simpa using kept
    have small : number < 2 ^ 64 := lt_of_bigNumber? known
    refine ⟨rfl, fun zero => some ?_⟩
    have zero := congrArg UInt64.toNat zero
    rwa [UInt64.toNat_ofNat_of_lt' small] at zero
  · trivial

theorem isProper_none {kind : FsType} (not_apfs : kind ≠ .apfs) (not_iso9660 : kind ≠ .iso9660) :
    IsProper kind .none :=
  ⟨not_apfs, not_iso9660, trivial⟩

theorem isProper_of_ite {c : Prop} [Decidable c] {kind : FsType} {number : Serial}
    (proper : IsProper kind number)
    (told : (if c then some (kind, number) else none) = some (fsType, serial)) :
    IsProper fsType serial := by
  split at told
  · cases told
    exact proper
  · cases told

theorem isProper_of_ext? (told : ext? buf = some (fsType, serial)) : IsProper fsType serial := by
  unfold ext? at told
  split at told
  · cases told
  · obtain ⟨magic, -, told⟩ := Option.bind_eq_some_iff.mp told
    split at told
    · cases told
    · obtain ⟨compatible, -, told⟩ := Option.bind_eq_some_iff.mp told
      obtain ⟨incompatible, -, told⟩ := Option.bind_eq_some_iff.mp told
      obtain ⟨rfl, rfl⟩ := Prod.mk.inj (Option.some.inj told)
      split_ifs
      · exact ⟨by decide, by decide, suits_uuidAt (by decide) _⟩
      · exact ⟨by decide, by decide, suits_uuidAt (by decide) _⟩
      · exact ⟨by decide, by decide, suits_uuidAt (by decide) _⟩

theorem isProper_of_reiserFs? (told : reiserFs? buf = some (fsType, serial)) :
    IsProper fsType serial := by
  unfold reiserFs? at told
  dsimp only at told
  split at told
  · cases told
  · exact isProper_of_ite ⟨by decide, by decide, suits_uuidAt (by decide) _⟩ told

theorem isProper_of_hfsPlus? (told : hfsPlus? buf = some (fsType, serial)) :
    IsProper fsType serial := by
  unfold hfsPlus? at told
  split at told
  · exact isProper_of_ite ⟨by decide, by decide, suits_hfs _⟩ told
  · cases told

theorem isProper_of_bootSector? (told : bootSector? buf ctx = some (fsType, serial)) :
    IsProper fsType serial := by
  have ntfs (number : Option Nat) : (serial64 .ntfs number).Suits .ntfs := by
    cases number <;> trivial
  have fat (number : Option Nat) : (serial32 .fat number).Suits .fat := by
    cases number <;> trivial
  have exFat (number : Option Nat) : (serial32 .exFat number).Suits .exFat := by
    cases number <;> trivial
  unfold bootSector? at told
  split_ifs at told <;> obtain ⟨rfl, rfl⟩ := Prod.mk.inj (Option.some.inj told)
  · exact ⟨by decide, by decide, ntfs _⟩
  · exact ⟨by decide, by decide, fat _⟩
  · exact ⟨by decide, by decide, fat _⟩
  · exact ⟨by decide, by decide, exFat _⟩
  · exact ⟨by decide, by decide, trivial⟩
  · exact ⟨by decide, by decide, trivial⟩

/-- Whatever format fits first, what it tells is proper. -/
theorem isProper_of_match? (told : match? buf ctx = some (fsType, serial)) :
    IsProper fsType serial := by
  simp only [match?, Option.orElse_eq_orElse, Option.orElse_eq_or, Option.or_eq_some_iff] at told
  rcases told with ext | ⟨-, reiserFs | ⟨-, btrfs | ⟨-, xfs | ⟨-, jfs | ⟨-, hfsPlus |
    ⟨-, sector⟩⟩⟩⟩⟩⟩
  · exact isProper_of_ext? ext
  · exact isProper_of_reiserFs? reiserFs
  · exact isProper_of_ite (isProper_none (by decide) (by decide)) btrfs
  · exact isProper_of_ite (isProper_none (by decide) (by decide)) xfs
  · exact isProper_of_ite (isProper_none (by decide) (by decide)) jfs
  · exact isProper_of_hfsPlus? hfsPlus
  · exact isProper_of_bootSector? sector

/-! ## When no format fits -/

theorem isSome_ext?_iff : (ext? buf).isSome = true ↔
    superblock + 100 ≤ buf.size ∧ StandsAt buf (superblock + 56) [0x53, 0xEF] := by
  have mark : number? buf (superblock + 56) 2 = some 0xEF53 ↔
    StandsAt buf (superblock + 56) [0x53, 0xEF] := number?_eq_some_iff [0x53, 0xEF] (by decide)
  rw [← mark]
  unfold ext?
  by_cases short : buf.size < superblock + 100
  · rw [if_pos short]
    simp
    omega
  · have number (offset : Nat) (within : offset + 4 ≤ superblock + 100) :
        (number? buf offset 4).isSome = true := isSome_number?.mpr (by omega)
    obtain ⟨compatible, first⟩ := Option.isSome_iff_exists.mp (number (superblock + 92) (by decide))
    obtain ⟨incompatible, second⟩ :=
      Option.isSome_iff_exists.mp (number (superblock + 96) (by decide))
    rw [if_neg short, first, second]
    cases number? buf (superblock + 56) 2 with
    | none => simp
    | some magic =>
      by_cases same : magic = 0xEF53
      · simp [same]
        omega
      · simp [same]

theorem isSome_reiserFs?_iff : (reiserFs? buf).isSome = true ↔ reiserFsEnd ≤ buf.size ∧
    (StandsAt buf (highSuperblock + 52) (ascii "ReIsErFs") ∨
      StandsAt buf (highSuperblock + 52) (ascii "ReIsEr2Fs") ∨
      StandsAt buf (highSuperblock + 52) (ascii "ReIsEr3Fs")) := by
  rw [← hasAt_iff_standsAt (by decide), ← hasAt_iff_standsAt (by decide),
    ← hasAt_iff_standsAt (by decide), ← Nat.not_lt, reiserFsEnd]
  unfold reiserFs?
  dsimp only
  by_cases short : buf.size < highSuperblock + 100
  · simp [short]
  · simp [short, or_assoc]

theorem isSome_hfsPlus?_iff : (hfsPlus? buf).isSome = true ↔
    StandsAt buf superblock (ascii "H+") ∨ StandsAt buf superblock (ascii "HX") := by
  have plus : number? buf superblock 2 = some 0x2B48 ↔ StandsAt buf superblock (ascii "H+") :=
    number?_eq_some_iff (ascii "H+") (by decide)
  have x : number? buf superblock 2 = some 0x5848 ↔ StandsAt buf superblock (ascii "HX") :=
    number?_eq_some_iff (ascii "HX") (by decide)
  rw [← plus, ← x]
  unfold hfsPlus?
  cases number? buf superblock 2 with
  | none => simp
  | some magic => by_cases known : magic = 0x2B48 ∨ magic = 0x5848 <;> simp [known]

/-- A boot signature always decides. -/
theorem isSome_bootSector?_iff : (bootSector? buf ctx).isSome = true ↔
    StandsAt buf 510 [0x55, 0xAA] := by
  rw [← hasBootSignature_iff]
  unfold bootSector?
  by_cases signed : hasBootSignature buf = true
  · have long : 510 + 2 ≤ buf.size := (hasBootSignature_iff.mp signed).le (by decide)
    have first : ¬(buf.size < 512 ∨ hasBootSignature buf = false) := by simp [signed]; omega
    rw [if_neg first]
    split_ifs <;> simp [signed]
  · simp [signed]

theorem isSome_ite {c : Prop} [Decidable c] {m : Match} :
    (if c then some m else none).isSome = true ↔ c := by
  split <;> simp_all

theorem isSome_btrfs?_iff : (btrfs? buf).isSome = true ↔
    StandsAt buf (highSuperblock + 64) (ascii "_BHRfS_M") := by
  unfold btrfs?
  rw [isSome_ite, hasAt_iff_standsAt (by decide)]

theorem isSome_xfs?_iff : (xfs? buf).isSome = true ↔
    512 ≤ buf.size ∧ StandsAt buf 0 (ascii "XFSB") := by
  unfold xfs?
  rw [isSome_ite, hasAt_iff_standsAt (by decide)]

theorem isSome_jfs?_iff : (jfs? buf).isSome = true ↔ StandsAt buf 32768 (ascii "JFS1") := by
  unfold jfs?
  rw [isSome_ite, hasAt_iff_standsAt (by decide)]

/-- Some format fits a buffer exactly if it has a mark in it. -/
theorem isSome_match?_iff : (match? buf ctx).isSome = true ↔ IsMarked buf := by
  simp only [match?, Option.orElse_eq_orElse, Option.orElse_eq_or, Option.isSome_or,
    Bool.or_eq_true, isSome_ext?_iff, isSome_reiserFs?_iff, isSome_btrfs?_iff, isSome_xfs?_iff,
    isSome_jfs?_iff, isSome_hfsPlus?_iff, isSome_bootSector?_iff, IsMarked, marks,
    List.exists_mem_cons_iff, List.not_mem_nil, false_and, exists_false, or_false, Nat.zero_le,
    true_and, and_or_left, or_assoc]

theorem match?_eq_none_iff : match? buf ctx = none ↔ ¬IsMarked buf := by
  rw [← isSome_match?_iff, Option.not_isSome_iff_eq_none]

/-- Of all that surrounds a volume, formats only look at whether it is a partition. -/
theorem match?_congr {other : DetectContext} (same : other.isPartition = ctx.isPartition) :
    match? buf other = match? buf ctx := by
  simp only [match?, bootSector?, same]

end

end Signature

/-! ## The law -/

namespace Detection

open Signature Buffer

/-- The kind and the serial of a volume come from its bytes: the kind is none of those that only
the surroundings tell, and both are the same wherever the volume is. -/
structure IsOfBytes (buf : Array UInt8) (ctx : DetectContext) (told : Detection) : Prop where
  not_apfs : told.fsType ≠ .apfs
  not_iso9660 : told.fsType ≠ .iso9660
  same : ∀ other : DetectContext, other.isPartition = ctx.isPartition →
    (ofBuffer buf other).fsType = told.fsType ∧ (ofBuffer buf other).serial = told.serial

/-- What is so of everything that is told. -/
structure DetectionLaw (buf : Array UInt8) (ctx : DetectContext) (told : Detection) : Prop where
  /-- A serial is only told of the kinds that have one of its form, and never one of HFS+ that is
  zero. -/
  serial : told.serial.Suits told.fsType
  /-- The type of the partition stays what it was if it was known. -/
  known : ∀ partType, ctx.partType = some partType → told.partType = some partType
  /-- It is supplied only where no format has a mark and the device path tells of APFS. -/
  unknown : ctx.partType = none → told.partType =
    if ¬IsMarked buf ∧ ctx.apfsVendorNode = true then some PartitionType.apfs else none
  /-- Where a format has a mark, nothing is told from the surroundings. -/
  marked : IsMarked buf → IsOfBytes buf ctx told
  /-- A boot signature is such a mark. -/
  signed : 512 ≤ buf.size → hasBootSignature buf = true → IsOfBytes buf ctx told
  /-- Only the first bytes count. -/
  start : ∀ other : Array UInt8, other.toList.take 65636 = buf.toList.take 65636 →
    ofBuffer other ctx = told

section

variable {buf : Array UInt8} {ctx : DetectContext}

theorem ofBuffer_of_match? {fsType : FsType} {serial : Serial}
    (found : match? buf ctx = some (fsType, serial)) :
    ofBuffer buf ctx = ⟨fsType, serial, ctx.partType⟩ := by
  rw [ofBuffer, found]

theorem ofBuffer_of_not_isMarked (unmarked : ¬IsMarked buf) : ofBuffer buf ctx = guess ctx := by
  rw [ofBuffer, match?_eq_none_iff.mpr unmarked]

/-- What a marked buffer tells: something proper, and the same of every volume that is a partition
as well, or none as well. -/
theorem ofBuffer_of_isMarked (marked : IsMarked buf) (ctx : DetectContext) :
    ∃ fsType serial, IsProper fsType serial ∧
      ∀ other : DetectContext, other.isPartition = ctx.isPartition →
        ofBuffer buf other = ⟨fsType, serial, other.partType⟩ := by
  have some : (match? buf ctx).isSome = true := isSome_match?_iff.mpr marked
  obtain ⟨⟨fsType, serial⟩, found⟩ := Option.isSome_iff_exists.mp some
  refine ⟨fsType, serial, isProper_of_match? found, fun other same => ?_⟩
  exact ofBuffer_of_match? ((match?_congr same).trans found)

theorem isOfBytes_of_isMarked (marked : IsMarked buf) : IsOfBytes buf ctx (ofBuffer buf ctx) := by
  obtain ⟨fsType, serial, proper, told⟩ := ofBuffer_of_isMarked marked ctx
  rw [told ctx rfl]
  refine ⟨proper.not_apfs, proper.not_iso9660, fun other same => ?_⟩
  rw [told other same]
  exact ⟨rfl, rfl⟩

theorem serial_guess : (guess ctx).serial = .none := by
  unfold guess
  split_ifs <;> rfl

theorem partType_guess : (guess ctx).partType =
    if ctx.partType = none ∧ ctx.apfsVendorNode = true then some PartitionType.apfs
    else ctx.partType := by
  unfold guess
  cases ctx.partType with
  | none => split_ifs <;> simp_all
  | some partType => split_ifs <;> simp_all

theorem serial_suits : (ofBuffer buf ctx).serial.Suits (ofBuffer buf ctx).fsType := by
  by_cases marked : IsMarked buf
  · obtain ⟨fsType, serial, proper, told⟩ := ofBuffer_of_isMarked marked ctx
    rw [told ctx rfl]
    exact proper.suits
  · rw [ofBuffer_of_not_isMarked marked, serial_guess]
    trivial

theorem partType_ofBuffer : (ofBuffer buf ctx).partType =
    if ctx.partType = none ∧ ¬IsMarked buf ∧ ctx.apfsVendorNode = true then some PartitionType.apfs
    else ctx.partType := by
  by_cases marked : IsMarked buf
  · obtain ⟨fsType, serial, -, told⟩ := ofBuffer_of_isMarked marked ctx
    rw [told ctx rfl, if_neg fun supplied => supplied.2.1 marked]
  · rw [ofBuffer_of_not_isMarked marked, partType_guess]
    simp only [marked, not_false_eq_true, true_and]

/-- The bytes behind the last description do not count. -/
theorem ofBuffer_start : ofBuffer (buf.extract 0 reiserFsEnd) ctx = ofBuffer buf ctx := by
  refine ofBuffer_extract (by decide) ?_
  rintro ⟨-, ⟨short, -⟩ | ⟨short, -⟩⟩
  · exact Nat.lt_irrefl _ short
  · exact absurd short (by decide)

theorem ofBuffer_congr {other : Array UInt8}
    (same : other.toList.take 65636 = buf.toList.take 65636) :
    ofBuffer other ctx = ofBuffer buf ctx := by
  have start : other.extract 0 reiserFsEnd = buf.extract 0 reiserFsEnd := by
    rw [← Array.toList_inj, toList_extract_zero, toList_extract_zero]
    exact same
  rw [← ofBuffer_start, start, ofBuffer_start]

end

/-- What is told of a volume is right in its form, whatever stands in the buffer and whatever the
surroundings tell. -/
theorem ofBuffer_detectionLaw (buf : Array UInt8) (ctx : DetectContext) :
    DetectionLaw buf ctx (ofBuffer buf ctx) := by
  constructor
  case serial => exact serial_suits
  case known =>
    intro partType known
    rw [partType_ofBuffer, known, if_neg fun supplied => nomatch supplied.1]
  case unknown =>
    intro unknown
    simp only [partType_ofBuffer, unknown, true_and]
  case marked => exact isOfBytes_of_isMarked
  case signed =>
    intro long signed
    refine isOfBytes_of_isMarked ⟨⟨510, [0x55, 0xAA], 0⟩, by simp [marks], Nat.zero_le _, ?_⟩
    exact hasBootSignature_iff.mp signed
  case start => exact fun other => ofBuffer_congr

end Detection

end BootManager
