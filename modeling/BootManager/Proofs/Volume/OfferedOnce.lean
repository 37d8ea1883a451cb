import BootManager.Proofs.Volume.BootSector
import BootManager.Proofs.Volume.Classified
import BootManager.Proofs.Volume.Duplicate
import BootManager.Proofs.Volume.Inside
import BootManager.Proofs.Volume.Renaming

/-!
# Filesystems that are offered twice

Of the volumes that a scan found, duplicates are marked, so that loaders are looked for on one of
them only. The partitions inside of extended ones are found afterwards and nothing is marked among
them: a filesystem is offered twice exactly if one of them starts a system and has a serial that
another of them, or the volume that was kept, has as well.
-/

namespace BootManager

namespace Volume

/-! ## Duplicates inside of extended partitions -/

theorem inside_mapIdx_settled (devices : List Device) (options : ScanOptions)
    (selfVolume : Option Nat) (volumes : List Volume) :
    inside devices options (volumes.mapIdx (settled selfVolume volumes)) =
      inside devices options volumes := by
  unfold inside
  rw [List.flatMap_def, List.flatMap_def]
  congr 1
  apply List.ext_getElem?
  intro place
  rw [List.getElem?_map, List.getElem?_mapIdx, List.getElem?_map]
  -- what is inside of a disk does not depend on whether the disk is readable
  cases volumes[place]? with
  | none => rfl
  | some v => rfl

theorem isReadable_of_mem_inside {devices : List Device} {options : ScanOptions}
    (unsupported : options.legacy = .none) {volumes : List Volume} {w : Volume}
    (member : w ∈ inside devices options volumes) : w.isReadable = false := by
  obtain ⟨disk, -, table, -, entry, -, -, device, -, partition, -, rfl⟩ := mem_inside.mp member
  simp only [classifyLogical, Logged.value_bind, Logged.value_pure,
    Sample.boot_take_of_unsupported unsupported, Bool.false_and]

theorem value_take_of_read {device : Device} {offset : Nat} {buf : Array UInt8}
    (read : Sample.read device offset = .ok buf) (ctx : DetectContext) (legacy : LegacyBoot)
    (hasFiles : Logged Bool) :
    (Sample.take device offset ctx legacy hasFiles).value =
      ⟨Detection.ofBuffer buf ctx,
        (BootCode.ofSector buf legacy (Detection.ofBuffer buf ctx).fsType hasFiles).value⟩ := by
  unfold Sample.take
  rw [read]
  simp only [Logged.value_bind]
  split
  · rfl
  · rfl

theorem value_ofSector_uefi (buf : Array UInt8) (fsType : FsType) (hasFiles : Logged Bool) :
    let boot := (BootCode.ofSector buf .uefi fsType hasFiles).value
    boot.bootable = BootCode.looksBootable buf ∧
      boot.hasBootCode = ((BootCode.ofLoader buf).hasBootCode && !BootCode.isPlaceholder buf) := by
  have supported : LegacyBoot.uefi ≠ .none := by decide
  have apart : ¬BootCode.ByFiles .uefi fsType := by simp [BootCode.ByFiles]
  refine ⟨BootCode.bootable_ofSector supported, ?_⟩
  rw [Bool.eq_iff_iff, BootCode.hasBootCode_ofSector_iff supported, Bool.and_eq_true,
    Bool.not_eq_true', ← Bool.not_eq_true, BootCode.hasBootCode_ofLoader_iff,
    BootCode.isPlaceholder_iff]
  simp only [apart, false_and, not_false_eq_true, true_and, false_or]

/-- What matters of a partition inside of an extended one where older systems are started by a
module for that. -/
theorem stand_classifyLogical {options : ScanOptions} (uefi : options.legacy = .uefi)
    {device : Device} {partition : LogicalPartition} {buf : Array UInt8}
    (read : Sample.read device partition.offset = .ok buf) (disk : Volume) :
    (classifyLogical disk partition device options).value.stand =
      (BootCode.looksBootable buf &&
          ((BootCode.ofLoader buf).hasBootCode && !BootCode.isPlaceholder buf),
        (Detection.ofBuffer buf
          ⟨device.blockSize, true, none, false, options.appleFirmware⟩).serial) := by
  unfold stand classifyLogical
  simp only [uefi, value_take_of_read read, Logged.value_bind, Logged.value_pure,
    value_ofSector_uefi]

theorem stand_withMbrPlace (devices : List Device) (volumes : List Volume) (v : Volume) :
    (v.withMbrPlace devices volumes).stand = v.stand := by
  unfold withMbrPlace
  split
  · rfl
  · rfl

theorem stand_relate (devices : List Device) (options : ScanOptions) (volumes : List Volume) :
    (relate devices options volumes).value.map stand =
      volumes.map stand ++ (inside devices options volumes).map stand := by
  have kept : (volumes.map (withMbrPlace devices volumes)).map stand = volumes.map stand := by
    rw [List.map_map]
    exact List.map_congr_left fun v _ => stand_withMbrPlace devices volumes v
  rw [value_relate, List.map_append, kept]

end Volume

namespace VolumeSet

open Volume

theorem stand_gather {options : ScanOptions} (plain : options.scanOtherEsp = false)
    (volumes : List Volume) (devices : List Device) (selfVolume : Option Nat) :
    (gather volumes devices selfVolume options).value.volumes.map stand =
      (volumes.mapIdx (settled selfVolume volumes)).map stand ++
        (inside devices options volumes).map stand := by
  have related := stand_relate devices options (volumes.mapIdx (settled selfVolume volumes))
  rw [inside_mapIdx_settled] at related
  simp only [gather, Logged.value_bind, Logged.value_pure, value_markAll_settled plain]
  exact related

theorem stand_assemble {options : ScanOptions} (plain : options.scanOtherEsp = false)
    (volumes : List Volume) (devices : List Device) (selfVolume : Option Nat) :
    (assemble volumes devices selfVolume options).value.volumes.map stand =
      (volumes.mapIdx (settled selfVolume volumes)).map stand ++
        (inside devices options volumes).map stand := by
  rw [← stand_gather plain]
  exact (assemble_isRelabelled volumes devices selfVolume options).map_eq fun _ => rfl

theorem offeredOnce_assemble_iff {options : ScanOptions} (plain : options.scanOtherEsp = false)
    (volumes : List Volume) (devices : List Device) (selfVolume : Option Nat) :
    OfferedOnce (assemble volumes devices selfVolume options).value.volumes ↔
      AreNew selfVolume volumes (inside devices options volumes) := by
  have whole := stand_assemble plain volumes devices selfVolume
  rw [← List.map_append] at whole
  exact (offeredOnce_congr whole).trans offeredOnce_append

/-- How the volumes of a set are offered. -/
structure OfferLaw (volumes : List Volume) (devices : List Device) (selfVolume : Option Nat)
    (options : ScanOptions) (set : VolumeSet) : Prop where
  /-- Of the volumes of the scan that have one serial, only the one that is kept stays readable. -/
  scanned : ∀ place v, volumes[place]? = some v → ∃ w, set.volumes[place]? = some w ∧
    w.serial = v.serial ∧ w.isReadable = (v.isReadable && isKept selfVolume volumes place v)
  /-- No filesystem is offered twice among the volumes of the scan. -/
  scannedOnce : OfferedOnce (set.volumes.take volumes.length)
  /-- After them stand the partitions inside of extended ones, readable as they were found. -/
  found : (set.volumes.drop volumes.length).map stand =
    (inside devices options volumes).map stand
  /-- No filesystem is offered twice at all exactly if none is among those partitions, and none of
  them has the serial of a volume that was kept and is readable. -/
  once : OfferedOnce set.volumes ↔ AreNew selfVolume volumes (inside devices options volumes)
  /-- In particular none is if older systems are not started. -/
  unsupported : options.legacy = .none → OfferedOnce set.volumes

/-- The volumes of a scan are offered once each, and a filesystem is offered twice exactly if it is
the one of a partition inside of an extended one that starts a system, and of another such partition
or of the volume that was kept. -/
theorem assemble_offerLaw (volumes : List Volume) (devices : List Device)
    (selfVolume : Option Nat) (options : ScanOptions) (plain : options.scanOtherEsp = false) :
    OfferLaw volumes devices selfVolume options
      (assemble volumes devices selfVolume options).value := by
  have whole := stand_assemble plain volumes devices selfVolume
  have size :
      ((volumes.mapIdx (settled selfVolume volumes)).map stand).length = volumes.length := by
    simp
  have first : ((assemble volumes devices selfVolume options).value.volumes.take
      volumes.length).map stand = (volumes.mapIdx (settled selfVolume volumes)).map stand := by
    rw [List.map_take, whole, List.take_left' size]
  have once := offeredOnce_assemble_iff plain volumes devices selfVolume
  refine ⟨?_, ?_, ?_, once, ?_⟩
  · intro place v present
    have stands : ((assemble volumes devices selfVolume options).value.volumes.map stand)[place]? =
        some (settled selfVolume volumes place v).stand := by
      have lt : place < volumes.length := (List.getElem?_eq_some_iff.mp present).1
      rw [whole, List.getElem?_append_left (size.symm ▸ lt), List.getElem?_map,
        List.getElem?_mapIdx, present]
      rfl
    rw [List.getElem?_map] at stands
    obtain ⟨w, there, same⟩ := Option.map_eq_some_iff.mp stands
    obtain ⟨readable, serial⟩ := Prod.mk.inj same
    exact ⟨w, there, serial, readable⟩
  · rw [offeredOnce_congr first]
    exact offeredOnce_settled selfVolume volumes
  · rw [List.map_drop, whole, List.drop_left' size]
  · intro unsupported
    have unreadable (w : Volume) (member : w ∈ inside devices options volumes) :
        w.isReadable = false := isReadable_of_mem_inside unsupported member
    refine once.mpr ⟨offeredOnce_of_unreadable unreadable, fun w member readable => ?_⟩
    simp [unreadable w member] at readable

/-! ## A partition that the firmware shows as well -/

/-- A sector with a boot signature that begins with some bytes. -/
def signedSector (start : Bytes) : Bytes :=
  start ++ (List.replicate (510 - start.length) 0 ++ [0x55, 0xAA])

/-- A boot sector of LILO on FAT. -/
def liloSector : Bytes :=
  signedSector ([0xEB, 0] ++ (Buffer.ascii "LILO" ++ (List.replicate 33 0 ++
    ([0x78, 0x56, 0x34, 0x12] ++ (List.replicate 11 0 ++ Buffer.ascii "FAT16   ")))))

/-- A device that is read block by block. -/
def sectorDevice (lastBlock : Nat) (isPartition : Bool) (sector : Nat → Bytes) : Device where
  blockSize := 512
  lastBlock := lastBlock
  isPartition := isPartition
  read lba size :=
    if fits : (sector lba).length = size then .ok ⟨(sector lba).toArray, by simp [fits]⟩
    else .error (.readFailed .badBufferSize)

theorem read_sectorDevice {lastBlock lba size : Nat} {isPartition : Bool} {sector : Nat → Bytes}
    (fits : (sector lba).length = size) :
    (sectorDevice lastBlock isPartition sector).read lba size =
      .ok ⟨(sector lba).toArray, by simp [fits]⟩ :=
  dif_pos fits

/-- A disk with an extended partition at its second block, which holds the partition after it. -/
def nestedDisk : Device :=
  sectorDevice 2 false fun
    | 1 => signedSector (List.replicate 446 0 ++ [0, 0, 0, 0, 6, 0, 0, 0, 1, 0, 0, 0, 1, 0, 0, 0])
    | 2 => liloSector
    | _ => List.replicate 512 0

/-- The same partition, as the firmware shows it. -/
def shownPartition : Device :=
  sectorDevice 0 true fun _ => liloSector

/-- An entry for a partition one block after its table. -/
def nextEntry (partType : UInt8) (size : UInt32) : MbrEntry :=
  { flags := 0, first := ⟨0, 0, 0⟩, partType, last := ⟨0, 0, 0⟩, startLba := 1, size }

def unusedEntry : MbrEntry :=
  { flags := 0, first := ⟨0, 0, 0⟩, partType := 0, last := ⟨0, 0, 0⟩, startLba := 0, size := 0 }

def diskVolume : Volume :=
  { device := some 0, wholeDisk := some 0,
    mbrTable := some #v[nextEntry 5 2, unusedEntry, unusedEntry, unusedEntry] }

def shownVolume : Volume :=
  { device := some 1, wholeDisk := some 0, serial := .fat 0x12345678, fsType := .fat,
    hasRoot := true, isReadable := true }

def legacyOptions : ScanOptions :=
  { legacy := .uefi, appleFirmware := false, scanOtherEsp := false, syncApfs := false }

/-- A disk with an extended partition, and the partition inside of it. -/
def nestedSet : VolumeSet :=
  (assemble [diskVolume, shownVolume] [nestedDisk, shownPartition] none legacyOptions).value

theorem nestedSet_offerLaw : legacyOptions.scanOtherEsp = false ∧
    OfferLaw [diskVolume, shownVolume] [nestedDisk, shownPartition] none legacyOptions nestedSet :=
  ⟨rfl, assemble_offerLaw [diskVolume, shownVolume] [nestedDisk, shownPartition] none
    legacyOptions rfl⟩

theorem length_liloSector : liloSector.length = 512 := by decide +kernel

theorem read_nestedDisk : Sample.read nestedDisk 2 = .ok liloSector.toArray := by
  unfold Sample.read
  rw [if_neg (by decide), if_neg (by decide), nestedDisk, read_sectorDevice length_liloSector]
  rfl

theorem inSector_liloSector {text : String}
    (absent : Text.containsRun (Buffer.ascii text) liloSector = false) :
    BootCode.inSector liloSector.toArray text = false := by
  refine eq_false_of_ne_true fun there => ?_
  have within := Buffer.hasWithin_iff.mp there
  have somewhere := within.trans (List.take_prefix 512 liloSector).isInfix
  rw [← Text.containsRun_iff, absent] at somewhere
  exact Bool.false_ne_true somewhere

theorem looksBootable_liloSector : BootCode.looksBootable liloSector.toArray = true := by
  unfold BootCode.looksBootable
  rw [inSector_liloSector (by decide +kernel)]
  decide +kernel

theorem isPlaceholder_liloSector : BootCode.isPlaceholder liloSector.toArray = false := by
  have absent : ∀ text ∈ BootCode.placeholderMessages,
      Text.containsRun (Buffer.ascii text) liloSector = false := by decide +kernel
  unfold BootCode.isPlaceholder
  rw [List.any_eq_false]
  intro text member
  rw [inSector_liloSector (absent text member)]
  exact Bool.false_ne_true

theorem stand_nested (partition : LogicalPartition) (second : partition.offset = 2) :
    (classifyLogical diskVolume partition nestedDisk legacyOptions).value.stand =
      (true, .fat 0x12345678) := by
  have found : (BootCode.ofLoader liloSector.toArray).hasBootCode = true := by decide +kernel
  have serial : (Detection.ofBuffer liloSector.toArray ⟨512, true, none, false, false⟩).serial =
      .fat 0x12345678 := by decide +kernel
  rw [stand_classifyLogical rfl (second ▸ read_nestedDisk), looksBootable_liloSector, found,
    isPlaceholder_liloSector]
  exact congrArg _ serial

/-- The partition is found a second time inside of the extended one, and is offered twice. -/
theorem nestedSet_not_offeredOnce : ¬OfferedOnce nestedSet.volumes := by
  intro once
  have walked : ((ChainWalk.start (nextEntry 5 2)).collect nestedDisk).value =
      ⟨[⟨4, 2, nextEntry 6 1⟩], none⟩ := by decide +kernel
  have stands := stand_nested ⟨4, 2, nextEntry 6 1⟩ rfl
  obtain ⟨readable, serial⟩ := Prod.mk.inj stands
  have member : (classifyLogical diskVolume ⟨4, 2, nextEntry 6 1⟩ nestedDisk legacyOptions).value ∈
      inside [nestedDisk, shownPartition] legacyOptions [diskVolume, shownVolume] := by
    refine mem_inside.mpr ⟨diskVolume, List.mem_cons_self, _, rfl, nextEntry 5 2, by simp,
      by decide, nestedDisk, rfl, ⟨4, 2, nextEntry 6 1⟩, ?_, rfl⟩
    rw [walked]
    exact List.mem_singleton_self _
  have apart := ((offeredOnce_assemble_iff rfl _ _ _).mp once).2 _ member readable
  rw [serial] at apart
  exact absurd (apart (by decide) 1 shownVolume (by decide) rfl) (by decide)

end VolumeSet

end BootManager
