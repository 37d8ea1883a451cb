import BootManager.Proofs.Volume.Duplicate

/-!
# What marking duplicates does

Marking may take the readability of a volume away and changes nothing else. Of the volumes with one
serial it spares the one that is kept, and boot partitions where these are looked at as well. Which
one is kept does not depend on whether it can be read, so a filesystem is lost if only other copies
of it can be.
-/

namespace BootManager.Volume

variable {options : ScanOptions} {selfVolume : Option Nat} {volumes others : List Volume}
  {place : Nat} {v : Volume} {s : Serial}

/-! ## Which volumes are spared -/

/-- Whether a serial is that of the volume that the boot manager was started from. -/
def IsOwnSerial (selfVolume : Option Nat) (volumes : List Volume) (s : Serial) : Prop :=
  ∃ place own, selfVolume = some place ∧ volumes[place]? = some own ∧ own.serial = s

theorem ownSerial_eq_some_iff :
    (selfVolume.bind fun place => volumes[place]?).map (·.serial) = some s ↔
      IsOwnSerial selfVolume volumes s := by
  simp only [IsOwnSerial, Option.map_eq_some_iff, Option.bind_eq_some_iff]
  constructor
  · rintro ⟨own, ⟨place, started, present⟩, same⟩
    exact ⟨place, own, started, present, same⟩
  · rintro ⟨place, own, started, present, same⟩
    exact ⟨own, ⟨place, started, present⟩, same⟩

theorem keptPlace?_of_own (own : IsOwnSerial selfVolume volumes s) :
    keptPlace? selfVolume volumes s = selfVolume :=
  if_pos (ownSerial_eq_some_iff.mpr own)

theorem keptPlace?_of_foreign (foreign : ¬IsOwnSerial selfVolume volumes s) :
    keptPlace? selfVolume volumes s = volumes.findIdx? (·.serial == s) :=
  if_neg (foreign ∘ ownSerial_eq_some_iff.mp)

theorem keptPlace?_of_first (foreign : ¬IsOwnSerial selfVolume volumes v.serial)
    (present : volumes[place]? = some v)
    (apart : ∀ earlier u, earlier < place → volumes[earlier]? = some u → u.serial ≠ v.serial) :
    keptPlace? selfVolume volumes v.serial = some place := by
  obtain ⟨inside, rfl⟩ := List.getElem?_eq_some_iff.mp present
  rw [keptPlace?_of_foreign foreign, List.findIdx?_eq_some_iff_getElem]
  refine ⟨inside, by simp, fun earlier lt => ?_⟩
  have there : volumes[earlier]? = some _ := List.getElem?_eq_getElem (Nat.lt_trans lt inside)
  simpa using apart earlier _ lt there

/-- Of the volumes with one serial, one is kept. -/
theorem exists_keptPlace? (selfVolume : Option Nat) (member : v ∈ volumes) :
    ∃ place, keptPlace? selfVolume volumes v.serial = some place := by
  by_cases own : IsOwnSerial selfVolume volumes v.serial
  · have chosen := keptPlace?_of_own own
    obtain ⟨place, _, started, -, -⟩ := own
    exact ⟨place, chosen.trans started⟩
  · rw [keptPlace?_of_foreign own, ← Option.isSome_iff_exists, List.findIdx?_isSome,
      List.any_eq_true]
    exact ⟨v, member, beq_self_eq_true v.serial⟩

theorem isSpared_iff :
    isSpared options selfVolume volumes place v = true ↔
      v.serial.isNull = true ∨ keptPlace? selfVolume volumes v.serial = some place ∨
        (options.scanOtherEsp = true ∧ v.isEsp = true ∧
          ¬IsOwnSerial selfVolume volumes v.serial) := by
  rw [← ownSerial_eq_some_iff, isSpared, isKept]
  simp only [VolumeSet.policy, Bool.or_eq_true, Bool.and_eq_true, beq_iff_eq, bne_iff_ne, or_assoc,
    and_assoc, ne_eq]

/-- The volume that the boot manager was started from is spared. -/
theorem isSpared_self (started : selfVolume = some place) (present : volumes[place]? = some v) :
    isSpared options selfVolume volumes place v = true := by
  have own : IsOwnSerial selfVolume volumes v.serial := ⟨place, v, started, present, rfl⟩
  refine isSpared_iff.mpr (.inr (.inl ?_))
  rw [keptPlace?_of_own own, started]

/-! ## One volume -/

/-- What marking does to the volume `v` at a place, which is `w` afterwards. -/
structure Marked (options : ScanOptions) (selfVolume : Option Nat) (volumes : List Volume)
    (place : Nat) (v w : Volume) : Prop where
  /-- Nothing changes but whether loaders may be looked for on it. -/
  others_eq : w = { v with isReadable := w.isReadable }
  /-- It may only become unreadable. -/
  readable_of : w.isReadable = true → v.isReadable = true
  /-- A volume whose serial tells nothing stays as it is. -/
  eq_of_isNull : v.serial.isNull = true → w = v
  /-- The volume that the boot manager was started from stays as it is. -/
  eq_of_self : selfVolume = some place → w = v
  /-- So does the first volume with a serial, if that is not the serial of the former. -/
  eq_of_first : ¬IsOwnSerial selfVolume volumes v.serial →
    (∀ earlier u, earlier < place → volumes[earlier]? = some u → u.serial ≠ v.serial) → w = v
  /-- Every other volume with its serial ends unreadable. -/
  unreadable_of_own : v.serial.isNull = false → IsOwnSerial selfVolume volumes v.serial →
    selfVolume ≠ some place → w.isReadable = false
  /-- Where boot partitions are no exception, a volume that stays readable is the one that the boot
  manager was started from or the first with its serial. -/
  self_or_first : options.scanOtherEsp = false → v.serial.isNull = false → w.isReadable = true →
    selfVolume = some place ∨
      ∀ earlier u, earlier < place → volumes[earlier]? = some u → u.serial ≠ v.serial
  /-- Where they are, a boot partition only becomes unreadable if its serial is that of the volume
  that the boot manager was started from. -/
  own_of_esp : options.scanOtherEsp = true → v.isEsp = true → w ≠ v →
    IsOwnSerial selfVolume volumes v.serial

theorem marked_eq_self (spared : isSpared options selfVolume volumes place v = true) :
    marked options selfVolume volumes place v = v := by
  rw [marked, spared, Bool.and_true]

theorem isReadable_marked :
    (marked options selfVolume volumes place v).isReadable = true ↔
      v.isReadable = true ∧ isSpared options selfVolume volumes place v = true :=
  Bool.and_eq_true_iff

theorem apart_of_findIdx? (first : volumes.findIdx? (·.serial == s) = some place) (earlier : Nat)
    (u : Volume) (lt : earlier < place) (present : volumes[earlier]? = some u) : u.serial ≠ s := by
  obtain ⟨_, _, before⟩ := List.findIdx?_eq_some_iff_getElem.mp first
  obtain ⟨inside, rfl⟩ := List.getElem?_eq_some_iff.mp present
  simpa using before earlier lt

theorem marked_marked (present : volumes[place]? = some v) :
    Marked options selfVolume volumes place v (marked options selfVolume volumes place v) where
  others_eq := rfl
  readable_of readable := (isReadable_marked.mp readable).1
  eq_of_isNull null := marked_eq_self (isSpared_iff.mpr (.inl null))
  eq_of_self started := marked_eq_self (isSpared_self started present)
  eq_of_first foreign apart :=
    marked_eq_self (isSpared_iff.mpr (.inr (.inl (keptPlace?_of_first foreign present apart))))
  unreadable_of_own telling own other := by
    refine eq_false_of_ne_true fun readable => ?_
    obtain null | kept | ⟨_, _, foreign⟩ := isSpared_iff.mp (isReadable_marked.mp readable).2
    · exact absurd null (ne_true_of_eq_false telling)
    · exact other ((keptPlace?_of_own own).symm.trans kept)
    · exact foreign own
  self_or_first plain telling readable := by
    obtain null | kept | ⟨exempt, _, _⟩ := isSpared_iff.mp (isReadable_marked.mp readable).2
    · exact absurd null (ne_true_of_eq_false telling)
    · by_cases own : IsOwnSerial selfVolume volumes v.serial
      · exact .inl ((keptPlace?_of_own own).symm.trans kept)
      · exact .inr (apart_of_findIdx? ((keptPlace?_of_foreign own).symm.trans kept))
    · exact absurd exempt (ne_true_of_eq_false plain)
  own_of_esp exempt esp changed := by
    refine Classical.byContradiction fun foreign => ?_
    exact changed (marked_eq_self (isSpared_iff.mpr (.inr (.inr ⟨exempt, esp, foreign⟩))))

/-! ## All volumes -/

theorem isOwnSerial_congr (same : others.map (·.serial) = volumes.map (·.serial)) :
    IsOwnSerial selfVolume others s ↔ IsOwnSerial selfVolume volumes s := by
  have look (place : Nat) :
      others[place]?.map (·.serial) = volumes[place]?.map (·.serial) := by
    rw [← List.getElem?_map, ← List.getElem?_map, same]
  rw [← ownSerial_eq_some_iff, ← ownSerial_eq_some_iff, Option.map_bind, Option.map_bind]
  simp only [Function.comp_def, look]

theorem keptPlace?_congr (same : others.map (·.serial) = volumes.map (·.serial)) :
    keptPlace? selfVolume others s = keptPlace? selfVolume volumes s := by
  have first (l : List Volume) : l.findIdx? (·.serial == s) =
      (l.map (·.serial)).findIdx? (· == s) := by
    rw [List.findIdx?_map]
    rfl
  by_cases own : IsOwnSerial selfVolume volumes s
  · rw [keptPlace?_of_own own, keptPlace?_of_own ((isOwnSerial_congr same).mpr own)]
  · rw [keptPlace?_of_foreign own, keptPlace?_of_foreign (own ∘ (isOwnSerial_congr same).mp), first,
      first, same]

/-- Marking looks at nothing that it changes. -/
theorem isSpared_congr (same : others.map (·.serial) = volumes.map (·.serial)) {w : Volume}
    (serial : w.serial = v.serial) (esp : w.isEsp = v.isEsp) :
    isSpared options selfVolume others place w = isSpared options selfVolume volumes place v := by
  rw [Bool.eq_iff_iff, isSpared_iff, isSpared_iff, keptPlace?_congr same, isOwnSerial_congr same,
    serial, esp]

theorem policy_congr (same : others.map (·.serial) = volumes.map (·.serial)) :
    VolumeSet.policy options selfVolume others = VolumeSet.policy options selfVolume volumes := by
  have own : (selfVolume.bind fun place => others[place]?).map (·.serial) =
      (selfVolume.bind fun place => volumes[place]?).map (·.serial) := by
    ext s
    rw [ownSerial_eq_some_iff, ownSerial_eq_some_iff, isOwnSerial_congr same]
  rw [VolumeSet.policy, own, ← VolumeSet.policy]

theorem map_serial_mapIdx_marked :
    (volumes.mapIdx (marked options selfVolume volumes)).map (·.serial) =
      volumes.map (·.serial) := by
  apply List.ext_getElem
  · simp
  · intro place _ _
    simp [marked]

/-- Volumes that were marked stay as they are when they are marked again. -/
theorem value_markAll_marked :
    ((VolumeSet.policy options selfVolume volumes).markAll
        (volumes.mapIdx (marked options selfVolume volumes))).value =
      volumes.mapIdx (marked options selfVolume volumes) := by
  have same : (volumes.mapIdx (marked options selfVolume volumes)).map (·.serial) =
      volumes.map (·.serial) := map_serial_mapIdx_marked
  rw [← policy_congr same, value_markAll, List.mapIdx_mapIdx]
  congr 1
  funext place v
  have spared : isSpared options selfVolume (volumes.mapIdx (marked options selfVolume volumes))
      place (marked options selfVolume volumes place v) =
        isSpared options selfVolume volumes place v := isSpared_congr same rfl rfl
  simp only [Function.comp_apply, marked] at spared ⊢
  rw [spared, Bool.and_assoc, Bool.and_self]

/-- What marking does to all volumes of a scan, which are `after` afterwards. -/
structure MarkLaw (options : ScanOptions) (selfVolume : Option Nat) (volumes after : List Volume) :
    Prop where
  length_eq : after.length = volumes.length
  /-- Each volume stays at its place, and only its readability may go. -/
  each : ∀ place v w, volumes[place]? = some v → after[place]? = some w →
    Marked options selfVolume volumes place v w
  /-- Of the volumes with one serial, one stays as it is. -/
  kept : ∀ v ∈ volumes, ∃ (place : Nat) (u : Volume), volumes[place]? = some u ∧
    u.serial = v.serial ∧ after[place]? = some u
  /-- Where boot partitions are no exception, one volume at most stays readable for each serial. -/
  once : options.scanOtherEsp = false → OfferedOnce after
  /-- Marking once more changes nothing. -/
  again : ((VolumeSet.policy options selfVolume volumes).markAll after).value = after
  /-- Nor does it if duplicates are told anew from the volumes that were marked. -/
  anew : ((VolumeSet.policy options selfVolume after).markAll after).value = after

/-- Marking keeps one copy of each filesystem and takes the readability of the others, and it is the
right one that is kept. -/
theorem markAll_markLaw (options : ScanOptions) (selfVolume : Option Nat) (volumes : List Volume) :
    MarkLaw options selfVolume volumes
      ((VolumeSet.policy options selfVolume volumes).markAll volumes).value := by
  rw [value_markAll]
  refine ⟨List.length_mapIdx, ?_, ?_, ?_, value_markAll_marked, ?_⟩
  · intro place v w present there
    rw [List.getElem?_mapIdx, present] at there
    obtain rfl : marked options selfVolume volumes place v = w := Option.some.inj there
    exact marked_marked present
  · intro v member
    obtain ⟨place, chosen⟩ := exists_keptPlace? selfVolume member
    obtain ⟨u, present, same⟩ := serial_of_keptPlace? chosen
    have spared : isSpared options selfVolume volumes place u = true :=
      isSpared_iff.mpr (.inr (.inl (same ▸ chosen)))
    refine ⟨place, u, present, same, ?_⟩
    rw [List.getElem?_mapIdx, present, Option.map_some, marked_eq_self spared]
  · intro plain
    rw [← value_markAll, value_markAll_settled plain]
    exact offeredOnce_settled selfVolume volumes
  · rw [policy_congr map_serial_mapIdx_marked]
    exact value_markAll_marked

/-! ## Which filesystems are lost -/

/-- Whether loaders may be looked for on some volume with a serial. -/
def Offers (volumes : List Volume) (s : Serial) : Prop :=
  ∃ v ∈ volumes, v.serial = s ∧ v.isReadable = true

instance (volumes : List Volume) (s : Serial) : Decidable (Offers volumes s) :=
  inferInstanceAs (Decidable (∃ v ∈ volumes, v.serial = s ∧ v.isReadable = true))

/-- Whether marking spares a readable volume with a serial: the copy that is kept can be read, or a
boot partition can, where these are looked at as well and the serial is not that of the boot
manager's own volume. -/
def SparesReadable (options : ScanOptions) (selfVolume : Option Nat) (volumes : List Volume)
    (s : Serial) : Prop :=
  (∃ place v, keptPlace? selfVolume volumes s = some place ∧ volumes[place]? = some v ∧
      v.isReadable = true) ∨
    (options.scanOtherEsp = true ∧ ¬IsOwnSerial selfVolume volumes s ∧
      ∃ v ∈ volumes, v.serial = s ∧ v.isEsp = true ∧ v.isReadable = true)

/-- A filesystem is still offered once duplicates were marked exactly if a readable volume with its
serial is spared. It is not enough that some copy of it can be read. -/
theorem offers_markAll_iff {options : ScanOptions} {selfVolume : Option Nat} {volumes : List Volume}
    {s : Serial} (telling : s.isNull = false) :
    Offers ((VolumeSet.policy options selfVolume volumes).markAll volumes).value s ↔
      SparesReadable options selfVolume volumes s := by
  rw [value_markAll, Offers]
  constructor
  · rintro ⟨w, member, same, readable⟩
    obtain ⟨place, inside, rfl⟩ := List.mem_mapIdx.mp member
    obtain ⟨readable, spared⟩ := isReadable_marked.mp readable
    obtain rfl : volumes[place].serial = s := same
    obtain null | kept | ⟨exempt, esp, foreign⟩ := isSpared_iff.mp spared
    · exact absurd null (ne_true_of_eq_false telling)
    · exact .inl ⟨place, volumes[place], kept, List.getElem?_eq_getElem inside, readable⟩
    · exact .inr ⟨exempt, foreign, volumes[place], List.getElem_mem inside, rfl, esp, readable⟩
  · rintro (⟨place, v, kept, present, readable⟩ | ⟨exempt, foreign, v, member, rfl, esp, readable⟩)
    · obtain ⟨own, present', rfl⟩ := serial_of_keptPlace? kept
      obtain rfl : own = v := Option.some.inj (present'.symm.trans present)
      obtain ⟨inside, rfl⟩ := List.getElem?_eq_some_iff.mp present
      have spared : isSpared options selfVolume volumes place volumes[place] = true :=
        isSpared_iff.mpr (.inr (.inl kept))
      exact ⟨_, List.mem_mapIdx.mpr ⟨place, inside, rfl⟩, rfl,
        isReadable_marked.mpr ⟨readable, spared⟩⟩
    · obtain ⟨place, inside, rfl⟩ := List.getElem_of_mem member
      have spared : isSpared options selfVolume volumes place volumes[place] = true :=
        isSpared_iff.mpr (.inr (.inr ⟨exempt, esp, foreign⟩))
      exact ⟨_, List.mem_mapIdx.mpr ⟨place, inside, rfl⟩, rfl,
        isReadable_marked.mpr ⟨readable, spared⟩⟩

/-- The two halves of a mirror, of which the first cannot be read. -/
def brokenMirror : List Volume :=
  [{ serial := .fat 0x12345678, fsType := .fat },
    { serial := .fat 0x12345678, fsType := .fat, hasRoot := true, isReadable := true }]

def plainOptions : ScanOptions :=
  { legacy := .none, appleFirmware := false, scanOtherEsp := false, syncApfs := false }

/-- The half that can be read is still offered if the boot manager was started from it. -/
theorem brokenMirror_offers_iff : (Serial.fat 0x12345678).isNull = false ∧
    SparesReadable plainOptions (some 1) brokenMirror (.fat 0x12345678) ∧
    (Offers ((VolumeSet.policy plainOptions (some 1) brokenMirror).markAll brokenMirror).value
        (.fat 0x12345678) ↔
      SparesReadable plainOptions (some 1) brokenMirror (.fat 0x12345678)) :=
  ⟨rfl, .inl ⟨1, _, by decide, rfl, rfl⟩, offers_markAll_iff rfl⟩

/-- Started from elsewhere, marking keeps the half that cannot be read, and the filesystem is
lost. -/
theorem brokenMirror_not_offers : (Serial.fat 0x12345678).isNull = false ∧
    Offers brokenMirror (.fat 0x12345678) ∧
    ¬Offers ((VolumeSet.policy plainOptions none brokenMirror).markAll brokenMirror).value
      (.fat 0x12345678) := by
  refine ⟨rfl, by decide, ?_⟩
  rw [value_markAll]
  decide

end BootManager.Volume
