import BootManager.Volume.Set

/-!
# Which duplicate is kept

A volume is offered if loaders may be looked for on it and its serial tells anything. Of the volumes
with one serial, marking duplicates leaves one that may be offered: that of the boot manager itself,
or the first. So no serial is offered twice among the volumes that were marked.
-/

namespace BootManager

namespace Volume

/-- The serial of a volume that loaders may be looked for on, if it tells anything. -/
def offered? (v : Volume) : Option Serial :=
  if v.isReadable && !v.serial.isNull then some v.serial else none

/-- No two volumes that loaders may be looked for on have one serial. -/
def OfferedOnce (volumes : List Volume) : Prop :=
  volumes.Pairwise fun v w =>
    v.isReadable = true → w.isReadable = true → v.serial.isNull = false → v.serial ≠ w.serial

theorem offered?_eq_some {v : Volume} {s : Serial} :
    v.offered? = some s ↔ v.isReadable = true ∧ v.serial = s ∧ s.isNull = false := by
  unfold offered?
  rw [Option.ite_none_right_eq_some, Bool.and_eq_true, Bool.not_eq_true', Option.some_inj]
  constructor
  · rintro ⟨⟨readable, telling⟩, rfl⟩
    exact ⟨readable, rfl, telling⟩
  · rintro ⟨readable, rfl, telling⟩
    exact ⟨⟨readable, telling⟩, rfl⟩

theorem offeredOnce_iff_nodup {volumes : List Volume} :
    OfferedOnce volumes ↔ (volumes.filterMap offered?).Nodup := by
  unfold OfferedOnce List.Nodup
  rw [List.pairwise_filterMap]
  refine List.Pairwise.iff fun v w => ⟨?_, ?_⟩
  · intro apart s offered t offered'
    obtain ⟨readable, rfl, telling⟩ := offered?_eq_some.mp offered
    obtain ⟨readable', rfl, -⟩ := offered?_eq_some.mp offered'
    exact apart readable readable' telling
  · intro apart readable readable' telling same
    have offered := offered?_eq_some.mpr ⟨readable, rfl, telling⟩
    have offered' := offered?_eq_some.mpr ⟨readable', rfl, same ▸ telling⟩
    exact apart v.serial offered w.serial offered' same

/-- What matters of a volume for whether it is offered. -/
def stand (v : Volume) : Bool × Serial :=
  (v.isReadable, v.serial)

theorem filterMap_offered?_congr {volumes others : List Volume}
    (same : volumes.map stand = others.map stand) :
    volumes.filterMap offered? = others.filterMap offered? := by
  let ofStand (pair : Bool × Serial) := if pair.1 && !pair.2.isNull then some pair.2 else none
  have through (l : List Volume) : l.filterMap offered? = (l.map stand).filterMap ofStand := by
    rw [List.filterMap_map]
    rfl
  rw [through, through, same]

theorem offeredOnce_congr {volumes others : List Volume}
    (same : volumes.map stand = others.map stand) : OfferedOnce volumes ↔ OfferedOnce others := by
  rw [offeredOnce_iff_nodup, offeredOnce_iff_nodup, filterMap_offered?_congr same]

theorem offeredOnce_of_unreadable {volumes : List Volume}
    (unreadable : ∀ v ∈ volumes, v.isReadable = false) : OfferedOnce volumes := by
  have nothing : volumes.filterMap offered? = [] := by
    rw [List.filterMap_eq_nil_iff]
    intro v member
    simp [offered?, unreadable v member]
  rw [offeredOnce_iff_nodup, nothing]
  exact List.nodup_nil

/-! ## Which duplicate is kept -/

/-- The place of the volume that is kept of those with a serial: that of the boot manager itself, if
it is one of them, and otherwise the first. -/
def keptPlace? (selfVolume : Option Nat) (volumes : List Volume) (s : Serial) : Option Nat :=
  if (selfVolume.bind fun place => volumes[place]?).map (·.serial) = some s then selfVolume
  else volumes.findIdx? (·.serial == s)

/-- Whether a volume stays readable, if it is: its serial tells nothing, or it is the one that is
kept of those with its serial. -/
def isKept (selfVolume : Option Nat) (volumes : List Volume) (place : Nat) (v : Volume) : Bool :=
  v.serial.isNull || keptPlace? selfVolume volumes v.serial == some place

theorem findIdx?_eq_some_iff_take {volumes : List Volume} {place : Nat} {v : Volume}
    (present : volumes[place]? = some v) :
    volumes.findIdx? (·.serial == v.serial) = some place ↔
      (volumes.take place).all (fun other => other.serial != v.serial) = true := by
  obtain ⟨inside, rfl⟩ := List.getElem?_eq_some_iff.mp present
  rw [List.findIdx?_eq_some_iff_getElem, List.all_eq_true]
  constructor
  · rintro ⟨_, _, before⟩ other member
    obtain ⟨i, lt, rfl⟩ := List.mem_take_iff_getElem.mp member
    simpa using before i (by omega)
  · intro apart
    refine ⟨inside, by simp, fun i lt => ?_⟩
    have member : volumes[i] ∈ volumes.take place :=
      List.mem_take_iff_getElem.mpr ⟨i, by omega, rfl⟩
    simpa using apart volumes[i] member

/-- Whether marking passes over a volume: it is kept, or it is a boot partition where these are
looked at as well, and not one with the serial of the boot manager's own volume. -/
def isSpared (options : ScanOptions) (selfVolume : Option Nat) (volumes : List Volume) (place : Nat)
    (v : Volume) : Bool :=
  isKept selfVolume volumes place v ||
    (options.scanOtherEsp && v.isEsp &&
      (VolumeSet.policy options selfVolume volumes).selfSerial != some v.serial)

/-- A volume is a duplicate exactly if it is not spared. -/
theorem isDuplicate_eq_not_isSpared {options : ScanOptions} {selfVolume : Option Nat}
    {volumes : List Volume} {place : Nat} {v : Volume} (present : volumes[place]? = some v) :
    (VolumeSet.policy options selfVolume volumes).isDuplicate (volumes.take place) place v =
      !isSpared options selfVolume volumes place v := by
  have first := findIdx?_eq_some_iff_take present
  unfold DuplicatePolicy.isDuplicate isSpared isKept keptPlace?
  simp only [VolumeSet.policy]
  by_cases null : v.serial.isNull = true
  · simp only [null, if_true, Bool.true_or, Bool.not_true]
  · rw [if_neg null, eq_false_of_ne_true null, Bool.false_or]
    -- the volume of the boot manager is kept wherever it stands, so it is told apart first
    by_cases own : (selfVolume.bind fun place => volumes[place]?).map (·.serial) = some v.serial
    · have started : selfVolume.isSome = true := by
        cases selfVolume with
        | none => simp at own
        | some number => rfl
      simp only [own, started, and_self, if_true, bne_self_eq_false, Bool.and_false, Bool.or_false]
      rfl
    · simp only [own, and_false, if_false]
      by_cases foremost : volumes.findIdx? (·.serial == v.serial) = some place
      · rw [if_pos (first.mp foremost), foremost]
        simp
      · have later : (volumes.findIdx? (·.serial == v.serial) == some place) = false :=
          beq_false_of_ne foremost
        have foreign : ((selfVolume.bind fun place => volumes[place]?).map (·.serial) ==
            some v.serial) = false := beq_false_of_ne own
        rw [if_neg (foremost ∘ first.mpr)]
        simp only [bne, later, foreign]
        by_cases exempt : (options.scanOtherEsp && v.isEsp) = true <;> simp [exempt]

theorem isSpared_eq_isKept {options : ScanOptions} (plain : options.scanOtherEsp = false)
    (selfVolume : Option Nat) (volumes : List Volume) (place : Nat) (v : Volume) :
    isSpared options selfVolume volumes place v = isKept selfVolume volumes place v := by
  rw [isSpared, plain, Bool.false_and, Bool.false_and, Bool.or_false]

/-- A volume of a scan once duplicates were marked. -/
def marked (options : ScanOptions) (selfVolume : Option Nat) (volumes : List Volume) (place : Nat)
    (v : Volume) : Volume :=
  { v with isReadable := v.isReadable && isSpared options selfVolume volumes place v }

/-- A volume of a scan once duplicates were marked, where boot partitions are no exception. -/
def settled (selfVolume : Option Nat) (volumes : List Volume) (place : Nat) (v : Volume) : Volume :=
  { v with isReadable := v.isReadable && isKept selfVolume volumes place v }

theorem value_mark (policy : DuplicatePolicy) (before : List Volume) (place : Nat) (v : Volume) :
    (policy.mark before place v).value =
      { v with isReadable := v.isReadable && !policy.isDuplicate before place v } := by
  unfold DuplicatePolicy.mark
  cases policy.isDuplicate before place v with
  | true => simp
  | false => simp

theorem value_markAll (options : ScanOptions) (selfVolume : Option Nat) (volumes : List Volume) :
    ((VolumeSet.policy options selfVolume volumes).markAll volumes).value =
      volumes.mapIdx (marked options selfVolume volumes) := by
  unfold DuplicatePolicy.markAll
  rw [Logged.value_mapM, List.mapIdx_eq_zipIdx_map]
  apply List.map_congr_left
  rintro ⟨v, place⟩ member
  have present : volumes[place]? = some v := List.mk_mem_zipIdx_iff_getElem?.mp member
  dsimp only
  rw [value_mark, isDuplicate_eq_not_isSpared present, Bool.not_not]
  rfl

theorem value_markAll_settled {options : ScanOptions} (plain : options.scanOtherEsp = false)
    (selfVolume : Option Nat) (volumes : List Volume) :
    ((VolumeSet.policy options selfVolume volumes).markAll volumes).value =
      volumes.mapIdx (settled selfVolume volumes) := by
  have same : marked options selfVolume volumes = settled selfVolume volumes := by
    funext place v
    rw [marked, isSpared_eq_isKept plain]
    rfl
  rw [value_markAll, same]

theorem serial_of_keptPlace? {selfVolume : Option Nat} {volumes : List Volume} {s : Serial}
    {place : Nat} (kept : keptPlace? selfVolume volumes s = some place) :
    ∃ v, volumes[place]? = some v ∧ v.serial = s := by
  unfold keptPlace? at kept
  split at kept
  next own =>
    subst kept
    obtain ⟨v, present, same⟩ := Option.map_eq_some_iff.mp own
    exact ⟨v, present, same⟩
  next =>
    obtain ⟨lt, same, -⟩ := List.findIdx?_eq_some_iff_getElem.mp kept
    exact ⟨volumes[place], List.getElem?_eq_getElem lt, by simpa using same⟩

theorem offered?_settled_eq_some {selfVolume : Option Nat} {volumes : List Volume} {place : Nat}
    {v : Volume} {s : Serial} :
    (settled selfVolume volumes place v).offered? = some s ↔
      v.offered? = some s ∧ keptPlace? selfVolume volumes s = some place := by
  rw [offered?_eq_some, offered?_eq_some, settled, Bool.and_eq_true]
  constructor
  · rintro ⟨⟨readable, kept⟩, rfl, telling⟩
    have chosen : keptPlace? selfVolume volumes v.serial = some place := by
      simpa [isKept, telling] using kept
    exact ⟨⟨readable, rfl, telling⟩, chosen⟩
  · rintro ⟨⟨readable, rfl, telling⟩, chosen⟩
    exact ⟨⟨readable, by simp [isKept, chosen]⟩, rfl, telling⟩

/-- The volumes of a scan are offered once. -/
theorem offeredOnce_settled (selfVolume : Option Nat) (volumes : List Volume) :
    OfferedOnce (volumes.mapIdx (settled selfVolume volumes)) := by
  rw [offeredOnce_iff_nodup]
  unfold List.Nodup
  rw [List.pairwise_filterMap, List.pairwise_iff_getElem]
  intro i j iLt jLt lt s offered t offered' same
  subst same
  rw [List.getElem_mapIdx, offered?_settled_eq_some] at offered offered'
  -- both places would be the one that is kept
  have clash : i = j := by
    simpa using offered.2.symm.trans offered'.2
  omega

theorem mem_offered_settled {selfVolume : Option Nat} {volumes : List Volume} {s : Serial} :
    s ∈ (volumes.mapIdx (settled selfVolume volumes)).filterMap offered? ↔
      ∃ place v, keptPlace? selfVolume volumes s = some place ∧ volumes[place]? = some v ∧
        v.offered? = some s := by
  rw [List.mem_filterMap]
  constructor
  · rintro ⟨w, member, offered⟩
    obtain ⟨place, lt, rfl⟩ := List.mem_mapIdx.mp member
    obtain ⟨offered, kept⟩ := offered?_settled_eq_some.mp offered
    exact ⟨place, volumes[place], kept, List.getElem?_eq_getElem lt, offered⟩
  · rintro ⟨place, v, kept, present, offered⟩
    obtain ⟨lt, rfl⟩ := List.getElem?_eq_some_iff.mp present
    exact ⟨_, List.mem_mapIdx.mpr ⟨place, lt, rfl⟩, offered?_settled_eq_some.mpr ⟨offered, kept⟩⟩

/-- None of these volumes is offered twice, and none that is offered has the serial of a volume that
was kept and is readable. -/
def AreNew (selfVolume : Option Nat) (volumes more : List Volume) : Prop :=
  OfferedOnce more ∧ ∀ w ∈ more, w.isReadable = true → w.serial.isNull = false →
    ∀ place v, keptPlace? selfVolume volumes w.serial = some place →
      volumes[place]? = some v → v.isReadable = false

/-- Volumes that come after those of a scan, where nothing is marked any more. -/
theorem offeredOnce_append {volumes : List Volume} {selfVolume : Option Nat} {more : List Volume} :
    OfferedOnce (volumes.mapIdx (settled selfVolume volumes) ++ more) ↔
      AreNew selfVolume volumes more := by
  have scanned := offeredOnce_iff_nodup.mp (offeredOnce_settled selfVolume volumes)
  unfold AreNew
  rw [offeredOnce_iff_nodup, offeredOnce_iff_nodup, List.filterMap_append, List.nodup_append]
  constructor
  · rintro ⟨-, among, apart⟩
    refine ⟨among, fun w member readable telling place v kept present => ?_⟩
    refine eq_false_of_ne_true fun readable' => ?_
    have offered : w.offered? = some w.serial := offered?_eq_some.mpr ⟨readable, rfl, telling⟩
    obtain ⟨v', present', same⟩ := serial_of_keptPlace? kept
    obtain rfl : v' = v := by simpa using present'.symm.trans present
    have offered' : v'.offered? = some w.serial :=
      offered?_eq_some.mpr ⟨readable', same, telling⟩
    exact apart w.serial (mem_offered_settled.mpr ⟨place, v', kept, present, offered'⟩) w.serial
      (List.mem_filterMap.mpr ⟨w, member, offered⟩) rfl
  · rintro ⟨among, apart⟩
    refine ⟨scanned, among, fun s offered t offered' same => ?_⟩
    subst same
    obtain ⟨place, v, kept, present, offered⟩ := mem_offered_settled.mp offered
    obtain ⟨w, member, offered'⟩ := List.mem_filterMap.mp offered'
    obtain ⟨readable, -, telling⟩ := offered?_eq_some.mp offered
    obtain ⟨readable', rfl, -⟩ := offered?_eq_some.mp offered'
    have unreadable := apart w member readable' telling place v kept present
    simp [unreadable] at readable

end Volume

end BootManager
