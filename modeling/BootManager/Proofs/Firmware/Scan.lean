import BootManager.Firmware.Scan
import BootManager.Proofs.Volume.Assembled

/-!
# Scans

The volumes of a scan begin with one for each block device that can be opened, in the order of the
handles, and partitions inside of extended ones come after them. The main result is
`Machine.scan_scanLaw`: handles that are left out shift no number, and every volume is well formed.
-/

namespace BootManager.Firmware

namespace Machine

open Volume

variable {m : Machine} {opened : List OpenedDevice} {options : ScanOptions}
  {selfDevice : Option Nat}

/-! ## Opened devices -/

/-- Whether the block device of a handle can be opened. -/
def isOpenable (m : Machine) (handle : Nat) : Bool :=
  (m.open? handle .block).toOption.isSome

/-- The handles whose block devices can be opened, in order. -/
def openable (m : Machine) : List Nat :=
  (m.offering .block).filter m.isOpenable

theorem nodup_openable (m : Machine) : m.openable.Nodup :=
  (List.nodup_range.filter _).filter _

theorem map_handle_openDevices (m : Machine) (handles : List Nat) :
    (m.openDevices handles).value.map (·.handle) = handles.filter m.isOpenable := by
  induction handles with
  | nil => rfl
  | cons handle rest ih =>
    rw [openDevices, List.filter_cons, isOpenable]
    cases m.open? handle .block with
    | ok slot => exact congrArg (handle :: ·) ih
    | error status => exact ih

theorem exists_slot_of_mem_openDevices {handles : List Nat} {found : OpenedDevice}
    (member : found ∈ (m.openDevices handles).value) :
    ∃ slot, m.open? found.handle .block = .ok slot ∧ found.device = slot.opened := by
  induction handles with
  | nil => cases member
  | cons handle rest ih =>
    rw [openDevices] at member
    cases answer : m.open? handle .block with
    | ok slot =>
      rw [answer] at member
      obtain rfl | later := List.mem_cons.mp member
      · exact ⟨slot, answer, rfl⟩
      · exact ih later
    | error status =>
      rw [answer] at member
      exact ih member

/-! ## Classified devices -/

theorem value_classifyAll (m : Machine) (opened : List OpenedDevice) (options : ScanOptions)
    (place : Nat) (rest : List OpenedDevice) :
    (m.classifyAll opened options place rest).value = rest.mapIdx fun i found =>
      (Volume.classify (m.probe opened (place + i) found.handle) found.device options
        .x64).value := by
  induction rest generalizing place with
  | nil => rfl
  | cons found rest ih =>
    rw [List.mapIdx_cons, classifyAll, Logged.value_bind, Logged.value_bind, ih]
    simp only [Nat.add_right_comm]
    rfl

theorem wholeDisk_lt (place handle : Nat) {number : Nat}
    (disk : (m.probe opened place handle).wholeDisk = some number) : number < opened.length := by
  obtain ⟨path, -, located⟩ := Option.bind_eq_some_iff.mp disk
  obtain ⟨other, -, found⟩ := Option.bind_eq_some_iff.mp located
  exact (List.findIdx?_eq_some_iff_getElem.mp found).1

/-- The volumes of all opened devices, as they were classified. -/
def classified (m : Machine) (opened : List OpenedDevice) (options : ScanOptions) : List Volume :=
  (m.classifyAll opened options 0 opened).value

theorem getElem?_classified (place : Nat) : (m.classified opened options)[place]? =
    opened[place]?.map fun found =>
      (Volume.classify (m.probe opened place found.handle) found.device options .x64).value := by
  rw [classified, value_classifyAll, List.getElem?_mapIdx]
  simp only [Nat.zero_add]

theorem exists_classified (m : Machine) (options : ScanOptions) {place : Nat} {found : OpenedDevice}
    (present : opened[place]? = some found) :
    ∃ v, (m.classified opened options)[place]? = some v ∧ v.handle = some found.handle ∧
      v.device = some place := by
  have site := (classify_classified (m.probe opened place found.handle) found.device options
    .x64).site_eq
  refine ⟨_, ?_, congrArg Site.handle site, congrArg Site.device site⟩
  rw [getElem?_classified, present, Option.map_some]

theorem wellFormed_classified :
    ∀ v ∈ m.classified opened options, WellFormed opened.length options v := by
  intro v member
  obtain ⟨place, present⟩ := List.mem_iff_getElem?.mp member
  rw [getElem?_classified] at present
  obtain ⟨found, there, rfl⟩ := Option.map_eq_some_iff.mp present
  have classified := classify_classified (m.probe opened place found.handle) found.device options
    .x64
  have device := congrArg Site.device classified.site_eq
  have wholeDisk := congrArg Site.wholeDisk classified.site_eq
  refine ⟨fun number known => ?_, fun number known => ?_, classified.named, fun readable => ?_,
    classified.unsupported⟩
  · obtain rfl : place = number := Option.some.inj (device.symm.trans known)
    exact (List.getElem?_eq_some_iff.mp there).1
  · exact wholeDisk_lt place found.handle (wholeDisk.symm.trans known)
  · rwa [classified.isReadable_eq, Bool.or_eq_true] at readable

theorem map_handle_classified : (m.classified opened options).map (·.handle) =
    opened.map fun found => some found.handle := by
  apply List.ext_getElem?
  intro place
  rw [List.getElem?_map, List.getElem?_map]
  cases present : opened[place]? with
  | none =>
    rw [getElem?_classified, present]
    rfl
  | some found =>
    obtain ⟨v, there, handle, -⟩ := exists_classified m options present
    rw [there, Option.map_some, Option.map_some, handle]

/-- A value that stands once in a list is found exactly where it stands. -/
theorem findIdx?_eq_some_iff_of_nodup {l : List Nat} (once : l.Nodup) {a place : Nat} :
    l.findIdx? (· == a) = some place ↔ l[place]? = some a := by
  rw [List.findIdx?_eq_some_iff_getElem, List.getElem?_eq_some_iff]
  constructor
  · rintro ⟨inRange, same, -⟩
    exact ⟨inRange, beq_iff_eq.mp same⟩
  · rintro ⟨inRange, same⟩
    refine ⟨inRange, beq_iff_eq.mpr same, fun earlier lt again => ?_⟩
    have twice : l[earlier] = l[place] := (beq_iff_eq.mp again).trans same.symm
    exact Nat.ne_of_lt lt ((List.getElem_inj once).mp twice)

theorem findIdx?_classified (device : Nat) :
    ((m.classified opened options).findIdx? fun v => v.handle == some device) =
      (opened.map (·.handle)).findIdx? (· == device) := by
  have through : ((m.classified opened options).findIdx? fun v => v.handle == some device) =
      ((m.classified opened options).map (·.handle)).findIdx? (· == some device) := by
    rw [List.findIdx?_map]
    rfl
  rw [through, map_handle_classified, List.findIdx?_map, List.findIdx?_map]
  rfl

/-! ## All stages -/

/-- The set that is made of opened devices. -/
def gathered (m : Machine) (opened : List OpenedDevice) (options : ScanOptions)
    (selfDevice : Option Nat) : VolumeSet :=
  (VolumeSet.assemble (m.classified opened options) (opened.map (·.device))
    (selfDevice.bind fun device =>
      (m.classified opened options).findIdx? fun v => v.handle == some device) options).value

theorem value_scan (some_block : m.offering .block ≠ []) :
    (m.scan options selfDevice).value =
      .ok (m.gathered (m.openDevices (m.offering .block)).value options selfDevice) := by
  unfold scan
  split
  next none => exact absurd none some_block
  next => rfl

theorem value_scan_of_none (none : m.offering .block = []) :
    (m.scan options selfDevice).value = .error (.firmware .notFound) := by
  rw [scan, none, Logged.value_pure]

/-- What is so of the set that a scan finds. -/
structure ScanLaw (m : Machine) (options : ScanOptions) (selfDevice : Option Nat)
    (set : VolumeSet) : Prop where
  /-- The devices are those that can be opened. -/
  length_devices : set.devices.length = m.openable.length
  device : ∀ (place handle : Nat), m.openable[place]? = some handle →
    ∃ slot, m.open? handle .block = .ok slot ∧ set.devices[place]? = some slot.opened
  /-- Each of them is a volume at the same place. -/
  volume : ∀ (place handle : Nat), m.openable[place]? = some handle →
    ∃ v, set.volumes[place]? = some v ∧ v.handle = some handle ∧ v.device = some place
  wellFormed : ∀ v ∈ set.volumes, WellFormed set.devices.length options v
  /-- There are no others where older systems are not started. -/
  length_volumes : options.legacy = .none → set.volumes.length = m.openable.length
  /-- The volume that the boot manager was started from is that of its handle. -/
  selfVolume : ∀ place : Nat, set.selfVolume = some place ↔
    ∃ handle, selfDevice = some handle ∧ m.openable[place]? = some handle
  discoveredRoot : set.discoveredRoot = set.volumes.findIdx? (·.isDiscoveredRoot)

theorem gathered_scanLaw (m : Machine) (options : ScanOptions) (selfDevice : Option Nat) :
    ScanLaw m options selfDevice
      (m.gathered (m.openDevices (m.offering .block)).value options selfDevice) := by
  have handles : (m.openDevices (m.offering .block)).value.map (·.handle) = m.openable :=
    map_handle_openDevices m _
  have answers : ∀ found ∈ (m.openDevices (m.offering .block)).value,
      ∃ slot, m.open? found.handle .block = .ok slot ∧ found.device = slot.opened :=
    fun found => exists_slot_of_mem_openDevices
  generalize (m.openDevices (m.offering .block)).value = opened at handles answers ⊢
  have there {place handle : Nat} (known : m.openable[place]? = some handle) :
      ∃ found, opened[place]? = some found ∧ found.handle = handle := by
    rwa [← handles, List.getElem?_map, Option.map_eq_some_iff] at known
  have size : opened.length = m.openable.length := by
    rw [← handles, List.length_map]
  have formed : ∀ v ∈ m.classified opened options,
      WellFormed (opened.map (·.device)).length options v := by
    rw [List.length_map]
    exact wellFormed_classified
  have law := VolumeSet.assemble_assembleLaw (selfDevice.bind fun device =>
    (m.classified opened options).findIdx? fun v => v.handle == some device) formed
  rw [← gathered] at law
  constructor
  case length_devices => rw [law.devices_eq, List.length_map, size]
  case device =>
    intro place handle known
    obtain ⟨found, present, rfl⟩ := there known
    obtain ⟨slot, answer, device⟩ := answers found (List.mem_of_getElem? present)
    refine ⟨slot, answer, ?_⟩
    rw [law.devices_eq, List.getElem?_map, present, Option.map_some, device]
  case volume =>
    intro place handle known
    obtain ⟨found, present, rfl⟩ := there known
    obtain ⟨v, classified, handle, device⟩ := exists_classified m options present
    obtain ⟨w, there, site⟩ := law.site_eq place v classified
    exact ⟨w, there, (congrArg Site.handle site).trans handle,
      (congrArg Site.device site).trans device⟩
  case wellFormed =>
    rw [law.devices_eq]
    exact law.wellFormed
  case length_volumes =>
    intro unsupported
    rw [law.length_eq unsupported, ← size, classified, value_classifyAll, List.length_mapIdx]
  case selfVolume =>
    intro place
    rw [law.selfVolume_eq, Option.bind_eq_some_iff]
    simp only [findIdx?_classified, handles, findIdx?_eq_some_iff_of_nodup m.nodup_openable]
  case discoveredRoot => exact law.discoveredRoot_eq

/-- A scan fails only if there is no block device at all. Otherwise it finds a set in which every
number is the right one. -/
theorem scan_scanLaw (m : Machine) (options : ScanOptions) (selfDevice : Option Nat) :
    (m.offering .block = [] ∧
        (m.scan options selfDevice).value = .error (.firmware .notFound)) ∨
      (m.offering .block ≠ [] ∧ ∃ set, (m.scan options selfDevice).value = .ok set ∧
        ScanLaw m options selfDevice set) := by
  by_cases none : m.offering .block = []
  · exact .inl ⟨none, value_scan_of_none none⟩
  · exact .inr ⟨none, _, value_scan none, gathered_scanLaw m options selfDevice⟩

end Machine

end BootManager.Firmware
