import BootManager.Proofs.Volume.Classified
import BootManager.Proofs.Volume.Duplicate
import BootManager.Proofs.Volume.Renaming
import BootManager.Proofs.Volume.Sweep

/-!
# Volumes put together

Once classified, volumes go through three stages: duplicates are marked, partitions are related to
their disks, and volumes of one system may get one name. No stage takes a volume from its place, and
none makes another volume of it as far as groups can tell, so the role lists hold for the volumes at
the end (`VolumeSet.assemble_roleLaw`). Volumes that are well formed stay so, and what is found
inside of extended partitions is well formed as well (`VolumeSet.assemble_assembleLaw`).
-/

namespace BootManager

namespace Volume

variable {count : Nat} {devices : List Device} {options : ScanOptions} {v w : Volume}

/-! ## Well-formed volumes -/

/-- What is so of every volume of a scan of `count` devices. -/
structure WellFormed (count : Nat) (options : ScanOptions) (v : Volume) : Prop where
  device_lt : ∀ number, v.device = some number → number < count
  wholeDisk_lt : ∀ number, v.wholeDisk = some number → number < count
  named : v.name ≠ ""
  readable : v.isReadable = true → v.hasBootCode = true ∨ v.hasRoot = true
  /-- Where older systems are not started, nothing is taken from boot sectors. -/
  unsupported : options.legacy = .none → v.hasBootCode = false ∧ v.mbrTable = none

/-- What becomes of a volume in the stages after it was classified: it is named, it may lose its
readability, and an entry that describes it may be found. -/
structure Follows (v w : Volume) : Prop where
  others_eq : w =
    { v with
      isMbrPartition := w.isMbrPartition
      mbrPartitionIndex := w.mbrPartitionIndex
      name? := w.name?
      isReadable := w.isReadable }
  readable_of : w.isReadable = true → v.isReadable = true
  named : v.name ≠ "" → w.name ≠ ""

theorem WellFormed.of_follows (formed : WellFormed count options v) (follows : Follows v w) :
    WellFormed count options w := by
  rw [follows.others_eq]
  exact ⟨formed.device_lt, formed.wholeDisk_lt, follows.named formed.named,
    fun readable => formed.readable (follows.readable_of readable), formed.unsupported⟩

theorem follows_marked (selfVolume : Option Nat) (volumes : List Volume) (place : Nat)
    (v : Volume) : Follows v (marked options selfVolume volumes place v) :=
  ⟨rfl, fun readable => (Bool.and_eq_true_iff.mp readable).1, id⟩

theorem IsPlaced.follows (placed : IsPlaced v w) : Follows v w := by
  have isReadable : w.isReadable = v.isReadable := by rw [placed.others_eq]
  refine ⟨?_, fun readable => isReadable ▸ readable, fun named => ?_⟩
  · rw [isReadable]
    exact placed.others_eq
  · cases known : v.name? with
    | none => exact absurd (by rw [name, known]; rfl) named
    | some name =>
      have same : w.name = v.name := by
        rw [Volume.name, placed.name?_eq name known, Volume.name, known]
      exact same ▸ named

theorem follows_of_unnamed (same : w.unnamed = v.unnamed) (named : w.name ≠ "") : Follows v w := by
  have others := eq_of_unnamed_eq same
  have isReadable : w.isReadable = v.isReadable := by rw [others]
  have isMbrPartition : w.isMbrPartition = v.isMbrPartition := by rw [others]
  have mbrPartitionIndex : w.mbrPartitionIndex = v.mbrPartitionIndex := by rw [others]
  refine ⟨?_, fun readable => isReadable ▸ readable, fun _ => named⟩
  rw [isReadable, isMbrPartition, mbrPartitionIndex]
  exact others

theorem wellFormed_marked {volumes : List Volume} (selfVolume : Option Nat)
    (formed : ∀ v ∈ volumes, WellFormed count options v) :
    ∀ v ∈ volumes.mapIdx (marked options selfVolume volumes), WellFormed count options v := by
  intro w member
  obtain ⟨place, inRange, rfl⟩ := List.mem_mapIdx.mp member
  exact (formed _ (List.getElem_mem inRange)).of_follows (follows_marked selfVolume volumes _ _)

/-- Nothing is inside of extended partitions where boot sectors are not looked at. -/
theorem inside_of_unsupported {volumes : List Volume}
    (formed : ∀ v ∈ volumes, WellFormed count options v) (unsupported : options.legacy = .none) :
    inside devices options volumes = [] := by
  refine List.eq_nil_iff_forall_not_mem.mpr fun w member => ?_
  obtain ⟨disk, present, table, known, -⟩ := mem_inside.mp member
  obtain ⟨number, -, -, -, there⟩ := diskTable?_eq_some_iff.mp known
  rw [((formed disk present).unsupported unsupported).2] at there
  cases there

/-- What is found inside of extended partitions is well formed if the disks are. -/
theorem wellFormed_of_mem_inside {volumes : List Volume}
    (formed : ∀ v ∈ volumes, WellFormed count options v)
    (member : w ∈ inside devices options volumes) : WellFormed count options w := by
  have supported : options.legacy ≠ .none := fun unsupported =>
    List.not_mem_nil (inside_of_unsupported formed unsupported ▸ member)
  obtain ⟨disk, present, -, -, -, -, -, -, -, partition, -, rfl⟩ := mem_inside.mp member
  have onDisk := (formed disk present).device_lt
  refine ⟨onDisk, onDisk, fun unnamed => ?_, .inl, (absurd · supported)⟩
  exact absurd (String.append_eq_empty_iff.mp unnamed).1 (by decide)

end Volume

namespace VolumeSet

open Volume

variable {set after : VolumeSet}

/-! ## Role lists -/

/-- The role lists of a set are those of its volumes: every volume is in one of them at most. -/
structure RoleLaw (set : VolumeSet) : Prop where
  /-- One pass over the volumes fills the lists. -/
  collected : set.roles =
    set.volumes.zipIdx.foldl (fun lists (v, place) => lists.put v place) RoleLists.empty
  sorted : ∀ group, (set.roles.get group).Pairwise (· < ·)
  inRange : ∀ group, ∀ place ∈ set.roles.get group, place < set.volumes.length
  disjoint : ∀ group other, group ≠ other → (set.roles.get group).Disjoint (set.roles.get other)
  mem_iff : ∀ group place, place ∈ set.roles.get group ↔
    ∃ v, set.volumes[place]? = some v ∧ group.Holds v

theorem roleLaw_of_collect (told : set.roles = .collect set.volumes) : RoleLaw set := by
  have list (group : Group) : set.roles.get group = places set.volumes group := by
    rw [told, RoleLists.get_collect]
  have mem (group : Group) (place : Nat) : place ∈ set.roles.get group ↔
      ∃ v, set.volumes[place]? = some v ∧ group.Holds v := by
    simp only [list, mem_places, group?_eq_some_iff]
  refine ⟨told.trans (RoleLists.collect_eq_foldl _), fun group => ?_, fun group place member => ?_,
    fun group other apart => ?_, mem⟩
  · rw [list]
    exact places_sorted _ group
  · obtain ⟨v, present, -⟩ := (mem group place).mp member
    exact (List.getElem?_eq_some_iff.mp present).1
  · rw [list, list]
    exact places_disjoint apart

theorem IsRelabelled.collect_eq (relabelled : IsRelabelled set after) :
    RoleLists.collect after.volumes = .collect set.volumes :=
  RoleLists.ext_get fun group => by
    rw [RoleLists.get_collect, RoleLists.get_collect, places_congr relabelled.unnamed_eq]

/-- The role lists of volumes that were put together are true of them, whether or not some were
renamed. -/
theorem assemble_roleLaw (volumes : List Volume) (devices : List Device)
    (selfVolume : Option Nat) (options : ScanOptions) :
    RoleLaw (assemble volumes devices selfVolume options).value := by
  have relabelled := assemble_isRelabelled volumes devices selfVolume options
  refine roleLaw_of_collect ?_
  rw [relabelled.collect_eq, relabelled.others_eq]
  rfl

/-! ## All stages -/

section

variable (volumes : List Volume) (devices : List Device) (selfVolume : Option Nat)
  (options : ScanOptions)

theorem volumes_gather : (gather volumes devices selfVolume options).value.volumes =
    (relate devices options (volumes.mapIdx (marked options selfVolume volumes))).value := by
  rw [← value_markAll]
  rfl

theorem map_site_gather : (gather volumes devices selfVolume options).value.volumes.map site =
    volumes.map site ++
      (inside devices options (volumes.mapIdx (marked options selfVolume volumes))).map site := by
  rw [volumes_gather, value_relate, List.map_append, List.map_map]
  congr 1
  have placed (v : Volume) : (site ∘ withMbrPlace devices
      (volumes.mapIdx (marked options selfVolume volumes))) v = v.site := by
    dsimp only [Function.comp_apply]
    rw [(withMbrPlace_isPlaced _ v).others_eq]
    rfl
  rw [List.map_congr_left fun v _ => placed v]
  apply List.ext_getElem
  · simp
  · intro place _ _
    simp [marked, site]

theorem IsRelabelled.findIdx?_eq (relabelled : IsRelabelled set after) :
    after.volumes.findIdx? (·.isDiscoveredRoot) = set.volumes.findIdx? (·.isDiscoveredRoot) := by
  have through (l : List Volume) : l.findIdx? (·.isDiscoveredRoot) =
      (l.map (·.isDiscoveredRoot)).findIdx? id := by
    rw [List.findIdx?_map]
    rfl
  rw [through, relabelled.map_eq fun _ => rfl, ← through]

variable {volumes devices selfVolume options}

theorem wellFormed_gather {count : Nat} (formed : ∀ v ∈ volumes, WellFormed count options v) :
    ∀ w ∈ (gather volumes devices selfVolume options).value.volumes,
      WellFormed count options w := by
  have marked_formed := wellFormed_marked selfVolume formed
  intro w member
  rw [volumes_gather, value_relate, List.mem_append] at member
  obtain shown | found := member
  · obtain ⟨v, present, rfl⟩ := List.mem_map.mp shown
    exact (marked_formed v present).of_follows (withMbrPlace_isPlaced _ v).follows
  · exact wellFormed_of_mem_inside marked_formed found

theorem IsRelabelled.wellFormed (relabelled : IsRelabelled set after) {count : Nat}
    (formed : ∀ v ∈ set.volumes, WellFormed count options v) :
    ∀ w ∈ after.volumes, WellFormed count options w := by
  intro w member
  have named := relabelled.named (fun v present => (formed v present).named) w member
  have stripped : w.unnamed ∈ set.volumes.map unnamed :=
    relabelled.unnamed_eq ▸ List.mem_map_of_mem member
  obtain ⟨v, present, same⟩ := List.mem_map.mp stripped
  exact (formed v present).of_follows (follows_of_unnamed same.symm named)

end

/-- What putting well-formed volumes together keeps. -/
structure AssembleLaw (volumes : List Volume) (devices : List Device) (selfVolume : Option Nat)
    (options : ScanOptions) (set : VolumeSet) : Prop where
  wellFormed : ∀ v ∈ set.volumes, WellFormed devices.length options v
  /-- Volumes keep their places. -/
  site_eq : ∀ (place : Nat) (v : Volume), volumes[place]? = some v →
    ∃ w, set.volumes[place]? = some w ∧ w.site = v.site
  /-- None come after them where older systems are not started. -/
  length_eq : options.legacy = .none → set.volumes.length = volumes.length
  devices_eq : set.devices = devices
  selfVolume_eq : set.selfVolume = selfVolume
  discoveredRoot_eq : set.discoveredRoot = set.volumes.findIdx? (·.isDiscoveredRoot)

theorem assemble_assembleLaw {volumes : List Volume} {devices : List Device}
    {options : ScanOptions} (selfVolume : Option Nat)
    (formed : ∀ v ∈ volumes, WellFormed devices.length options v) :
    AssembleLaw volumes devices selfVolume options
      (assemble volumes devices selfVolume options).value := by
  have relabelled := assemble_isRelabelled volumes devices selfVolume options
  have sites := (relabelled.map_eq (f := site) fun _ => rfl).trans
    (map_site_gather volumes devices selfVolume options)
  constructor
  case wellFormed => exact relabelled.wellFormed (wellFormed_gather formed)
  case site_eq =>
    intro place v present
    have here : ((assemble volumes devices selfVolume options).value.volumes.map site)[place]? =
        some v.site := by
      have lt := (List.getElem?_eq_some_iff.mp present).1
      rw [sites, List.getElem?_append_left (by rwa [List.length_map]), List.getElem?_map, present,
        Option.map_some]
    rwa [List.getElem?_map, Option.map_eq_some_iff] at here
  case length_eq =>
    intro unsupported
    have none : inside devices options (volumes.mapIdx (marked options selfVolume volumes)) = [] :=
      inside_of_unsupported (wellFormed_marked selfVolume formed) unsupported
    have sizes := congrArg List.length sites
    rwa [none, List.map_nil, List.append_nil, List.length_map, List.length_map] at sizes
  case devices_eq =>
    rw [relabelled.others_eq]
    rfl
  case selfVolume_eq =>
    rw [relabelled.others_eq]
    rfl
  case discoveredRoot_eq =>
    rw [relabelled.findIdx?_eq, relabelled.others_eq]
    rfl

end VolumeSet

end BootManager
