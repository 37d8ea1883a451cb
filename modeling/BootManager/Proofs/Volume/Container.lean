import BootManager.Proofs.Volume.Reconcile

/-!
# Names from other containers

The volumes of a system share a container. A preboot volume is named after the system volume in its
own one, but a data volume is named after any whose name its own is made of. If there is no such
system volume in its container, it gets a name from another one. The main result is
`VolumeSet.reconcile_containerLaw`.
-/

namespace BootManager

namespace VolumeSet

open Volume

variable {set : VolumeSet} {v w : Volume}

/-- A data volume, and what becomes of it. -/
def DataBecomes (set after : VolumeSet) (v w : Volume) : Prop :=
  ∃ place ∈ set.roles.data, set.volumes[place]? = some v ∧ after.volumes[place]? = some w

/-- A system volume lends the name that the name of a data volume is made of. -/
def MakesName (set : VolumeSet) (u v : Volume) : Prop :=
  set.Lends u ∧ v.name = sanitize u.name ++ " - Data"

/-- A volume is now called as a system volume in its container. -/
def IsNamedBeside (set : VolumeSet) (v w : Volume) : Prop :=
  ∃ u, set.Lends u ∧ u.partGuid = v.partGuid ∧ w.name? = some (sanitize u.name)

/-- Data volumes are named after system volumes in their own containers only. -/
def KeepsContainers (set after : VolumeSet) : Prop :=
  ∀ v w, set.DataBecomes after v w → w ≠ v → set.IsNamedBeside v w

/-- What naming volumes alike has to do with containers. -/
structure ContainerLaw (set after : VolumeSet) : Prop where
  /-- A data volume is renamed exactly if some system volume makes its name, in whatever
  container. -/
  renamed_iff : ∀ v w, set.DataBecomes after v w → (w ≠ v ↔ ∃ u, set.MakesName u v)
  /-- It is then named after one in its container exactly if one there makes its name. -/
  beside_iff : ∀ v w, set.DataBecomes after v w → w ≠ v →
    (set.IsNamedBeside v w ↔ ∃ u, set.MakesName u v ∧ u.partGuid = v.partGuid)
  /-- So all of them keep to their containers exactly if no name is made in another one only. -/
  keeps_iff : set.KeepsContainers after ↔
    ∀ place ∈ set.roles.data, ∀ v, set.volumes[place]? = some v →
      (∃ u, set.MakesName u v) → ∃ u, set.MakesName u v ∧ u.partGuid = v.partGuid
  /-- A preboot volume that is renamed is always named after one in its container. -/
  preboot : ∀ place ∈ set.roles.preboot, ∀ v w, set.volumes[place]? = some v →
    after.volumes[place]? = some w → w ≠ v → set.IsNamedBeside v w

/-! ## One volume -/

theorem volumes_renameInPlace (told : set.roles = .collect set.volumes)
    (done : set.renameInPlace.value.1 = true) :
    set.renameInPlace.value.2.volumes =
      set.volumes.map (renamed set.singleApfs (namedSystems set.volumes)) := by
  rw [renameInPlace_eq told] at done ⊢
  split at done
  next => cases done
  next asked => rw [if_neg asked, Logged.value_map, value_unifyNames]

theorem IsTold.valid_of_done (told : set.IsTold) (done : set.renameInPlace.value.1 = true) :
    set.validApfs = true := by
  rw [renameInPlace_eq told.roles_eq] at done
  split at done
  next => cases done
  next asked =>
    rw [Bool.or_eq_true, Bool.not_eq_true'] at asked
    exact eq_true_of_ne_false fun invalid => asked (.inr invalid)

theorem IsTold.renamed_became (told : set.IsTold) (done : set.renameInPlace.value.1 = true)
    {place : Nat} (present : set.volumes[place]? = some v)
    (became : set.renameInPlace.value.2.volumes[place]? = some w) : set.Renamed place v w := by
  rw [volumes_renameInPlace told.roles_eq done, List.getElem?_map, present] at became
  obtain rfl := Option.some.inj became
  exact told.renamed_place (told.valid_of_done done) present

/-- A name is not made of itself. -/
theorem ne_of_named {name : String} (made : v.name = name ++ " - Data")
    (given : w.name? = some name) : w ≠ v := by
  rintro rfl
  have same : name = name ++ " - Data" := by rw [← made, Volume.name, given, Option.getD_some]
  have length := congrArg String.length same
  rw [String.length_append] at length
  have longer : 0 < " - Data".length := by decide
  omega

theorem Renamed.ne_iff_makesName {place : Nat} (became : set.Renamed place v w)
    (here : place ∈ set.roles.data) : w ≠ v ↔ ∃ u, set.MakesName u v := by
  constructor
  · intro changed
    obtain ⟨u, lends, made, -⟩ := became.data here changed
    exact ⟨u, lends, made⟩
  · rintro ⟨u, lends, made⟩
    exact ne_of_named made (became.data_all here u lends made)

theorem Renamed.isNamedBeside_iff {place : Nat} (became : set.Renamed place v w)
    (here : place ∈ set.roles.data) (changed : w ≠ v) :
    set.IsNamedBeside v w ↔ ∃ u, set.MakesName u v ∧ u.partGuid = v.partGuid := by
  constructor
  · rintro ⟨u, lends, beside, named⟩
    obtain ⟨x, -, made, given⟩ := became.data here changed
    have same : sanitize u.name = sanitize x.name := Option.some.inj (named.symm.trans given)
    exact ⟨u, ⟨lends, same ▸ made⟩, beside⟩
  · rintro ⟨u, ⟨lends, made⟩, beside⟩
    exact ⟨u, lends, beside, became.data_all here u lends made⟩

/-! ## All volumes -/

/-- When volumes get one name, preboot volumes are named after system volumes in their containers,
and data volumes are unless their names are made in other containers only. -/
theorem reconcile_containerLaw (told : set.IsTold) (done : set.renameInPlace.value.1 = true) :
    set.ContainerLaw set.renameInPlace.value.2 := by
  have renamed_iff (v w : Volume) : set.DataBecomes set.renameInPlace.value.2 v w →
      (w ≠ v ↔ ∃ u, set.MakesName u v) := by
    rintro ⟨place, here, present, became⟩
    exact (told.renamed_became done present became).ne_iff_makesName here
  have beside_iff (v w : Volume) : set.DataBecomes set.renameInPlace.value.2 v w → w ≠ v →
      (set.IsNamedBeside v w ↔ ∃ u, set.MakesName u v ∧ u.partGuid = v.partGuid) := by
    rintro ⟨place, here, present, became⟩ changed
    exact (told.renamed_became done present became).isNamedBeside_iff here changed
  refine ⟨renamed_iff, beside_iff, ?_, ?_⟩
  · constructor
    · intro keeps place here v present makes
      have became : set.renameInPlace.value.2.volumes[place]? =
          some (renamed set.singleApfs (namedSystems set.volumes) v) := by
        rw [volumes_renameInPlace told.roles_eq done, List.getElem?_map, present]
        rfl
      have data : set.DataBecomes set.renameInPlace.value.2 v _ := ⟨place, here, present, became⟩
      have changed := (renamed_iff v _ data).mpr makes
      exact (beside_iff v _ data changed).mp (keeps v _ data changed)
    · intro made v w data changed
      have makes := (renamed_iff v w data).mp changed
      refine (beside_iff v w data changed).mpr ?_
      obtain ⟨place, here, present, -⟩ := data
      exact made place here v present makes
  · intro place here v w present became changed
    exact ((told.renamed_became done present became).preboot here changed).2

theorem oneSystem_containerLaw : oneSystem.IsTold ∧ oneSystem.renameInPlace.value.1 = true ∧
    oneSystem.ContainerLaw oneSystem.renameInPlace.value.2 := by
  have done : oneSystem.renameInPlace.value.1 = true := by decide +kernel
  exact ⟨oneSystem_isTold, done, reconcile_containerLaw oneSystem_isTold done⟩

/-! ## Two containers -/

/-- Systems in two containers. The data volume of the second one has a name that looks like one of
the first. -/
def twoContainers : VolumeSet where
  volumes := [inContainer .system "Sonoma", inContainer .preboot "Preboot",
    { inContainer .system "Ventura" with partGuid := some ⟨2⟩ },
    { inContainer .data "Sonoma - Data" with partGuid := some ⟨2⟩ }]
  devices := []
  roles := ⟨[], [], [1], [0, 2], [3], []⟩
  singleApfs := true
  validApfs := true
  apfsSynced := false
  selfVolume := none
  discoveredRoot := none

/-- The data volume of the second container is named after the system of the first. -/
theorem twoContainers_not_kept : twoContainers.IsTold ∧
    twoContainers.renameInPlace.value.1 = true ∧
      ¬twoContainers.KeepsContainers twoContainers.renameInPlace.value.2 := by
  refine ⟨⟨by decide +kernel, by decide +kernel, by decide +kernel⟩, by decide +kernel, ?_⟩
  intro keeps
  have became : twoContainers.renameInPlace.value.2.volumes[3]? =
      some { inContainer .data "Sonoma" with partGuid := some ⟨2⟩ } := by decide +kernel
  have changed : ({ inContainer .data "Sonoma" with partGuid := some ⟨2⟩ } : Volume) ≠
      { inContainer .data "Sonoma - Data" with partGuid := some ⟨2⟩ } := by decide
  obtain ⟨u, ⟨⟨place, member, present⟩, -⟩, beside, named⟩ :=
    keeps _ _ ⟨3, by decide, rfl, became⟩ changed
  have places : place = 0 ∨ place = 2 := by simpa [twoContainers] using member
  obtain rfl | rfl := places
  · obtain rfl := Option.some.inj present
    exact absurd beside (by decide)
  · obtain rfl := Option.some.inj present
    exact absurd named (by decide)

end VolumeSet

end BootManager
