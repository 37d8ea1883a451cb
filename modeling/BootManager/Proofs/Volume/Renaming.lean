import BootManager.Proofs.Volume.Groups
import BootManager.Volume.Set

/-!
# Renaming the volumes of a system

Data volumes and preboot volumes get the name of a system volume. The lemmas say when a volume is
renamed and to what, and that nothing but its name changes.
-/

namespace BootManager

namespace Volume

variable {volumes others : List Volume} {group : Group} {place : Nat} {v w : Volume}

/-! ## What does not depend on names -/

/-- A volume without its name. -/
def unnamed (v : Volume) : Volume :=
  { v with name? := none }

theorem group?_congr (same : w.unnamed = v.unnamed) : w.group? = v.group? := by
  have through (v : Volume) : v.group? = v.unnamed.group? := rfl
  rw [through, same, ← through]

theorem eq_of_unnamed_eq (same : w.unnamed = v.unnamed) : w = { v with name? := w.name? } := by
  have whole (v : Volume) : v = { v.unnamed with name? := v.name? } := rfl
  rw [whole w, same]
  rfl

theorem places_congr (same : others.map unnamed = volumes.map unnamed) (group : Group) :
    places others group = places volumes group := by
  have through (l : List Volume) : places l group = places (l.map unnamed) group := by
    unfold places
    rw [List.zipIdx_map, List.filter_map, List.map_map]
    rfl
  rw [through, same, ← through]

/-! ## System volumes with a name -/

theorem mem_namedSystems {system : NamedSystem} :
    system ∈ namedSystems volumes ↔ ∃ (place : Nat) (u : Volume), volumes[place]? = some u ∧
      u.group? = some .system ∧ sanitize u.name ≠ "" ∧
        system = ⟨sanitize u.name, u.partGuid⟩ := by
  simp only [namedSystems, members, List.mem_filter, List.mem_map, bne_iff_ne, beq_iff_eq]
  constructor
  · rintro ⟨⟨u, ⟨member, isSystem⟩, rfl⟩, named⟩
    obtain ⟨place, present⟩ := List.mem_iff_getElem?.mp member
    exact ⟨place, u, present, isSystem, named, rfl⟩
  · rintro ⟨place, u, present, isSystem, named, rfl⟩
    exact ⟨⟨u, ⟨List.mem_of_getElem? present, isSystem⟩, rfl⟩, named⟩

/-! ## One volume -/

theorem contains_dataMark (name : String) :
    Text.containsRun dataMark.toList (name ++ dataSuffix).toList = true := by
  rw [Text.containsRun_iff, String.toList_append]
  exact ⟨name.toList ++ [' '], [], by simp [dataMark, dataSuffix]⟩

theorem renameData_of_ne {systems : List NamedSystem} (other : v.group? ≠ some .data) :
    renameData systems v = pure v :=
  if_neg fun asked => other asked.1

theorem renamePreboot_of_ne {systems : List NamedSystem} (other : v.group? ≠ some .preboot) :
    renamePreboot systems v = pure v :=
  if_neg fun asked => other asked.1

/-- A data volume is renamed exactly if its name is made of that of a system. -/
theorem value_renameData (systems : List NamedSystem) (v : Volume) :
    (v.group? = some .data ∧ ∃ system ∈ systems, v.name = system.name ++ dataSuffix ∧
        (renameData systems v).value = { v with name? := some system.name }) ∨
      (renameData systems v).value = v ∧
        ¬(v.group? = some .data ∧ ∃ system ∈ systems, v.name = system.name ++ dataSuffix) := by
  unfold renameData
  dsimp only
  split
  next asked =>
    cases found : systems.find? fun system => system.name ++ dataSuffix == v.name with
    | some system =>
      have same : system.name ++ dataSuffix = v.name := by simpa using List.find?_some found
      exact .inl ⟨asked.1, system, List.mem_of_find?_eq_some found, same.symm, rfl⟩
    | none =>
      refine .inr ⟨rfl, ?_⟩
      rintro ⟨-, system, member, same⟩
      have apart := List.find?_eq_none.mp found system member
      exact apart (beq_iff_eq.mpr same.symm)
  next other =>
    refine .inr ⟨rfl, ?_⟩
    rintro ⟨isData, system, -, same⟩
    exact other ⟨isData, same ▸ contains_dataMark system.name⟩

/-- A preboot volume is renamed exactly if there is a system in its container. -/
theorem value_renamePreboot (systems : List NamedSystem) (v : Volume) :
    (v.group? = some .preboot ∧ v.partGuid ≠ none ∧ ∃ system ∈ systems,
        system.partGuid = v.partGuid ∧
          (renamePreboot systems v).value = { v with name? := some system.name }) ∨
      (renamePreboot systems v).value = v ∧
        ¬(v.group? = some .preboot ∧ v.partGuid ≠ none ∧
          ∃ system ∈ systems, system.partGuid = v.partGuid) := by
  unfold renamePreboot
  split
  next asked =>
    have known : v.partGuid ≠ none := Option.isSome_iff_ne_none.mp asked.2
    cases found : systems.find? fun system => system.partGuid == v.partGuid with
    | some system =>
      have same : system.partGuid = v.partGuid := by simpa using List.find?_some found
      exact .inl ⟨asked.1, known, system, List.mem_of_find?_eq_some found, same, rfl⟩
    | none =>
      refine .inr ⟨rfl, ?_⟩
      rintro ⟨-, -, system, member, same⟩
      exact List.find?_eq_none.mp found system member (beq_iff_eq.mpr same)
  next other =>
    refine .inr ⟨rfl, ?_⟩
    rintro ⟨isPreboot, known, -⟩
    exact other ⟨isPreboot, Option.isSome_iff_ne_none.mpr known⟩

theorem unnamed_renameData (systems : List NamedSystem) (v : Volume) :
    (renameData systems v).value.unnamed = v.unnamed := by
  obtain ⟨-, system, -, -, renamed⟩ | ⟨kept, -⟩ := value_renameData systems v
  · rw [renamed]
    rfl
  · rw [kept]

theorem unnamed_renamePreboot (systems : List NamedSystem) (v : Volume) :
    (renamePreboot systems v).value.unnamed = v.unnamed := by
  obtain ⟨-, -, system, -, -, renamed⟩ | ⟨kept, -⟩ := value_renamePreboot systems v
  · rw [renamed]
    rfl
  · rw [kept]

/-! ## All volumes -/

/-- What naming the volumes of one system alike does to one of them. -/
def renamed (single : Bool) (systems : List NamedSystem) (v : Volume) : Volume :=
  let v := (renameData systems v).value
  if single then (renamePreboot systems v).value else v

theorem value_unifyNames (single : Bool) (volumes : List Volume) :
    (unifyNames single volumes).value =
      volumes.map (renamed single (namedSystems volumes)) := by
  unfold unifyNames renamed
  cases single with
  | true => simp
  | false => simp

theorem renamed_of_data (single : Bool) (systems : List NamedSystem)
    (isData : v.group? = some .data) :
    renamed single systems v = (renameData systems v).value := by
  have still := group?_congr (unnamed_renameData systems v)
  unfold renamed
  cases single with
  | false => rfl
  | true =>
    dsimp only
    rw [if_pos rfl, renamePreboot_of_ne (by rw [still, isData]; decide), Logged.value_pure]

theorem renamed_of_ne_data (single : Bool) (systems : List NamedSystem)
    (other : v.group? ≠ some .data) :
    renamed single systems v = if single then (renamePreboot systems v).value else v := by
  unfold renamed
  rw [renameData_of_ne other]
  rfl

theorem unnamed_renamed (single : Bool) (systems : List NamedSystem) (v : Volume) :
    (renamed single systems v).unnamed = v.unnamed := by
  cases single with
  | true => exact (unnamed_renamePreboot systems _).trans (unnamed_renameData systems v)
  | false => exact unnamed_renameData systems v

theorem unnamed_unifyNames (single : Bool) (volumes : List Volume) :
    (unifyNames single volumes).value.map unnamed = volumes.map unnamed := by
  rw [value_unifyNames, List.map_map]
  exact List.map_congr_left fun v _ => unnamed_renamed single _ v

/-- A volume keeps its name, or gets that of a system. -/
theorem name_renamed (single : Bool) (systems : List NamedSystem) (v : Volume) :
    (renamed single systems v).name = v.name ∨
      ∃ system ∈ systems, (renamed single systems v).name = system.name := by
  by_cases isData : v.group? = some .data
  · rw [renamed_of_data single systems isData]
    obtain ⟨-, system, member, -, given⟩ | ⟨kept, -⟩ := value_renameData systems v
    · exact .inr ⟨system, member, by rw [given]; rfl⟩
    · exact .inl (by rw [kept])
  · rw [renamed_of_ne_data single systems isData]
    cases single with
    | false => exact .inl rfl
    | true =>
      obtain ⟨-, -, system, member, -, given⟩ | ⟨kept, -⟩ := value_renamePreboot systems v
      · exact .inr ⟨system, member, by rw [if_pos rfl, given]; rfl⟩
      · exact .inl (by rw [if_pos rfl, kept])

end Volume

namespace VolumeSet

open Volume

/-- What is so of a set in which at most names of volumes changed. -/
structure IsRelabelled (set after : VolumeSet) : Prop where
  others_eq : after = { set with volumes := after.volumes, apfsSynced := after.apfsSynced }
  unnamed_eq : after.volumes.map unnamed = set.volumes.map unnamed
  named : (∀ v ∈ set.volumes, v.name ≠ "") → ∀ w ∈ after.volumes, w.name ≠ ""

/-- What does not depend on names is the same of the volumes of both. -/
theorem IsRelabelled.map_eq {α : Type} {f : Volume → α} {set after : VolumeSet}
    (relabelled : IsRelabelled set after) (blind : ∀ v, f v.unnamed = f v) :
    after.volumes.map f = set.volumes.map f := by
  have through (l : List Volume) : l.map f = (l.map unnamed).map f := by
    rw [List.map_map]
    exact List.map_congr_left fun v _ => (blind v).symm
  rw [through, relabelled.unnamed_eq, ← through]

theorem isRelabelled_self (set : VolumeSet) : IsRelabelled set set :=
  ⟨rfl, rfl, id⟩

theorem reconcile_isRelabelled (set : VolumeSet) : IsRelabelled set set.reconcile.value := by
  unfold reconcile
  split
  next => exact isRelabelled_self set
  next =>
    refine ⟨rfl, unnamed_unifyNames _ _, fun named w member => ?_⟩
    simp only [Logged.value_bind, Logged.value_pure, value_unifyNames] at member
    obtain ⟨v, present, rfl⟩ := List.mem_map.mp member
    obtain kept | ⟨system, lends, given⟩ := name_renamed set.singleApfs (namedSystems set.volumes) v
    · rw [kept]
      exact named v present
    · obtain ⟨_, u, -, -, telling, rfl⟩ := mem_namedSystems.mp lends
      rw [given]
      exact telling

theorem assemble_isRelabelled (volumes : List Volume) (devices : List Device)
    (selfVolume : Option Nat) (options : ScanOptions) :
    IsRelabelled (gather volumes devices selfVolume options).value
      (assemble volumes devices selfVolume options).value := by
  have named := reconcile_isRelabelled (gather volumes devices selfVolume options).value
  unfold assemble
  rw [Logged.value_bind]
  split
  next =>
    rw [Logged.value_bind]
    split
    · exact named
    · exact named
  next => exact isRelabelled_self _

end VolumeSet

end BootManager
