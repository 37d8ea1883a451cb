import BootManager.Proofs.Volume.Renaming
import Mathlib.Data.List.Basic

/-!
# Giving volumes of one system one name

Volumes can be renamed one after the other at the places of their groups, in a list whose names
change meanwhile. No system volume is renamed, so this comes to renaming each volume by the names
that there were at the start (`VolumeSet.reconcile_eq_renameInPlace`). From it follows what changes
(`VolumeSet.reconcile_law`): all or nothing is done, and only names change.
-/

namespace BootManager

namespace Logged

variable {α β : Type}

/-- Of what comes after a step, only what it does with the value of that step matters. -/
theorem bind_congr_value {x : Logged α} {f g : α → Logged β} (same : f x.value = g x.value) :
    x >>= f = x >>= g := by
  ext1
  · rw [value_bind, value_bind, same]
  · rw [messages_bind, messages_bind, same]

end Logged

namespace Volume

variable {volumes : List Volume} {group : Group}

/-! ## Volumes by their places -/

/-- The volumes of a group with their places, in order. -/
def placed (volumes : List Volume) (start : Nat) (group : Group) : List (Volume × Nat) :=
  (volumes.zipIdx start).filter fun (v, _) => v.group? == some group

theorem placed_cons (v : Volume) (rest : List Volume) (start : Nat) (group : Group) :
    placed (v :: rest) start group =
      (if v.group? = some group then [(v, start)] else []) ++ placed rest (start + 1) group := by
  rw [placed, List.zipIdx_cons, List.filter_cons, ← placed]
  by_cases isOf : v.group? = some group
  · simp [isOf]
  · simp [isOf]

theorem placed_map_fst (volumes : List Volume) (start : Nat) (group : Group) :
    (placed volumes start group).map (·.1) = members volumes group := by
  induction volumes generalizing start with
  | nil => rfl
  | cons v rest ih =>
    rw [placed_cons, List.map_append, ih, members, members, List.filter_cons]
    by_cases isOf : v.group? = some group
    · simp [isOf]
    · simp [isOf]

/-- Looking up the volumes at the places of a group gives its volumes. -/
theorem places_filterMap {α : Type} (volumes : List Volume) (group : Group) (f : Volume → Nat → α) :
    ((places volumes group).filterMap fun place => volumes[place]?.map fun v => f v place) =
      (placed volumes 0 group).map fun (v, place) => f v place := by
  unfold places
  rw [← placed, List.filterMap_map, ← List.filterMap_eq_map]
  refine List.filterMap_congr ?_
  rintro ⟨v, place⟩ member
  have present := List.mk_mem_zipIdx_iff_getElem?.mp (List.mem_of_mem_filter member)
  simp [present]

/-! ## Renaming in place -/

/-- Puts what a renaming makes of the volume at a place there. -/
def renameAt (rename : List Volume → Volume → Logged Volume) (volumes : List Volume)
    (place : Nat) : Logged (List Volume) :=
  match volumes[place]? with
  | none => pure volumes
  | some v => do
    let v ← rename volumes v
    pure (volumes.set place v)

theorem renameAt_middle (rename : List Volume → Volume → Logged Volume) (done rest : List Volume)
    (v : Volume) :
    renameAt rename (done ++ v :: rest) done.length =
      rename (done ++ v :: rest) v >>= fun w => pure (done ++ w :: rest) := by
  unfold renameAt
  simp

section InPlace

variable {rename : List Volume → Volume → Logged Volume} {each : Volume → Logged Volume}

/-- The loop over what is left: `done` was renamed already, and looks as before but for names. -/
theorem foldlM_renameAt_placed {start : List Volume}
    (others : ∀ v, v.group? ≠ some group → each v = pure v)
    (keeps : ∀ v, (each v).value.unnamed = v.unnamed)
    (agrees : ∀ current v, current.map unnamed = start.map unnamed → v.group? = some group →
      rename current v = each v)
    (done rest : List Volume) (same : (done ++ rest).map unnamed = start.map unnamed) :
    ((placed rest done.length group).map (·.2)).foldlM (renameAt rename) (done ++ rest) =
      (done ++ ·) <$> rest.mapM each := by
  induction rest generalizing done with
  | nil => simp [placed]
  | cons v rest ih =>
    -- one more volume is done, whatever it is called now
    have next (w : Volume) (alike : w.unnamed = v.unnamed) :
        ((placed rest (done.length + 1) group).map (·.2)).foldlM (renameAt rename)
          (done ++ w :: rest) = (done ++ w :: ·) <$> rest.mapM each := by
      have step := ih (done ++ [w]) (by simpa [alike] using same)
      rw [List.length_append, List.length_singleton, List.append_assoc] at step
      simpa using step
    rw [placed_cons, List.map_append, List.foldlM_append, List.mapM_cons]
    by_cases isOf : v.group? = some group
    · rw [if_pos isOf, List.map_singleton, List.foldlM_cons, renameAt_middle,
        agrees _ v same isOf]
      simp only [List.foldlM_nil, bind_assoc, pure_bind, map_bind, map_pure]
      exact Logged.bind_congr_value (by simpa using next _ (keeps v))
    · rw [if_neg isOf, others v isOf]
      simpa using next v rfl

/-- Renaming a group in place comes to renaming every volume by itself, if a renaming asks nothing
of the other volumes that it could have changed. -/
theorem foldlM_renameAt (others : ∀ v, v.group? ≠ some group → each v = pure v)
    (keeps : ∀ v, (each v).value.unnamed = v.unnamed)
    (agrees : ∀ current v, current.map unnamed = volumes.map unnamed → v.group? = some group →
      rename current v = each v) :
    (places volumes group).foldlM (renameAt rename) volumes = volumes.mapM each := by
  have all := foldlM_renameAt_placed others keeps agrees [] volumes rfl
  rw [List.nil_append, List.length_nil, placed, ← places] at all
  simpa using all

end InPlace

/-- A system volume by its place, with the name that the volumes beside it get. -/
structure PlacedSystem where
  place : Nat
  name : String

/-- Gives a data volume the name of the system that its own name is made of. -/
def renameDataAt (systems : List PlacedSystem) (v : Volume) : Logged Volume :=
  if Text.containsRun dataMark.toList v.name.toList then
    match systems.find? fun system => system.name ++ dataSuffix == v.name with
    | some system => do
      let name := v.name
      let newName := system.name
      Logged.debug s!"Mapped \"{name}\" to \"{newName}\""
      pure { v with name? := some newName }
    | none => pure v
  else pure v

/-- Gives a preboot volume the name of the system that is in its container by now. -/
def renamePrebootAt (systems : List PlacedSystem) (volumes : List Volume) (v : Volume) :
    Logged Volume :=
  match v.partGuid with
  | none => pure v
  | some guid =>
    match systems.find? fun system =>
        (volumes[system.place]?.bind fun beside => beside.partGuid) == some guid with
    | some system => do
      let newName := system.name
      Logged.debug s!"Mapped Preboot to \"{newName}\""
      pure { v with name? := some newName }
    | none => pure v

end Volume

namespace VolumeSet

open Volume

variable {set : VolumeSet}

/-- The system volumes that have a name, found by their places. -/
def placedSystems (set : VolumeSet) : List PlacedSystem :=
  (set.roles.system.filterMap fun place =>
    set.volumes[place]?.map fun v => ⟨place, sanitize v.name⟩).filter (·.name != "")

/-- Gives volumes that belong together one name, one after the other, and says whether they could be
told. -/
def renameInPlace (set : VolumeSet) : Logged (Bool × VolumeSet) :=
  if set.roles.preboot.isEmpty || !set.validApfs then pure (false, set)
  else do
    let systems := set.placedSystems
    let volumes ← set.roles.data.foldlM (renameAt fun _ => renameDataAt systems) set.volumes
    let volumes ←
      if set.singleApfs then set.roles.preboot.foldlM (renameAt (renamePrebootAt systems)) volumes
      else pure volumes
    pure (true, { set with volumes })

theorem namedSystems_eq (told : set.roles = .collect set.volumes) :
    namedSystems set.volumes = set.placedSystems.map fun system =>
      ⟨system.name, set.volumes[system.place]?.bind fun beside => beside.partGuid⟩ := by
  rw [placedSystems, told, RoleLists.collect]
  dsimp only
  rw [places_filterMap, namedSystems, ← placed_map_fst set.volumes 0, List.map_map,
    List.filter_map, List.filter_map, List.map_map]
  refine List.map_congr_left ?_
  rintro ⟨v, place⟩ member
  have present := List.mk_mem_zipIdx_iff_getElem?.mp
    (List.mem_of_mem_filter (List.mem_of_mem_filter member))
  simp [present]

theorem renameDataAt_eq (told : set.roles = .collect set.volumes) {v : Volume}
    (isData : v.group? = some .data) :
    renameDataAt set.placedSystems v = renameData (namedSystems set.volumes) v := by
  unfold renameDataAt renameData
  dsimp only
  rw [namedSystems_eq told, List.find?_map]
  simp only [isData, true_and, Function.comp_def]
  split
  next => cases set.placedSystems.find? _ <;> rfl
  next => rfl

/-- Names are not what tells which container a system is in. -/
theorem renamePrebootAt_eq (told : set.roles = .collect set.volumes) {current : List Volume}
    (same : current.map unnamed = set.volumes.map unnamed) {v : Volume}
    (isPreboot : v.group? = some .preboot) :
    renamePrebootAt set.placedSystems current v = renamePreboot (namedSystems set.volumes) v := by
  have beside (place : Nat) : (current[place]?.bind fun beside => beside.partGuid) =
      set.volumes[place]?.bind fun beside => beside.partGuid := by
    have through (l : List Volume) : (l[place]?.bind fun beside => beside.partGuid) =
        (l.map unnamed)[place]?.bind fun beside => beside.partGuid := by
      rw [List.getElem?_map, Option.bind_map]
      rfl
    rw [through, same, ← through]
  unfold renamePrebootAt renamePreboot
  rw [namedSystems_eq told, List.find?_map]
  cases known : v.partGuid with
  | none => simp
  | some guid =>
    simp only [isPreboot, Option.isSome_some, and_self, if_true, beside, Function.comp_def]
    cases set.placedSystems.find? _ <;> rfl

/-- The names found at the start are all that renaming in place comes to. -/
theorem renameInPlace_eq (told : set.roles = .collect set.volumes) :
    set.renameInPlace =
      if set.roles.preboot.isEmpty || !set.validApfs then pure (false, set)
      else (fun volumes => (true, { set with volumes })) <$>
        unifyNames set.singleApfs set.volumes := by
  have data : set.roles.data.foldlM (renameAt fun _ => renameDataAt set.placedSystems)
      set.volumes = set.volumes.mapM (renameData (namedSystems set.volumes)) := by
    rw [told]
    exact foldlM_renameAt (fun v other => renameData_of_ne other)
      (unnamed_renameData _) fun current v _ isData => renameDataAt_eq told isData
  have preboot (volumes : List Volume) (same : volumes.map unnamed = set.volumes.map unnamed) :
      set.roles.preboot.foldlM (renameAt (renamePrebootAt set.placedSystems)) volumes =
        volumes.mapM (renamePreboot (namedSystems set.volumes)) := by
    rw [told]
    show (places set.volumes .preboot).foldlM _ volumes = _
    rw [← places_congr same]
    exact foldlM_renameAt (fun v other => renamePreboot_of_ne other)
      (unnamed_renamePreboot _) fun current v alike isPreboot =>
        renamePrebootAt_eq told (alike.trans same) isPreboot
  unfold renameInPlace
  split
  next => rfl
  next =>
    simp only [unifyNames, data, map_bind]
    refine Logged.bind_congr_value ?_
    cases set.singleApfs with
    | false => simp
    | true =>
      have same : (set.volumes.mapM (renameData (namedSystems set.volumes))).value.map unnamed =
          set.volumes.map unnamed := by
        rw [Logged.value_mapM, List.map_map]
        exact List.map_congr_left fun v _ => unnamed_renameData _ v
      simp [-Logged.value_mapM, preboot _ same]

theorem reconcile_eq_renameInPlace (told : set.roles = .collect set.volumes) :
    set.reconcile =
      (fun after => { after.2 with apfsSynced := set.apfsSynced || after.1 }) <$>
        set.renameInPlace := by
  rw [renameInPlace_eq told, reconcile]
  split
  next => simp
  next => simp

/-! ## What is known of the groups -/

/-- What a set says about its groups is so for its volumes. -/
structure IsTold (set : VolumeSet) : Prop where
  roles_eq : set.roles = .collect set.volumes
  valid_eq : set.validApfs = groupsAreValid set.volumes
  single_eq : set.singleApfs = (groupsAreSingle set.volumes).value

/-- It is so for every set that is gathered. -/
theorem gather_isTold (volumes : List Volume) (devices : List Device) (selfVolume : Option Nat)
    (options : ScanOptions) : (gather volumes devices selfVolume options).value.IsTold :=
  ⟨rfl, rfl, rfl⟩

theorem IsTold.mem_roles (told : set.IsTold) {place : Nat} {v : Volume}
    (present : set.volumes[place]? = some v) (group : Group) :
    place ∈ set.roles.get group ↔ v.group? = some group := by
  rw [told.roles_eq, RoleLists.get_collect, mem_places, present]
  simp

theorem value_holdOneSystem (volumes preboots : List Volume) :
    (holdOneSystem volumes preboots).value = true ↔
      ∀ preboot ∈ preboots, volumes.countP (isInstanceBeside preboot) ≤ 1 := by
  induction preboots with
  | nil => simp [holdOneSystem]
  | cons preboot rest ih =>
    rw [List.forall_mem_cons, ← ih, holdOneSystem]
    by_cases one : volumes.countP (isInstanceBeside preboot) ≤ 1
    · rw [if_pos one]
      simp [one]
    · rw [if_neg one]
      simp [one]

/-- Of what there is one at most, any two are the same. -/
theorem eq_of_countP_le_one {α : Type} {p : α → Bool} {l : List α} (one : l.countP p ≤ 1)
    {a b : α} (first : a ∈ l ∧ p a = true) (second : b ∈ l ∧ p b = true) : a = b := by
  rw [List.countP_eq_length_filter] at one
  rw [← List.mem_filter] at first second
  match filtered : l.filter p with
  | [] =>
    rw [filtered] at first
    cases first
  | [c] =>
    rw [filtered, List.mem_singleton] at first second
    rw [first, second]
  | _ :: _ :: _ => simp [filtered] at one

/-! ## What changes -/

/-- A system volume that others can be named after. -/
def Lends (set : VolumeSet) (u : Volume) : Prop :=
  (∃ place ∈ set.roles.system, set.volumes[place]? = some u) ∧ sanitize u.name ≠ ""

theorem IsTold.mem_namedSystems (told : set.IsTold) {system : NamedSystem} :
    system ∈ namedSystems set.volumes ↔
      ∃ u, set.Lends u ∧ system = ⟨sanitize u.name, u.partGuid⟩ := by
  rw [Volume.mem_namedSystems]
  constructor
  · rintro ⟨place, u, present, isSystem, named, rfl⟩
    exact ⟨u, ⟨⟨place, (told.mem_roles present .system).mpr isSystem, present⟩, named⟩, rfl⟩
  · rintro ⟨u, ⟨⟨place, member, present⟩, named⟩, rfl⟩
    exact ⟨place, u, present, (told.mem_roles present .system).mp member, named, rfl⟩

theorem ne_empty_of_sanitize {name : String} (named : sanitize name ≠ "") : name ≠ "" := by
  rintro rfl
  exact named (by decide)

/-- If every container holds one system at most, a preboot volume has only one beside it that can
lend its name. -/
theorem IsTold.eq_of_beside (told : set.IsTold) (single : set.singleApfs = true) {v u w : Volume}
    {place : Nat} (present : set.volumes[place]? = some v) (member : place ∈ set.roles.preboot)
    (known : v.partGuid ≠ none) (lends : set.Lends u) (beside : u.partGuid = v.partGuid)
    (lends' : set.Lends w) (beside' : w.partGuid = v.partGuid) : u = w := by
  have isPreboot := (told.mem_roles present .preboot).mp member
  have mem : v ∈ members set.volumes .preboot :=
    List.mem_filter.mpr ⟨List.mem_of_getElem? present, beq_iff_eq.mpr isPreboot⟩
  have one := (value_holdOneSystem _ _).mp (told.single_eq ▸ single) v mem
  have counts {x : Volume} (lends : set.Lends x) (beside : x.partGuid = v.partGuid) :
      x ∈ set.volumes ∧ isInstanceBeside v x = true := by
    obtain ⟨⟨at', isSystem, there⟩, named⟩ := lends
    obtain ⟨apfs, role⟩ := group?_eq_some_iff.mp ((told.mem_roles there .system).mp isSystem)
    refine ⟨List.mem_of_getElem? there, ?_⟩
    simp [isInstanceBeside, apfs, role, beside, Option.isSome_iff_ne_none.mpr known,
      ne_empty_of_sanitize named]
  exact eq_of_countP_le_one one (counts lends beside) (counts lends' beside')

theorem IsTold.partGuid_ne_none (told : set.IsTold) (valid : set.validApfs = true) {v : Volume}
    {place : Nat} (present : set.volumes[place]? = some v) (member : place ∈ set.roles.preboot) :
    v.partGuid ≠ none := by
  have isPreboot := (told.mem_roles present .preboot).mp member
  have mem : v ∈ members set.volumes .preboot :=
    List.mem_filter.mpr ⟨List.mem_of_getElem? present, beq_iff_eq.mpr isPreboot⟩
  have all := List.all_eq_true.mp (told.valid_eq ▸ valid) .preboot (by simp)
  have contained := List.all_eq_true.mp all v mem
  intro missing
  simp [hasContainer, missing] at contained

/-- What becomes of the volume at a place when volumes that belong together get one name. -/
structure Renamed (set : VolumeSet) (place : Nat) (v w : Volume) : Prop where
  /-- Nothing but the name changes. -/
  unnamed_eq : w = { v with name? := w.name? }
  /-- Data and preboot volumes may be renamed, and only to the name that a system volume lends. -/
  renamed : w ≠ v → (place ∈ set.roles.data ∨ place ∈ set.roles.preboot) ∧
    ∃ u, set.Lends u ∧ w.name? = some (sanitize u.name)
  /-- A data volume is renamed only if its name is made of the name that it gets. -/
  data : place ∈ set.roles.data → w ≠ v →
    ∃ u, set.Lends u ∧ v.name = sanitize u.name ++ " - Data" ∧ w.name? = some (sanitize u.name)
  /-- A preboot volume is renamed only if containers hold one system at most, and to the system in
  its own. -/
  preboot : place ∈ set.roles.preboot → w ≠ v → set.singleApfs = true ∧
    ∃ u, set.Lends u ∧ u.partGuid = v.partGuid ∧ w.name? = some (sanitize u.name)
  /-- Every data volume whose name is made of one that is lent gets that one. -/
  data_all : place ∈ set.roles.data → ∀ u, set.Lends u → v.name = sanitize u.name ++ " - Data" →
    w.name? = some (sanitize u.name)
  /-- Every preboot volume beside a system that lends its name gets it, if containers hold one
  system at most. -/
  preboot_all : place ∈ set.roles.preboot → set.singleApfs = true →
    ∀ u, set.Lends u → u.partGuid = v.partGuid → w.name? = some (sanitize u.name)

/-- A volume may stay as it is if there is no name that it could get. -/
theorem renamed_self {place : Nat} {v : Volume}
    (unmade : place ∈ set.roles.data → ∀ u, set.Lends u → v.name ≠ sanitize u.name ++ " - Data")
    (alone : place ∈ set.roles.preboot → set.singleApfs = true →
      ∀ u, set.Lends u → u.partGuid ≠ v.partGuid) :
    set.Renamed place v v where
  unnamed_eq := rfl
  renamed changed := absurd rfl changed
  data _ changed := absurd rfl changed
  preboot _ changed := absurd rfl changed
  data_all here u lends made := absurd made (unmade here u lends)
  preboot_all here single u lends beside := absurd beside (alone here single u lends)

theorem IsTold.renamed_data (told : set.IsTold) {place : Nat} {v : Volume}
    (present : set.volumes[place]? = some v) (isData : v.group? = some .data) :
    set.Renamed place v (renameData (namedSystems set.volumes) v).value := by
  have here : place ∈ set.roles.data := (told.mem_roles present .data).mpr isData
  have apart : place ∉ set.roles.preboot := by
    intro isPreboot
    have group := (told.mem_roles present .preboot).mp isPreboot
    rw [isData] at group
    cases group
  rcases value_renameData (namedSystems set.volumes) v with
    ⟨-, system, member, made, given⟩ | ⟨kept, unmade⟩
  · obtain ⟨u, lends, rfl⟩ := told.mem_namedSystems.mp member
    rw [given]
    constructor
    case unnamed_eq => rfl
    case renamed => exact fun _ => ⟨.inl here, u, lends, rfl⟩
    case data => exact fun _ _ => ⟨u, lends, made, rfl⟩
    case preboot => exact fun isPreboot => absurd isPreboot apart
    case data_all =>
      intro _ x _ made'
      have same := (String.append_left_inj " - Data").mp (made.symm.trans made')
      exact congrArg some same
    case preboot_all => exact fun isPreboot => absurd isPreboot apart
  · rw [kept]
    refine renamed_self (fun _ x lends made => unmade ?_) fun isPreboot => absurd isPreboot apart
    exact ⟨isData, _, told.mem_namedSystems.mpr ⟨x, lends, rfl⟩, made⟩

theorem IsTold.renamed_preboot (told : set.IsTold) (valid : set.validApfs = true)
    (single : set.singleApfs = true) {place : Nat} {v : Volume}
    (present : set.volumes[place]? = some v) (other : v.group? ≠ some .data) :
    set.Renamed place v (renamePreboot (namedSystems set.volumes) v).value := by
  have apart : place ∉ set.roles.data :=
    fun isData => other ((told.mem_roles present .data).mp isData)
  rcases value_renamePreboot (namedSystems set.volumes) v with
    ⟨isPreboot, known, system, member, beside, given⟩ | ⟨kept, alone⟩
  · obtain ⟨u, lends, rfl⟩ := told.mem_namedSystems.mp member
    have here : place ∈ set.roles.preboot := (told.mem_roles present .preboot).mpr isPreboot
    rw [given]
    constructor
    case unnamed_eq => rfl
    case renamed => exact fun _ => ⟨.inr here, u, lends, rfl⟩
    case data => exact fun isData => absurd isData apart
    case preboot => exact fun _ _ => ⟨single, u, lends, beside, rfl⟩
    case data_all => exact fun isData => absurd isData apart
    case preboot_all =>
      intro _ _ x lends' beside'
      rw [told.eq_of_beside single present here known lends beside lends' beside']
  · rw [kept]
    refine renamed_self (fun isData => absurd isData apart) fun here _ x lends beside => alone ?_
    exact ⟨(told.mem_roles present .preboot).mp here, told.partGuid_ne_none valid present here, _,
      told.mem_namedSystems.mpr ⟨x, lends, rfl⟩, beside⟩

theorem IsTold.renamed_place (told : set.IsTold) (valid : set.validApfs = true) {place : Nat}
    {v : Volume} (present : set.volumes[place]? = some v) :
    set.Renamed place v (renamed set.singleApfs (namedSystems set.volumes) v) := by
  by_cases isData : v.group? = some .data
  · rw [renamed_of_data _ _ isData]
    exact told.renamed_data present isData
  · rw [renamed_of_ne_data _ _ isData]
    by_cases single : set.singleApfs = true
    · rw [if_pos single]
      exact told.renamed_preboot valid single present isData
    · rw [if_neg single]
      refine renamed_self (fun here => ?_) fun _ isSingle => absurd isSingle single
      exact absurd ((told.mem_roles present .data).mp here) isData

/-- What giving volumes that belong together one name does to a set: `done` says whether it could be
done, and `after` is what the set becomes. -/
structure ReconcileLaw (set : VolumeSet) (done : Bool) (after : VolumeSet) : Prop where
  refused_iff : done = false ↔ set.roles.preboot = [] ∨ set.validApfs = false
  /-- A set that volumes cannot be told in stays as it is. -/
  unchanged : done = false → after = set
  /-- Nothing but volumes changes. -/
  others_eq : after = { set with volumes := after.volumes }
  length_eq : after.volumes.length = set.volumes.length
  renamed : done = true → ∀ (place : Nat) (v w : Volume), set.volumes[place]? = some v →
    after.volumes[place]? = some w → set.Renamed place v w

/-- Volumes get one name all together or not at all, and nothing but names changes. -/
theorem reconcile_law (told : set.IsTold) :
    set.reconcile =
        (fun after => { after.2 with apfsSynced := set.apfsSynced || after.1 }) <$>
          set.renameInPlace ∧
      set.ReconcileLaw set.renameInPlace.value.1 set.renameInPlace.value.2 := by
  refine ⟨reconcile_eq_renameInPlace told.roles_eq, ?_⟩
  rw [renameInPlace_eq told.roles_eq]
  split
  next refused =>
    rw [Bool.or_eq_true, List.isEmpty_iff, Bool.not_eq_true'] at refused
    exact ⟨by simp [refused], fun _ => rfl, rfl, rfl, nofun⟩
  next asked =>
    rw [Bool.or_eq_true, List.isEmpty_iff, Bool.not_eq_true'] at asked
    have valid : set.validApfs = true := eq_true_of_ne_false fun invalid => asked (.inr invalid)
    constructor
    case refused_iff => simp [asked]
    case unchanged => nofun
    case others_eq => rfl
    case length_eq => simp [value_unifyNames]
    case renamed =>
      intro _ place v w present became
      rw [Logged.value_map, value_unifyNames, List.getElem?_map, present] at became
      obtain rfl := Option.some.inj became
      exact told.renamed_place valid present

/-- A volume in the only container there is. -/
def inContainer (role : Role) (name : String) : Volume :=
  { fsType := .apfs, role, partGuid := some ⟨1⟩, name? := some name }

/-- The volumes of one system. -/
def oneSystem : VolumeSet where
  volumes := [inContainer .preboot "Preboot", inContainer .data "Disk - Data",
    inContainer .system " Disk"]
  devices := []
  roles := ⟨[], [], [0], [2], [1], []⟩
  singleApfs := true
  validApfs := true
  apfsSynced := false
  selfVolume := none
  discoveredRoot := none

/-- They are what is gathered if there are no others. -/
theorem gather_oneSystem :
    (gather oneSystem.volumes [] none
      { legacy := .none, appleFirmware := false, scanOtherEsp := false, syncApfs := true }).value =
        oneSystem := rfl

theorem oneSystem_isTold : oneSystem.IsTold :=
  gather_oneSystem ▸ gather_isTold oneSystem.volumes [] none _

theorem oneSystem_reconcileLaw : oneSystem.IsTold ∧
    oneSystem.reconcile.value.volumes.map (·.name) = ["Disk", "Disk", " Disk"] ∧
    oneSystem.ReconcileLaw true oneSystem.renameInPlace.value.2 := by
  have done : oneSystem.renameInPlace.value.1 = true := by decide +kernel
  exact ⟨oneSystem_isTold, by decide +kernel, done ▸ (reconcile_law oneSystem_isTold).2⟩

end VolumeSet

end BootManager
