import BootManager.Proofs.Volume.Inside

/-!
# Relating volumes one after the other

Volumes are related place by place, in a list that grows while they are: partitions that are found
inside of extended ones are put to its end, where they are reached as well. They are no disks, and
no table describes them, so the list is left with what `Volume.relate` says. The main result is
`Volume.relate_law`.
-/

namespace BootManager

namespace Volume

variable {devices : List Device} {options : ScanOptions}

/-! ## Looking up the table of a disk -/

/-- What tells whether a volume is a disk, and its table. -/
def diskKey (v : Volume) : Option Nat × Nat × Option MbrTable :=
  (v.device, v.blockOffset, v.mbrTable)

theorem tableOfDisk?_congr {volumes others : List Volume}
    (same : volumes.map diskKey = others.map diskKey) (number : Nat) :
    tableOfDisk? volumes number = tableOfDisk? others number := by
  have through (l : List Volume) : tableOfDisk? l number =
      ((l.map diskKey).reverse.find? fun key => key.1 == some number && key.2.1 == 0).bind
        fun key => key.2.2 := by
    rw [← List.map_reverse, List.find?_map, Option.bind_map]
    rfl
  rw [through, through, same]

/-- Partitions inside of extended ones are not taken for a disk. -/
theorem tableOfDisk?_append {found : List Volume} (later : ∀ w ∈ found, 0 < w.blockOffset)
    (volumes : List Volume) (number : Nat) :
    tableOfDisk? (volumes ++ found) number = tableOfDisk? volumes number := by
  have never : (found.reverse.find? fun v => v.device == some number && v.blockOffset == 0) =
      none := by
    rw [List.find?_eq_none]
    intro w member
    have := later w (List.mem_reverse.mp member)
    simp
    omega
  rw [tableOfDisk?, List.reverse_append, List.find?_append, never]
  rfl

/-- What an entry may change of a volume that it describes: a name stays, if there is one. -/
structure IsPlaced (v w : Volume) : Prop where
  others_eq : w =
    { v with
      isMbrPartition := w.isMbrPartition
      mbrPartitionIndex := w.mbrPartitionIndex
      name? := w.name? }
  name?_eq : ∀ name, v.name? = some name → w.name? = some name

theorem withMbrPlace_isPlaced (volumes : List Volume) (v : Volume) :
    IsPlaced v (v.withMbrPlace devices volumes) := by
  unfold withMbrPlace
  split
  · refine ⟨rfl, fun name named => ?_⟩
    simp [named]
  · exact ⟨rfl, fun name named => named⟩

theorem diskKey_withMbrPlace (volumes : List Volume) (v : Volume) :
    (v.withMbrPlace devices volumes).diskKey = v.diskKey := by
  rw [(withMbrPlace_isPlaced volumes v).others_eq]
  rfl

theorem withMbrPlace_congr {volumes others : List Volume}
    (same : ∀ number, tableOfDisk? volumes number = tableOfDisk? others number) (v : Volume) :
    v.withMbrPlace devices volumes = v.withMbrPlace devices others := by
  have place : mbrPlace? devices volumes v = mbrPlace? devices others v := by
    unfold mbrPlace?
    simp only [same]
  rw [withMbrPlace, withMbrPlace, place]

theorem length_le_relate (devices : List Device) (options : ScanOptions) (volumes : List Volume) :
    volumes.length ≤ (relate devices options volumes).value.length := by
  rw [value_relate, List.length_append, List.length_map]
  exact Nat.le_add_right _ _

theorem drop_relate (devices : List Device) (options : ScanOptions) (volumes : List Volume) :
    (relate devices options volumes).value.drop volumes.length =
      inside devices options volumes := by
  rw [value_relate, List.drop_left' (List.length_map _)]

theorem exists_isPlaced {volumes : List Volume} {place : Nat} {v : Volume}
    (present : volumes[place]? = some v) :
    ∃ w, (relate devices options volumes).value[place]? = some w ∧ IsPlaced v w := by
  refine ⟨v.withMbrPlace devices volumes, ?_, withMbrPlace_isPlaced volumes v⟩
  have lt : place < volumes.length := (List.getElem?_eq_some_iff.mp present).1
  rw [value_relate, List.getElem?_append_left (by rwa [List.length_map]), List.getElem?_map,
    present, Option.map_some]

/-! ## One place after the other -/

/-- The volumes, while they are related. -/
structure Sweep where
  volumes : List Volume
  /-- The place of the volume that is next. -/
  place : Nat

namespace Sweep

/-- Relates the volume that is next, unless there is none. What is inside of its extended partitions
is put to the end of the list, and then its entry is looked up. -/
def step (devices : List Device) (options : ScanOptions) (s : Sweep) : Logged (Option Sweep) :=
  match s.volumes[s.place]? with
  | none => pure none
  | some v => do
    let grown := s.volumes ++ (← v.logicalPartitions devices options)
    pure (some ⟨grown.set s.place (v.withMbrPlace devices grown), s.place + 1⟩)

/-- Relates volumes up to the end of the list, which takes some steps. Gives the list, unless the
steps do not suffice. -/
def run (devices : List Device) (options : ScanOptions) : Nat → Sweep →
    Logged (Option (List Volume))
  | 0, _ => pure none
  | fuel + 1, s => do
    match ← s.step devices options with
    | none => pure (some s.volumes)
    | some next => run devices options fuel next

/-- What is there once the volumes `done` are related, and `rest` are next. -/
def stage (devices : List Device) (options : ScanOptions) (done rest : List Volume) : Sweep where
  volumes := done.map (withMbrPlace devices (done ++ rest)) ++ (rest ++ inside devices options done)
  place := done.length

theorem tableOfDisk?_stage (done rest : List Volume) (number : Nat) :
    tableOfDisk? (stage devices options done rest).volumes number =
      tableOfDisk? (done ++ rest) number := by
  have later (w : Volume) (member : w ∈ inside devices options done) : 0 < w.blockOffset := by
    obtain ⟨disk, -, found⟩ := exists_disk_of_mem_inside member
    exact found.blockOffset
  rw [stage, ← List.append_assoc, tableOfDisk?_append later]
  refine tableOfDisk?_congr ?_ number
  rw [List.map_append, List.map_append, List.map_map]
  congr 1
  exact List.map_congr_left fun v _ => diskKey_withMbrPlace _ v

theorem step_stage (done rest : List Volume) (v : Volume) :
    (stage devices options done (v :: rest)).step devices options =
      v.logicalPartitions devices options >>= fun _ =>
        pure (some (stage devices options (done ++ [v]) rest)) := by
  let s := stage devices options done (v :: rest)
  let found := (v.logicalPartitions devices options).value
  have next : s.volumes[s.place]? = some v := by
    simp [s, stage]
  have later (w : Volume) (member : w ∈ found) : 0 < w.blockOffset :=
    (isInside_of_mem_logicalPartitions member).blockOffset
  have related : v.withMbrPlace devices (s.volumes ++ found) =
      v.withMbrPlace devices (done ++ v :: rest) := by
    refine withMbrPlace_congr (fun number => ?_) v
    rw [tableOfDisk?_append later]
    exact tableOfDisk?_stage done (v :: rest) number
  have grows : (s.volumes ++ found).set s.place (v.withMbrPlace devices (s.volumes ++ found)) =
      (stage devices options (done ++ [v]) rest).volumes := by
    rw [related]
    simp [s, stage, found, inside]
  unfold step
  rw [next]
  ext1
  · simp only [Logged.value_bind, Logged.value_pure]
    rw [grows]
    simp [stage]
  · rfl

/-- At a partition that was found inside of an extended one, nothing happens. -/
theorem step_found {volumes : List Volume} {place : Nat} {disk w : Volume}
    (present : volumes[place]? = some w) (found : IsInside disk w) :
    (⟨volumes, place⟩ : Sweep).step devices options = pure (some ⟨volumes, place + 1⟩) := by
  have same : volumes.set place w = volumes := by
    obtain ⟨lt, rfl⟩ := List.getElem?_eq_some_iff.mp present
    exact List.set_getElem_self lt
  unfold step
  dsimp only
  rw [present]
  dsimp only
  rw [found.logicalPartitions_eq, pure_bind, List.append_nil, found.withMbrPlace_eq, same]

theorem stage_start (volumes : List Volume) : stage devices options [] volumes = ⟨volumes, 0⟩ := by
  simp [stage, inside]

theorem stage_nil (done : List Volume) :
    stage devices options done [] = ⟨(relate devices options done).value, done.length⟩ := by
  rw [value_relate, stage, List.append_nil, List.nil_append]

theorem exists_disk_of_late {volumes : List Volume} {place : Nat} {w : Volume}
    (late : volumes.length ≤ place)
    (present : (relate devices options volumes).value[place]? = some w) :
    ∃ disk, IsInside disk w := by
  have member : w ∈ inside devices options volumes := by
    rw [← drop_relate, List.mem_iff_getElem?]
    refine ⟨place - volumes.length, ?_⟩
    rw [List.getElem?_drop, Nat.add_sub_cancel' late, present]
  obtain ⟨disk, -, found⟩ := exists_disk_of_mem_inside member
  exact ⟨disk, found⟩

/-! ## The whole sweep -/

/-- Once all volumes of a list are related, the sweep passes over those that were found. -/
theorem run_passes {volumes : List Volume} {place fuel : Nat} (late : volumes.length ≤ place)
    (within : place ≤ (relate devices options volumes).value.length)
    (enough : (relate devices options volumes).value.length < place + fuel) :
    run devices options fuel ⟨(relate devices options volumes).value, place⟩ =
      pure (some (relate devices options volumes).value) := by
  induction fuel generalizing place with
  | zero => omega
  | succ fuel ih =>
    rw [run]
    cases present : (relate devices options volumes).value[place]? with
    | none => simp [step, present]
    | some w =>
      obtain ⟨disk, found⟩ := exists_disk_of_late late present
      have lt := (List.getElem?_eq_some_iff.mp present).1
      rw [step_found present found, pure_bind]
      exact ih (Nat.le_succ_of_le late) lt (by omega)

theorem run_stage {done rest : List Volume} {fuel : Nat}
    (enough : (relate devices options (done ++ rest)).value.length < done.length + fuel) :
    run devices options fuel (stage devices options done rest) =
      rest.mapM (logicalPartitions devices options) >>= fun _ =>
        pure (some (relate devices options (done ++ rest)).value) := by
  induction rest generalizing done fuel with
  | nil =>
    rw [List.append_nil] at enough ⊢
    have within := length_le_relate devices options done
    rw [stage_nil, run_passes (Nat.le_refl _) within enough, List.mapM_nil, pure_bind]
  | cons v rest ih =>
    have split : done ++ v :: rest = (done ++ [v]) ++ rest := List.append_cons done v rest
    cases fuel with
    | zero =>
      have whole := length_le_relate devices options (done ++ v :: rest)
      rw [List.length_append, List.length_cons] at whole
      omega
    | succ fuel =>
      rw [split] at enough
      have longer : (relate devices options (done ++ [v] ++ rest)).value.length <
          (done ++ [v]).length + fuel := by
        rw [List.length_append, List.length_singleton]
        omega
      rw [run, step_stage, bind_assoc, List.mapM_cons, bind_assoc, split]
      simp only [pure_bind, bind_assoc, ih longer]

/-- The sweep over a list ends with what `relate` says, and reports the same. -/
theorem run_start {volumes : List Volume} {fuel : Nat}
    (enough : (relate devices options volumes).value.length < fuel) :
    run devices options fuel ⟨volumes, 0⟩ = some <$> relate devices options volumes := by
  have longer : (relate devices options ([] ++ volumes)).value.length <
      ([] : List Volume).length + fuel := by
    rwa [List.nil_append, List.length_nil, Nat.zero_add]
  rw [← stage_start, run_stage longer, List.nil_append, map_eq_pure_bind]
  ext1
  · rfl
  · rw [relate, Logged.messages_bind, Logged.messages_bind, Logged.messages_bind]
    simp only [Logged.messages_pure, List.append_nil]

/-- What there is between two steps. -/
inductive Reached (devices : List Device) (options : ScanOptions) (volumes : List Volume) :
    Sweep → Prop where
  | start : Reached devices options volumes ⟨volumes, 0⟩
  | next {s t : Sweep} (reached : Reached devices options volumes s)
      (goes : (s.step devices options).value = some t) : Reached devices options volumes t

/-- Between two steps some volumes are related and the others are next, or all are related. -/
theorem Reached.cases {volumes : List Volume} {s : Sweep}
    (reached : Reached devices options volumes s) :
    (∃ done rest, done ++ rest = volumes ∧ s = stage devices options done rest) ∨
      volumes.length ≤ s.place ∧ s.volumes = (relate devices options volumes).value := by
  have passes {s t : Sweep} (late : volumes.length ≤ s.place)
      (related : s.volumes = (relate devices options volumes).value)
      (goes : (s.step devices options).value = some t) :
      volumes.length ≤ t.place ∧ t.volumes = (relate devices options volumes).value := by
    cases present : s.volumes[s.place]? with
    | none => simp [step, present] at goes
    | some w =>
      obtain ⟨disk, found⟩ := exists_disk_of_late late (related ▸ present)
      rw [step_found present found] at goes
      obtain rfl := Option.some.inj goes
      exact ⟨Nat.le_succ_of_le late, related⟩
  induction reached with
  | start =>
    exact .inl ⟨[], volumes, rfl, (stage_start volumes).symm⟩
  | next reached goes ih =>
    rcases ih with ⟨done, rest, rfl, rfl⟩ | ⟨late, related⟩
    · cases rest with
      | nil =>
        rw [stage_nil] at goes
        rw [List.append_nil] at passes ⊢
        exact .inr (passes (Nat.le_refl _) rfl goes)
      | cons v rest =>
        rw [step_stage] at goes
        obtain rfl := Option.some.inj goes
        exact .inl ⟨done ++ [v], rest, (List.append_cons done v rest).symm, rfl⟩
    · exact .inr (passes late related goes)

theorem Reached.volumes_of_late {volumes : List Volume} {s : Sweep}
    (reached : Reached devices options volumes s) (late : volumes.length ≤ s.place) :
    s.volumes = (relate devices options volumes).value := by
  rcases reached.cases with ⟨done, rest, rfl, rfl⟩ | ⟨-, related⟩
  · have none : rest = [] := by
      rw [List.length_append] at late
      exact List.length_eq_zero_iff.mp (Nat.le_zero.mp (Nat.add_le_add_iff_left.mp late))
    rw [none, stage_nil, List.append_nil]
  · exact related

theorem Reached.tableOfDisk?_eq {volumes : List Volume} {s : Sweep}
    (reached : Reached devices options volumes s) (number : Nat) :
    tableOfDisk? s.volumes number = tableOfDisk? volumes number := by
  rcases reached.cases with ⟨done, rest, rfl, rfl⟩ | ⟨-, related⟩
  · exact tableOfDisk?_stage done rest number
  · have whole : tableOfDisk? (stage devices options volumes []).volumes number =
        tableOfDisk? (volumes ++ []) number := tableOfDisk?_stage volumes [] number
    rwa [stage_nil, List.append_nil, ← related] at whole

end Sweep

/-- What relating volumes one after the other comes to. -/
structure RelateLaw (devices : List Device) (options : ScanOptions) (volumes : List Volume) :
    Prop where
  /-- The sweep ends, after a step for every volume that is there in the end, and gives what
  `relate` says. -/
  ends : ∀ fuel, (relate devices options volumes).value.length < fuel →
    Sweep.run devices options fuel ⟨volumes, 0⟩ = some <$> relate devices options volumes
  /-- Every volume stays at its place, and only what an entry says of it changes. -/
  kept : ∀ (place : Nat) (v : Volume), volumes[place]? = some v →
    ∃ w, (relate devices options volumes).value[place]? = some w ∧ IsPlaced v w
  /-- After them stands what was found, disk by disk. -/
  found : (relate devices options volumes).value.drop volumes.length =
    volumes.flatMap fun v => (v.logicalPartitions devices options).value
  /-- All of it was found inside of an extended partition of a disk with a table. -/
  origin : ∀ w ∈ (relate devices options volumes).value.drop volumes.length,
    ∃ disk ∈ volumes, ∃ number table entry, disk.device = some number ∧
      disk.wholeDisk = some number ∧ disk.blockOffset = 0 ∧ disk.mbrTable = some table ∧
      entry ∈ table.toList ∧ entry.isExtended = true ∧
      w ∈ (scanExtended devices options disk entry).value ∧ IsInside disk w
  /-- The sweep passes over it: it has no extended partitions, and nothing changes. -/
  passed : ∀ s, Sweep.Reached devices options volumes s → volumes.length ≤ s.place →
    ∀ w, s.volumes[s.place]? = some w → w.diskTable? = none ∧
      s.step devices options = pure (some ⟨s.volumes, s.place + 1⟩)
  /-- It is never taken for a disk. -/
  disks : ∀ s, Sweep.Reached devices options volumes s → ∀ number,
    tableOfDisk? s.volumes number = tableOfDisk? volumes number
  /-- There is not much of it. -/
  few : ∀ v ∈ volumes, (v.logicalPartitions devices options).value.length ≤ 4 * 385

/-- Relating volumes one after the other ends, leaves the volumes that were there, and adds what is
inside of their extended partitions, which is neither looked into nor taken for a disk. -/
theorem relate_law (devices : List Device) (options : ScanOptions) (volumes : List Volume) :
    RelateLaw devices options volumes := by
  refine ⟨fun fuel => Sweep.run_start, fun place v => exists_isPlaced,
    drop_relate devices options volumes, ?_, ?_, fun s reached => reached.tableOfDisk?_eq,
    fun v _ => length_logicalPartitions_le v⟩
  · intro w member
    rw [drop_relate] at member
    obtain ⟨disk, known, member⟩ := List.mem_flatMap.mp member
    obtain ⟨table, whole, entry, listed, extended, member⟩ := mem_logicalPartitions.mp member
    obtain ⟨number, device, wholeDisk, first, holds⟩ := diskTable?_eq_some_iff.mp whole
    exact ⟨disk, known, number, table, entry, device, wholeDisk, first, holds, listed, extended,
      member, isInside_of_mem_scanExtended member⟩
  · intro s reached late w present
    have related := reached.volumes_of_late late
    obtain ⟨disk, found⟩ := Sweep.exists_disk_of_late late (related ▸ present)
    exact ⟨found.diskTable?_eq_none, Sweep.step_found present found⟩

end Volume

end BootManager
