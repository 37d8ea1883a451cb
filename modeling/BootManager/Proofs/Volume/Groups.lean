import BootManager.Volume.Group
import Mathlib.Data.List.Induction

/-!
# The places of groups

Volumes are put into the list of their group by place. Every volume is in one list at most, and the
lists are those that one pass over the volumes gives (`collect_eq_foldl`). Names have nothing to do
with it, so the lists still hold once volumes were renamed.
-/

namespace BootManager.Volume

variable {volumes others : List Volume} {group : Group} {place : Nat} {v w : Volume}

/-! ## The group of a volume -/

/-- What the volumes of a group are. -/
def Group.Holds (v : Volume) : Group → Prop
  | recovery => v.fsType = .apfs ∧ v.role = .recovery
  | skipped => v.fsType = .apfs ∧ v.role ∈ [Role.vm, .update, .baseband, .xart, .hardware]
  | preboot => v.fsType = .apfs ∧ v.role = .preboot
  | system => v.fsType = .apfs ∧ v.role = .system
  | data => v.fsType = .apfs ∧ v.role = .data
  | hfsRecovery => v.fsType = .hfsPlus ∧ v.partType = some PartitionType.recoveryHd

theorem group?_eq_some_iff : v.group? = some group ↔ group.Holds v := by
  unfold group?
  by_cases old : v.fsType = .hfsPlus ∧ v.partType = some PartitionType.recoveryHd
  · rw [if_pos old]
    cases group <;> simp [Group.Holds, old]
  · rw [if_neg old]
    by_cases apfs : v.fsType = .apfs
    · rw [if_pos apfs]
      cases role : v.role <;> cases group <;> simp [Group.ofRole?, Group.Holds, apfs, role]
    · rw [if_neg apfs]
      cases group <;> simp [Group.Holds, apfs, old]

/-! ## Places -/

theorem mem_places :
    place ∈ places volumes group ↔ ∃ v, volumes[place]? = some v ∧ v.group? = some group := by
  simp only [places, List.mem_map, List.mem_filter, Prod.exists, exists_eq_right,
    List.mk_mem_zipIdx_iff_getElem?, beq_iff_eq]

theorem places_sorted (volumes : List Volume) (group : Group) :
    (places volumes group).Pairwise (· < ·) := by
  have sub : (places volumes group).Sublist (volumes.zipIdx.map Prod.snd) :=
    List.filter_sublist.map Prod.snd
  rw [List.zipIdx_map_snd] at sub
  exact List.Pairwise.sublist sub List.pairwise_lt_range'

theorem places_disjoint {other : Group} (apart : group ≠ other) :
    (places volumes group).Disjoint (places volumes other) := by
  intro place here there
  obtain ⟨v, present, isHere⟩ := mem_places.mp here
  obtain ⟨w, present', isThere⟩ := mem_places.mp there
  obtain rfl : v = w := Option.some.inj (present.symm.trans present')
  exact apart (Option.some.inj (isHere.symm.trans isThere))

theorem places_concat (volumes : List Volume) (v : Volume) (group : Group) :
    places (volumes ++ [v]) group =
      places volumes group ++ if v.group? = some group then [volumes.length] else [] := by
  rw [places, List.zipIdx_append, List.filter_append, List.map_append, ← places]
  by_cases isOf : v.group? = some group
  · simp [isOf]
  · simp [isOf]

/-! ## The lists of all groups -/

namespace RoleLists

/-- The list of a group. -/
def get (lists : RoleLists) : Group → List Nat
  | .recovery => lists.recovery
  | .skipped => lists.skipped
  | .preboot => lists.preboot
  | .system => lists.system
  | .data => lists.data
  | .hfsRecovery => lists.hfsRecovery

theorem ext_get {lists more : RoleLists} (same : ∀ group, lists.get group = more.get group) :
    lists = more := by
  cases lists
  cases more
  rw [RoleLists.mk.injEq]
  exact ⟨same .recovery, same .skipped, same .preboot, same .system, same .data, same .hfsRecovery⟩

theorem get_collect (volumes : List Volume) (group : Group) :
    (collect volumes).get group = places volumes group := by
  cases group <;> rfl

/-- Puts a place after those of a group. -/
def add (lists : RoleLists) (place : Nat) : Group → RoleLists
  | .recovery => { lists with recovery := lists.recovery ++ [place] }
  | .skipped => { lists with skipped := lists.skipped ++ [place] }
  | .preboot => { lists with preboot := lists.preboot ++ [place] }
  | .system => { lists with system := lists.system ++ [place] }
  | .data => { lists with data := lists.data ++ [place] }
  | .hfsRecovery => { lists with hfsRecovery := lists.hfsRecovery ++ [place] }

/-- Puts the place of a volume into the list that it belongs to, if there is one. -/
def put (lists : RoleLists) (v : Volume) (place : Nat) : RoleLists :=
  if v.fsType = .hfsPlus ∧ v.partType = some PartitionType.recoveryHd then
    lists.add place .hfsRecovery
  else if v.fsType ≠ .apfs then lists
  else
    match v.role with
    | .recovery => lists.add place .recovery
    | .preboot => lists.add place .preboot
    | .system => lists.add place .system
    | .data => lists.add place .data
    | .vm | .update | .baseband | .xart | .hardware => lists.add place .skipped
    | _ => lists

/-- No places. -/
def empty : RoleLists where
  recovery := []
  skipped := []
  preboot := []
  system := []
  data := []
  hfsRecovery := []

theorem get_add (lists : RoleLists) (place : Nat) (group other : Group) :
    (lists.add place other).get group =
      lists.get group ++ if other = group then [place] else [] := by
  cases group <;> cases other <;> simp [add, get]

theorem put_eq (lists : RoleLists) (v : Volume) (place : Nat) :
    lists.put v place = v.group?.elim lists (lists.add place) := by
  unfold put group?
  split
  next => rfl
  next =>
    by_cases apfs : v.fsType = .apfs
    · rw [if_neg (not_not_intro apfs), if_pos apfs]
      cases v.role <;> rfl
    · rw [if_pos apfs, if_neg apfs]
      rfl

theorem get_put (lists : RoleLists) (v : Volume) (place : Nat) (group : Group) :
    (lists.put v place).get group =
      lists.get group ++ if v.group? = some group then [place] else [] := by
  rw [put_eq]
  cases v.group? with
  | none => simp
  | some other => simp [get_add]

/-- One pass over the volumes fills the lists. -/
theorem collect_eq_foldl (volumes : List Volume) :
    collect volumes = volumes.zipIdx.foldl (fun lists (v, place) => lists.put v place) empty := by
  induction volumes using List.reverseRecOn with
  | nil => rfl
  | append_singleton volumes v ih =>
    rw [List.zipIdx_append, List.foldl_append, ← ih]
    refine ext_get fun group => ?_
    rw [get_collect, places_concat]
    simp [get_put, get_collect]

end RoleLists

end BootManager.Volume
