import BootManager.Proofs.Volume.Classified
import BootManager.Proofs.Volume.Detected

/-!
# Which partition a volume is

A device path tells which partition a volume is, and an entry of a partition table describes the
partition that has its identifier. Every node for a partition replaces the identifier of the volume,
but not what an entry said of an earlier node. So a volume has the identifier of the last such node
and the description of the entry if any node is the entry's. The main result is
`Volume.classify_identityLaw`.
-/

namespace BootManager

/-! ## Nodes for partitions -/

/-- The identifier that a node gives a partition. Partitions of a master boot record have none and
share a placeholder. -/
def PathNode.partition? : PathNode → Option Guid
  | hardDrive (.guid guid) => some guid
  | hardDrive _ => some PartitionType.mbrPlaceholder
  | _ => none

/-- The identifier that the last node for a partition gives. -/
def lastPartition? (path : List PathNode) : Option Guid :=
  (path.filterMap PathNode.partition?).getLast?

/-- A device path has a node for the partition of an entry. -/
def GptEntry.IsOn (entry : GptEntry) (path : List PathNode) : Prop :=
  .hardDrive (.guid entry.partGuid) ∈ path

/-- What is told of a partition besides its identifier. -/
structure Description where
  partType : Option Guid
  partName : Option String
  isReadOnly : Bool
  isDiscoveredRoot : Bool

/-- What an entry tells of its partition. -/
def GptEntry.description (arch : Architecture) (entry : GptEntry) : Description where
  partType := some entry.partType
  partName := if entry.name = "" then none else some entry.name
  isReadOnly := entry.attributes.testBit PartitionType.readOnlyBit
  isDiscoveredRoot := PartitionType.discoverableRoot arch == some entry.partType &&
    !entry.attributes.testBit PartitionType.noAutoBit

namespace Volume

/-- What is told of the partition that a volume is. -/
def description (v : Volume) : Description :=
  ⟨v.partType, v.partName, v.isReadOnly, v.isDiscoveredRoot⟩

/-! ## One node -/

section

variable {arch : Architecture} {gpt : Option GptEntry} {entry : GptEntry} {v : Volume}
  {node : PathNode} {path : List PathNode}

/-- A node for a partition replaces the identifier, whether an entry describes it or not. -/
theorem partGuid_identifyNode (arch : Architecture) (gpt : Option GptEntry) (v : Volume)
    (node : PathNode) :
    (identifyNode arch gpt v node).partGuid = node.partition?.or v.partGuid := by
  unfold identifyNode
  split
  next guid =>
    unfold identify
    split
    next entry =>
      dsimp only
      split
      · rfl
      · rfl
    next => rfl
  next signature noGuid =>
    cases signature with
    | guid guid => exact absurd rfl (noGuid guid)
    | none => rfl
    | mbr number => rfl
  next other =>
    cases node with
    | hardDrive signature => exact absurd rfl (other signature)
    | _ => rfl

/-- The node of an entry takes up all that the entry tells. -/
theorem description_identifyNode_self :
    (identifyNode arch (some entry) v (.hardDrive (.guid entry.partGuid))).description =
      entry.description arch := by
  rw [identifyNode, identify]
  dsimp only
  rw [if_pos rfl]
  rfl

/-- Every other node leaves it as it is. -/
theorem description_identifyNode_of_ne
    (other : ∀ entry, gpt = some entry → node ≠ .hardDrive (.guid entry.partGuid)) :
    (identifyNode arch gpt v node).description = v.description := by
  unfold identifyNode
  split
  next guid =>
    unfold identify
    split
    next entry =>
      have apart : entry.partGuid ≠ guid := fun same => other entry rfl (by rw [same])
      dsimp only
      rw [if_neg apart]
      rfl
    next => rfl
  next => rfl
  next => rfl

/-! ## A device path -/

theorem partGuid_foldl_identifyNode (arch : Architecture) (gpt : Option GptEntry) (v : Volume)
    (path : List PathNode) :
    (path.foldl (identifyNode arch gpt) v).partGuid = (lastPartition? path).or v.partGuid := by
  unfold lastPartition?
  induction path generalizing v with
  | nil => rfl
  | cons node rest ih =>
    rw [List.foldl_cons, ih, partGuid_identifyNode, List.filterMap_cons]
    cases node.partition? with
    | none => rfl
    | some guid =>
      rw [List.getLast?_cons]
      cases (rest.filterMap PathNode.partition?).getLast? with
      | none => rfl
      | some last => rfl

theorem description_foldl_of_not_isOn (off : ∀ entry, gpt = some entry → ¬entry.IsOn path) :
    (path.foldl (identifyNode arch gpt) v).description = v.description := by
  induction path generalizing v with
  | nil => rfl
  | cons node rest ih =>
    have first : ∀ entry, gpt = some entry → node ≠ .hardDrive (.guid entry.partGuid) :=
      fun entry known same => off entry known (same ▸ List.mem_cons_self)
    have others : ∀ entry, gpt = some entry → ¬entry.IsOn rest :=
      fun entry known on => off entry known (List.mem_cons_of_mem node on)
    rw [List.foldl_cons, ih others, description_identifyNode_of_ne first]

theorem description_foldl_of_isOn (on : entry.IsOn path) :
    (path.foldl (identifyNode arch (some entry)) v).description = entry.description arch := by
  -- The last node of the entry takes up what it tells, and no node after that changes it.
  induction path generalizing v with
  | nil => cases on
  | cons node rest ih =>
    rw [List.foldl_cons]
    by_cases later : entry.IsOn rest
    · exact ih later
    · have off : ∀ other, some entry = some other → ¬other.IsOn rest :=
        fun other same => Option.some.inj same ▸ later
      obtain rfl : .hardDrive (.guid entry.partGuid) = node :=
        (List.mem_cons.mp on).resolve_right later
      rw [description_foldl_of_not_isOn off, description_identifyNode_self]

end

/-! ## Classified volumes -/

theorem exists_detection_take (device : Device) (offset : Nat) (ctx : DetectContext)
    (legacy : LegacyBoot) (hasFiles : Logged Bool) :
    ∃ buf, (Sample.take device offset ctx legacy hasFiles).value.detection =
      Detection.ofBuffer buf ctx := by
  unfold Sample.take
  cases Sample.read device offset with
  | error error => exact ⟨#[], rfl⟩
  | ok buf =>
    refine ⟨buf, ?_⟩
    simp only [Logged.value_bind]
    split
    · rfl
    · rfl

section

variable (probe : Probe) (device : Device) (options : ScanOptions) (arch : Architecture)

/-- The type that an entry told was taken up, before the start of the volume was looked at. -/
def TakesPartType : Prop :=
  ∃ entry, probe.gpt = some entry ∧
    (identified probe device arch).partType = some entry.partType

/-- A volume has something that an entry told of its partition. -/
def IsDescribed (v : Volume) : Prop :=
  v.partName ≠ none ∨ v.isReadOnly = true ∨ v.isDiscoveredRoot = true ∨
    TakesPartType probe device arch

/-- An entry has the identifier that a volume has. -/
def IsOwnEntry (gpt : Option GptEntry) (v : Volume) : Prop :=
  ∃ entry, gpt = some entry ∧ v.partGuid = some entry.partGuid

/-- Looking at a volume and its files changes nothing of its partition but the type. -/
theorem partition_classify :
    (classify probe device options arch).value.partGuid =
        (identified probe device arch).partGuid ∧
      (classify probe device options arch).value.description =
        { (identified probe device arch).description with
          partType := (sampled probe device options arch).detection.partType } := by
  rw [value_classify, value_withFiles]
  unfold described
  cases probe.fs with
  | none => exact ⟨rfl, rfl⟩
  | some fs => exact ⟨rfl, rfl⟩

theorem partGuid_classify :
    (classify probe device options arch).value.partGuid = lastPartition? probe.path := by
  rw [(partition_classify probe device options arch).1, identified, partGuid_foldl_identifyNode,
    Option.or_none]

/-- A type that is known before the start of a volume is looked at stays. -/
theorem partType_sampled {partType : Guid}
    (known : (identified probe device arch).partType = some partType) :
    (sampled probe device options arch).detection.partType = some partType := by
  unfold sampled
  generalize reported : ({ blockSize := device.blockSize
                           isPartition := device.isPartition
                           partType := (identified probe device arch).partType
                           apfsVendorNode := probe.path.contains (.vendor PartitionType.apfs)
                           appleFirmware := options.appleFirmware } : DetectContext) = ctx
  have told : ctx.partType = some partType := by rw [← reported, ← known]
  obtain ⟨buf, detected⟩ := exists_detection_take device 0 ctx options.legacy
    (hasWindowsFiles probe.fs)
  rw [detected, Detection.partType_ofBuffer, told, if_neg fun guessed => nomatch guessed.1]

theorem description_classify_of_isOn {entry : GptEntry} (known : probe.gpt = some entry)
    (on : entry.IsOn probe.path) :
    (classify probe device options arch).value.description = entry.description arch := by
  have before : (identified probe device arch).description = entry.description arch := by
    rw [identified, known, description_foldl_of_isOn on]
  have type := partType_sampled probe device options arch (congrArg Description.partType before)
  rw [(partition_classify probe device options arch).2, type, before]
  rfl

/-- A volume has something that an entry told exactly if its device path has a node of the entry. -/
theorem isDescribed_classify_iff :
    IsDescribed probe device arch (classify probe device options arch).value ↔
      ∃ entry, probe.gpt = some entry ∧ entry.IsOn probe.path := by
  constructor
  · intro described
    by_contra none
    have off : ∀ entry, probe.gpt = some entry → ¬entry.IsOn probe.path :=
      fun entry known on => none ⟨entry, known, on⟩
    have before : (identified probe device arch).description = ⟨.none, .none, false, false⟩ :=
      description_foldl_of_not_isOn off
    have after := (partition_classify probe device options arch).2
    rw [before] at after
    obtain named | readOnly | root | ⟨entry, -, typed⟩ := described
    · exact named (congrArg Description.partName after)
    · exact Bool.false_ne_true ((congrArg Description.isReadOnly after).symm.trans readOnly)
    · exact Bool.false_ne_true ((congrArg Description.isDiscoveredRoot after).symm.trans root)
    · exact Option.some_ne_none _ (typed.symm.trans (congrArg Description.partType before))
  · rintro ⟨entry, known, on⟩
    refine .inr (.inr (.inr ⟨entry, known, ?_⟩))
    rw [identified, known]
    exact congrArg Description.partType (description_foldl_of_isOn on)

/-- A volume mixes two partitions exactly if its device path has a node of the entry and another
identifier comes after the last of them. -/
theorem unmixed_classify_iff :
    (IsDescribed probe device arch (classify probe device options arch).value →
        IsOwnEntry probe.gpt (classify probe device options arch).value) ↔
      ∀ entry, probe.gpt = some entry → entry.IsOn probe.path →
        lastPartition? probe.path = some entry.partGuid := by
  rw [isDescribed_classify_iff, IsOwnEntry, partGuid_classify]
  constructor
  · intro unmixed entry known on
    obtain ⟨own, knownOwn, last⟩ := unmixed ⟨entry, known, on⟩
    obtain rfl : entry = own := Option.some.inj (known.symm.trans knownOwn)
    exact last
  · rintro last ⟨entry, known, on⟩
    exact ⟨entry, known, last entry known on⟩

end

/-- What a classified volume has of the partitions on its device path. -/
structure IdentityLaw (probe : Probe) (device : Device) (arch : Architecture) (v : Volume) :
    Prop where
  /-- It has the identifier that the last node for a partition gives. -/
  partGuid_eq : v.partGuid = lastPartition? probe.path
  /-- It has something of an entry exactly if some node is the entry's. -/
  isDescribed_iff : IsDescribed probe device arch v ↔
    ∃ entry, probe.gpt = some entry ∧ entry.IsOn probe.path
  /-- Then it has all that the entry tells. -/
  description_eq : ∀ entry, probe.gpt = some entry → entry.IsOn probe.path →
    v.description = entry.description arch
  /-- What it has of an entry comes with the identifier of the entry exactly if no other identifier
  comes after the nodes of the entry. -/
  unmixed_iff : (IsDescribed probe device arch v → IsOwnEntry probe.gpt v) ↔
    ∀ entry, probe.gpt = some entry → entry.IsOn probe.path →
      lastPartition? probe.path = some entry.partGuid

/-- A classified volume is described by the entry of any node of its device path, and identified by
the last one. -/
theorem classify_identityLaw (probe : Probe) (device : Device) (options : ScanOptions)
    (arch : Architecture) :
    IdentityLaw probe device arch (classify probe device options arch).value where
  partGuid_eq := partGuid_classify probe device options arch
  isDescribed_iff := isDescribed_classify_iff probe device options arch
  description_eq _ known on := description_classify_of_isOn probe device options arch known on
  unmixed_iff := unmixed_classify_iff probe device options arch

/-- The entry of a root partition. -/
def rootEntry : GptEntry where
  partGuid := ⟨0x11111111222233334444555555555555#128⟩
  partType := ⟨0x4F68BCE3E8CD4DB196E7FBCAF984B709#128⟩
  name := "root"
  attributes := 0

/-- A volume inside of that partition. -/
def nestedProbe : Probe where
  handle := none
  device := 0
  wholeDisk := none
  wholeDiskBlockSize := none
  path := [.hardDrive (.guid rootEntry.partGuid),
    .hardDrive (.guid ⟨0x66666666777788889999AAAAAAAAAAAA#128⟩)]
  gpt := some rootEntry
  fs := none

/-- It has all that the entry tells, under another identifier. -/
theorem nestedProbe_mixed :
    let v := (classify nestedProbe (.filled 512 7 true 0) ⟨.none, false, false, false⟩ .x64).value
    v.description = ⟨some rootEntry.partType, some "root", false, true⟩ ∧
      v.partGuid ≠ some rootEntry.partGuid ∧
      ¬(IsDescribed nestedProbe (.filled 512 7 true 0) .x64 v → IsOwnEntry nestedProbe.gpt v) := by
  intro v
  have on : rootEntry.IsOn nestedProbe.path := List.mem_cons_self
  have other : lastPartition? nestedProbe.path ≠ some rootEntry.partGuid := by decide
  refine ⟨?_, ?_, fun unmixed => ?_⟩
  · exact description_classify_of_isOn nestedProbe _ _ _ rfl on
  · exact fun same => other ((partGuid_classify nestedProbe _ _ _).symm.trans same)
  · exact other ((unmixed_classify_iff nestedProbe _ _ _).mp unmixed rootEntry rfl on)

end Volume

end BootManager
