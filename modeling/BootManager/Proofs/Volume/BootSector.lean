import BootManager.Text.Ascii
import BootManager.Volume.BootCode
import BootManager.Volume.Signature

/-!
# What counts as boot code

A first sector is taken to start something if it looks like a boot sector or holds a known loader.
What formatting tools write is told by its messages and does not count. Firmware made by Apple goes
by the files of an NTFS volume instead, and there the messages are not looked at.
-/

namespace BootManager

namespace BootCode

open Buffer

/-- A sector that seems to start something. -/
def IsStarting (buf : Array UInt8) : Prop :=
  looksBootable buf = true ∨ ∃ loader ∈ loaders, loader.isIn buf = true

/-- A first sector that holds a message of a formatting tool. -/
def IsFormatted (buf : Array UInt8) : Prop :=
  ∃ message ∈ placeholderMessages, ascii message <:+: buf.toList.take 512

/-- Whether the files of a volume decide on its boot code. -/
def ByFiles (legacy : LegacyBoot) (fsType : FsType) : Prop :=
  legacy = .mac ∧ fsType = .ntfs

/-- Which boot sectors count, whatever they hold. -/
structure CodeLaw (buf : Array UInt8) (legacy : LegacyBoot) (fsType : FsType) (hasFiles : Bool)
    (code : BootCode) : Prop where
  /-- Nothing is looked at where older systems are not started. -/
  unsupported : legacy = .none → code = {}
  /-- The messages of formatting tools rule out every boot sector that no files decide on. -/
  formatted : IsFormatted buf → ¬ByFiles legacy fsType → code.hasBootCode = false
  /-- Nothing else does. -/
  unformatted : legacy ≠ .none → ¬ByFiles legacy fsType → ¬IsFormatted buf →
    (code.hasBootCode = true ↔ IsStarting buf)
  /-- Where files decide, they do so with such messages as well as without them. -/
  files : ByFiles legacy fsType →
    (code.hasBootCode = true ↔ IsStarting buf ∧ hasFiles = true)

section

variable {buf : Array UInt8} {legacy : LegacyBoot} {fsType : FsType} {hasFiles : Logged Bool}

theorem isPlaceholder_iff : isPlaceholder buf = true ↔ IsFormatted buf := by
  simp only [isPlaceholder, inSector, List.any_eq_true, hasWithin_iff, IsFormatted]

theorem bootable_ofLoader (buf : Array UInt8) : (ofLoader buf).bootable = looksBootable buf := by
  unfold ofLoader
  split
  · rfl
  · rfl

theorem hasBootCode_ofLoader_iff : (ofLoader buf).hasBootCode = true ↔ IsStarting buf := by
  unfold ofLoader IsStarting
  cases found : loaders.find? fun loader => loader.isIn buf with
  | some loader =>
    have there := List.find?_some found
    exact iff_of_true rfl (.inr ⟨loader, List.mem_of_find?_eq_some found, there⟩)
  | none =>
    have unknown : ¬∃ loader ∈ loaders, loader.isIn buf = true := by
      rintro ⟨loader, member, there⟩
      exact List.find?_eq_none.mp found loader member there
    simp only [unknown, or_false]

theorem needsFiles_iff {code : BootCode} : needsFiles legacy fsType code = true ↔
    code.hasBootCode = true ∧ ByFiles legacy fsType := by
  simp only [needsFiles, Bool.and_eq_true, beq_iff_eq, ByFiles, and_assoc]

theorem bootable_ofSector (supported : legacy ≠ .none) :
    (ofSector buf legacy fsType hasFiles).value.bootable = looksBootable buf := by
  unfold ofSector
  rw [if_neg supported, ← bootable_ofLoader]
  simp only [Logged.value_bind, Logged.value_pure, apply_ite Logged.value,
    apply_ite BootCode.bootable, withoutFiles, ite_self]

/-- Files decide on the boot code of some volumes, and messages on that of the others. -/
theorem hasBootCode_ofSector_iff (supported : legacy ≠ .none) :
    (ofSector buf legacy fsType hasFiles).value.hasBootCode = true ↔ IsStarting buf ∧
      (ByFiles legacy fsType ∧ hasFiles.value = true ∨
        ¬ByFiles legacy fsType ∧ ¬IsFormatted buf) := by
  rw [← hasBootCode_ofLoader_iff, ← isPlaceholder_iff]
  unfold ofSector
  rw [if_neg supported]
  by_cases needed : needsFiles legacy fsType (ofLoader buf) = true
  · obtain ⟨starting, byFiles⟩ := needsFiles_iff.mp needed
    cases found : hasFiles.value with
    | true => simp [needed, found, starting, byFiles]
    | false => simp [needed, found, byFiles, withoutFiles]
  · cases starting : (ofLoader buf).hasBootCode with
    | false => cases isPlaceholder buf <;> simp [needed, starting]
    | true =>
      have apart : ¬ByFiles legacy fsType := fun byFiles =>
        needed (needsFiles_iff.mpr ⟨starting, byFiles⟩)
      cases isPlaceholder buf <;> simp [needed, starting, apart]

end

/-- Boot code counts unless a formatting tool wrote it, or unless the files that it starts are
missing where these decide. -/
theorem ofSector_codeLaw (buf : Array UInt8) (legacy : LegacyBoot) (fsType : FsType)
    (hasFiles : Logged Bool) :
    CodeLaw buf legacy fsType hasFiles.value (ofSector buf legacy fsType hasFiles).value := by
  by_cases supported : legacy = .none
  · have apart : ¬ByFiles legacy fsType := fun byFiles => by
      simp [ByFiles, supported] at byFiles
    have nothing : (ofSector buf legacy fsType hasFiles).value = {} := by
      rw [ofSector, if_pos supported, Logged.value_pure]
    refine ⟨fun _ => nothing, fun _ _ => ?_, fun other => absurd supported other,
      fun byFiles => absurd byFiles apart⟩
    rw [nothing]
  · refine ⟨fun none => absurd none supported, fun formatted apart => ?_,
      fun _ apart unformatted => ?_, fun byFiles => ?_⟩
    · refine eq_false_of_ne_true fun counts => ?_
      obtain ⟨-, ⟨byFiles, -⟩ | ⟨-, unformatted⟩⟩ := (hasBootCode_ofSector_iff supported).mp counts
      · exact apart byFiles
      · exact unformatted formatted
    · simp [hasBootCode_ofSector_iff supported, apart, unformatted]
    · simp [hasBootCode_ofSector_iff supported, byFiles]

/-! ## A sector with a loader and a message -/

/-- The first sector of an NTFS volume that holds a loader and a message of a formatting tool. -/
def messageSector : Bytes :=
  [0xEB, 0x52, 0x90] ++ (ascii "NTFS    " ++ (List.replicate 189 0 ++ (ascii "BOOTMGR" ++
    (List.replicate 93 0 ++ (ascii "Press any key to restart" ++ (List.replicate 186 0 ++
      [0x55, 0xAA]))))))

theorem isFormatted_messageSector : IsFormatted messageSector.toArray := by
  have within : Text.containsRun (ascii "Press any key to restart") (messageSector.take 512) =
      true := by
    decide +kernel
  exact ⟨"Press any key to restart", by decide, Text.containsRun_iff.mp within⟩

/-- A loader of Windows that is found through its file starts something. -/
theorem isStarting_of_bootmgr {buf : Array UInt8} (there : inWindow buf "BOOTMGR" = true) :
    IsStarting buf := by
  have place : 7 < loaders.length := by decide
  exact .inr ⟨loaders[7], List.getElem_mem place, there⟩

theorem isStarting_messageSector : IsStarting messageSector.toArray := by
  have within : Text.containsRun (ascii "BOOTMGR") (messageSector.take window) = true := by
    decide +kernel
  exact isStarting_of_bootmgr (hasWithin_iff.mpr (Text.containsRun_iff.mp within))

/-- The message does not rule out the sector on firmware made by Apple. -/
theorem messageSector_hasBootCode : IsFormatted messageSector.toArray ∧
    (Detection.ofBuffer messageSector.toArray ⟨512, true, none, false, true⟩).fsType = .ntfs ∧
    (ofSector messageSector.toArray .mac .ntfs (pure true)).value.hasBootCode = true := by
  refine ⟨isFormatted_messageSector, by decide +kernel, ?_⟩
  exact (hasBootCode_ofSector_iff (by decide)).mpr
    ⟨isStarting_messageSector, .inl ⟨⟨rfl, rfl⟩, rfl⟩⟩

end BootCode

end BootManager
