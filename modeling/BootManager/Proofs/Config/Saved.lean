import BootManager.Config.Saved
import BootManager.Proofs.Config.Snapshot
import BootManager.Proofs.Variable.ReadBack

/-!
# Restoring what was saved

Settings that were saved are restored, unless saving was left out in favour of a snapshot that only
passes for theirs: snapshots are compared as texts as well, and a snapshot is a text up to its first
zero. A snapshot begins with the timeout and with whether the default entry is booted directly, so
settings with the same timeout pass for each other when it is not 0 and a menu is shown.
-/

namespace BootManager.Config.Settings

open VariableBanks VariableStore

section

variable (hasDisk useNvram : Bool) (banks : VariableBanks)

/-- What saving settings comes to, and the variables after it. -/
def saving (s : Settings) : Except Failure Unit × VariableBanks :=
  outcome (s.save (store hasDisk useNvram)) banks

/-- The settings that are restored. -/
def restored : Except Failure (Option Settings) :=
  (outcome (restore (store hasDisk useNvram)) banks).1

/-- The settings of what is found of their variable. -/
def ofFound : Except Failure (Option Bytes) → Except Failure (Option Settings)
  | .error failure => .error failure
  | .ok none => .ok none
  | .ok (some bytes) =>
    match ofBytes? bytes with
    | some s => .ok (some s)
    | none => .error (.stored (.corrupt variableName))

theorem restored_eq : restored hasDisk useNvram banks =
    ofFound (bytesOf hasDisk useNvram banks ownVendor variableName) := by
  unfold restored restore bytesOf
  rw [outcome_bind]
  cases (outcome ((store hasDisk useNvram).getRaw ownVendor variableName) banks).1 with
  | error failure => rfl
  | ok found =>
    cases found with
    | none => rfl
    | some bytes =>
      dsimp only [ofFound]
      cases ofBytes? bytes <;> rfl

theorem ofFound_some {bytes : Bytes} {s : Settings} :
    ofFound (.ok (some bytes)) = .ok (some s) ↔ ofBytes? bytes = some s := by
  rw [ofFound]
  cases ofBytes? bytes with
  | none => simp
  | some read => simp

/-- The settings are restored after every save of them that is done or said to be done. -/
def IsRestored (s : Settings) : Prop :=
  let save := saving hasDisk useNvram banks s
  IsSettled variableName save.1 → restored hasDisk useNvram save.2 = .ok (some s)

/-- No stored bytes pass for the snapshot of the settings, or they stand for the settings. -/
def IsUnmistaken (s : Settings) : Prop :=
  s.toBytes.length ≤ maxSize → ∀ old,
    bytesOf hasDisk useNvram banks ownVendor variableName = .ok (some old) →
      PassesFor variableName old s.toBytes → ofBytes? old = some s

/-- How saving settings and restoring them fit together. -/
structure RestoreLaw (s : Settings) : Prop where
  /-- The settings are restored after a save that was done. -/
  done : let save := saving hasDisk useNvram banks s
    save.1 = .ok () → restored hasDisk useNvram save.2 = .ok (some s)
  /-- They are restored after one that was left out as well, exactly if nothing that stands for
  other settings passes for their snapshot. -/
  settled : IsRestored hasDisk useNvram banks s ↔ IsUnmistaken hasDisk useNvram banks s
  /-- Over a snapshot that was saved before, this is to say that it does not pass for theirs, or is
  one of the same settings. -/
  replacing : ∀ before : Settings, before.toBytes.length ≤ maxSize →
    bytesOf hasDisk useNvram banks ownVendor variableName = .ok (some before.toBytes) →
      (IsRestored hasDisk useNvram banks s ↔
        (s.toBytes.length ≤ maxSize → PassesFor variableName before.toBytes s.toBytes →
          before = s))

end

variable {hasDisk useNvram : Bool} {banks : VariableBanks}

theorem ofBytes?_toBytes_of_small {s : Settings} (small : s.toBytes.length ≤ maxSize) :
    ofBytes? s.toBytes = some s := by
  have short : s.toBytes.length < 2 ^ 64 := Nat.lt_of_le_of_lt small (by decide)
  have read := ofBytes?_toBytes short []
  rwa [List.append_nil] at read

theorem isRestored_iff (s : Settings) : IsRestored hasDisk useNvram banks s ↔
    IsUnmistaken hasDisk useNvram banks s := by
  let P (found : Except Failure (Option Bytes)) : Prop := ofFound found = .ok (some s)
  have settled := settled_read_iff P hasDisk useNvram banks ownVendor variableName true
    s.toBytes_ne_nil fun small => ofFound_some.mpr (ofBytes?_toBytes_of_small small)
  unfold IsRestored
  simp only [restored_eq]
  refine Iff.trans settled ⟨?_, ?_⟩
  · intro passed small old present passes
    exact ofFound_some.mp (passed small old present passes)
  · intro passed small old present passes
    exact ofFound_some.mpr (passed small old present passes)

theorem restored_of_done {s : Settings} (done : (saving hasDisk useNvram banks s).1 = .ok ()) :
    restored hasDisk useNvram (saving hasDisk useNvram banks s).2 = .ok (some s) := by
  have found : bytesOf hasDisk useNvram (saving hasDisk useNvram banks s).2 ownVendor
      variableName = .ok (some s.toBytes) :=
    bytesOf_of_done s.toBytes_ne_nil done
  rw [restored_eq, found, ofFound_some]
  exact ofBytes?_toBytes_of_small (small_of_settled (.inl done))

theorem isRestored_over_iff {before : Settings} (s : Settings)
    (small : before.toBytes.length ≤ maxSize)
    (present : bytesOf hasDisk useNvram banks ownVendor variableName =
      .ok (some before.toBytes)) :
    IsRestored hasDisk useNvram banks s ↔
      (s.toBytes.length ≤ maxSize → PassesFor variableName before.toBytes s.toBytes →
        before = s) := by
  have read := ofBytes?_toBytes_of_small small
  rw [isRestored_iff]
  constructor
  · intro unmistaken fits passes
    have same := unmistaken fits before.toBytes present passes
    exact Option.some.inj (read.symm.trans same)
  · intro only fits old found passes
    have stored : before.toBytes = old := by
      simpa using present.symm.trans found
    subst stored
    rw [read, only fits passes]

/-! ## Settings that pass for others -/

theorem zero_notMem_writeVarint {n : Nat} (positive : 0 < n) : 0 ∉ Format.writeVarint n := by
  induction n using Nat.strongRecOn with
  | ind n ih =>
    rw [Format.writeVarint]
    by_cases small : n < 128
    · rw [if_pos small, List.mem_singleton]
      intro zero
      have := congrArg UInt8.toNat zero
      simp at this
      omega
    · rw [if_neg small, List.mem_cons, not_or]
      refine ⟨fun zero => ?_, ih (n / 128) (by omega) (by omega)⟩
      have := congrArg UInt8.toNat zero
      simp at this
      omega

/-- A snapshot begins with the timeout and with whether the default entry is booted directly. -/
theorem toBytes_eq (s : Settings) : ∃ rest, s.toBytes =
    Format.writeVarint (Format.toZigzag s.timeout.toInt) ++
      (if s.directBoot then 1 else 0) :: rest := by
  simp only [toBytes, Snapshot.format, Format.convert, Format.refine, Format.pair,
    Snapshot.numbers, Format.int32, Format.varint, Format.bool, Format.byte, List.append_assoc,
    List.singleton_append]
  exact ⟨_, rfl⟩

theorem toZigzag_pos {n : Int32} (nonzero : n ≠ 0) : 0 < Format.toZigzag n.toInt := by
  have value : n.toInt ≠ 0 := fun zero => nonzero (Int32.toInt_inj.mp zero)
  unfold Format.toZigzag
  split <;> omega

/-- The text of a snapshot with a timeout begins with the timeout, and is nothing else if a menu is
shown. -/
theorem textOf_toBytes {s : Settings} (timeout : s.timeout ≠ 0) :
    ∃ rest, textOf s.toBytes = Format.writeVarint (Format.toZigzag s.timeout.toInt) ++ rest ∧
      (s.directBoot = false → rest = []) := by
  obtain ⟨rest, whole⟩ := toBytes_eq s
  have nonzero : ∀ b ∈ Format.writeVarint (Format.toZigzag s.timeout.toInt), (b != 0) = true := by
    intro b member
    have absent := zero_notMem_writeVarint (toZigzag_pos timeout)
    simp only [bne_iff_ne, ne_eq]
    rintro rfl
    exact absent member
  rw [whole, textOf, List.takeWhile_append_of_pos nonzero]
  refine ⟨_, rfl, fun menu => ?_⟩
  simp [menu]

/-- Settings that show a menu for a time pass for all settings with the same timeout. -/
theorem passesFor_of_timeout {s before : Settings} (timeout : s.timeout ≠ 0)
    (menu : s.directBoot = false) (same : before.timeout = s.timeout) :
    PassesFor variableName before.toBytes s.toBytes := by
  obtain ⟨rest, text, nothing⟩ := textOf_toBytes timeout
  obtain ⟨more, textBefore, -⟩ := textOf_toBytes (s := before) (same ▸ timeout)
  rw [nothing menu, List.append_nil] at text
  refine ⟨by decide, ?_, ?_⟩
  · rw [text]
    exact Format.writeVarint_ne_nil _
  · rw [text, textBefore, same]
    exact (List.prefix_append _ more).isInfix

/-- Settings that were saved are restored after every save that was done. After a save that was left
out they are restored exactly if the snapshot in its place, which passes for theirs as a text, is
one of the same settings. -/
theorem saved_restored_iff (hasDisk useNvram : Bool) (banks : VariableBanks) (s : Settings) :
    RestoreLaw hasDisk useNvram banks s :=
  ⟨restored_of_done, isRestored_iff s, fun _ => isRestored_over_iff s⟩

/-- Settings with a timeout of seven seconds. -/
def sevenSeconds : Settings :=
  { Settings.default false with timeout := 7 }

/-- The same settings with more messages. -/
def sevenSecondsVerbose : Settings :=
  { sevenSeconds with logLevel := 1 }

/-- A machine on which settings with a timeout of seven seconds were saved. -/
def afterSevenSeconds : VariableBanks :=
  (saving false true .empty sevenSeconds).2

/-- Saving another level of messages over settings with the same timeout is said to change nothing,
and the settings without it are restored. -/
theorem changed_settings_not_restored :
    (saving false true afterSevenSeconds sevenSecondsVerbose).1 =
      .error (.stored (.unchanged variableName)) ∧
    restored false true (saving false true afterSevenSeconds sevenSecondsVerbose).2 =
      .ok (some sevenSeconds) ∧
    sevenSeconds ≠ sevenSecondsVerbose := by
  have size : sevenSeconds.toBytes.length = 125 := by decide +kernel
  have sizeVerbose : sevenSecondsVerbose.toBytes.length = 125 := by decide +kernel
  have missing : bytesOf false true .empty ownVendor variableName = .ok none := rfl
  have first : (saving false true .empty sevenSeconds).1 = .ok () :=
    setRaw_of_missing (by rw [size]; decide) missing
  have present := bytesOf_of_done sevenSeconds.toBytes_ne_nil first
  have passes : PassesFor variableName sevenSeconds.toBytes sevenSecondsVerbose.toBytes :=
    passesFor_of_timeout (by decide) rfl rfl
  have left : saving false true afterSevenSeconds sevenSecondsVerbose =
      (.error (.stored (.unchanged variableName)), afterSevenSeconds) :=
    setRaw_of_passes (by rw [sizeVerbose]; decide) present passes
  rw [left]
  refine ⟨rfl, restored_of_done first, fun same => ?_⟩
  exact absurd (congrArg Settings.logLevel same) (by decide)

end BootManager.Config.Settings
