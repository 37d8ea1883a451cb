import BootManager.Proofs.Config.Snapshot
import BootManager.Proofs.Format.Steady

/-!
# Snapshots tell where they end

The format of snapshots does not look ahead, because none of its parts does. So bytes after a
snapshot change nothing, and a snapshot that was cut off anywhere is not taken for settings.
-/

namespace BootManager.Config.Snapshot

open Format

theorem table_steady {κ α : Type} [DecidableEq κ] [Inhabited α] (keys : List κ) {f : Format α}
    (h : f.Steady) : (table keys f).Steady :=
  (h.vector keys.length).convert _ _

theorem iconSizes_steady : iconSizes.Steady :=
  (uint32_steady.pair (uint32_steady.pair (uint32_steady.pair uint32_steady))).convert _ _

theorem colour_steady : colour.Steady :=
  (int32_steady.pair (int32_steady.pair int32_steady)).convert _ _

theorem toolRow_steady : toolRow.Steady :=
  (choice_steady Tool.all).option.list.refine _ _

theorem numbers_steady : numbers.Steady :=
  int32_steady.pair <| bool_steady.pair <| (table_steady _ int32_steady).pair <|
    int32_steady.pair <| (table_steady _ uint32_steady).pair <| uint32_steady.pair iconSizes_steady

theorem texts_steady : texts.Steady :=
  (table_steady _ text_steady.option).pair <| (table_steady _ text_steady.list).pair <|
    uint32_steady.list.pair <| (uint32_steady.convert _ _).pair <|
    (uint32_steady.convert _ _).pair <| (choice_steady _).pair (char_steady.vector _)

theorem screen_steady : screen.Steady :=
  toolRow_steady.pair <| bool_steady.pair <| uint32_steady.pair <| uint32_steady.pair <|
    colour_steady.pair <| bool_steady.pair (table_steady _ bool_steady)

/-- A snapshot is read without a look at what comes after it. -/
theorem format_steady : format.Steady :=
  (numbers_steady.pair (texts_steady.pair screen_steady)).convert _ _

end BootManager.Config.Snapshot

namespace BootManager.Config.Settings

/-- A part of a snapshot that lacks its end is not taken for settings. -/
theorem ofBytes?_of_strictPrefix {s : Settings} (short : s.toBytes.length < 2 ^ 64) {part : Bytes}
    (start : part <+: s.toBytes) (cut : part ≠ s.toBytes) : ofBytes? part = none := by
  obtain ⟨missing, whole⟩ := start
  have read := Snapshot.format_losslessBelow (Nat.le_refl _) s short []
  have nonempty : missing ≠ [] := by
    rintro rfl
    exact cut (by simpa using whole)
  have all : Snapshot.format.encode s ++ [] = part ++ missing := by
    rw [List.append_nil]
    exact whole.symm
  rw [all] at read
  rw [ofBytes?, Snapshot.format_steady.decode_eq_none read nonempty]
  rfl

/-- Settings are read back from their snapshot whatever comes after it, and from no part of it that
lacks the end. Snapshots of `2 ^ 64` bytes and more, whose lists and texts may be too long for the
64-bit numbers that tell their lengths, fit into no machine. -/
theorem snapshot_selfDelimiting {s : Settings} (short : s.toBytes.length < 2 ^ 64) :
    (∀ extra, ofBytes? (s.toBytes ++ extra) = some s) ∧
      ∀ part, part <+: s.toBytes → part ≠ s.toBytes → ofBytes? part = none :=
  ⟨ofBytes?_toBytes short, fun _ start cut => ofBytes?_of_strictPrefix short start cut⟩

/-- Settings with a negative number, a text beyond ASCII, a quoted item, and a full row of tools
with a blank slot. -/
def elaborate : Settings :=
  let s := Settings.default true
  { s with
    timeout := -1
    directBoot := true
    text := (s.text.set .banner (some "thème\\bannière.png")).set .font (some "")
    list := s.list.set .dontScanVolumes ["Recovery HD", "", "a\"b"]
    csrValues := [0x10, 0x877, 0xFFFFFFFF]
    hidden := ⟨0xFFFFFFFF⟩
    tools := .ofSlots (none :: List.replicate 27 (some .cleanNvram))
    background := ⟨-1, 255, Int32.minValue⟩ }

theorem elaborate_selfDelimiting :
    elaborate.toBytes.length < 2 ^ 64 ∧
      (∀ extra, ofBytes? (elaborate.toBytes ++ extra) = some elaborate) ∧
      ∀ part, part <+: elaborate.toBytes → part ≠ elaborate.toBytes → ofBytes? part = none := by
  have short : elaborate.toBytes.length < 2 ^ 64 := by
    decide +kernel
  exact ⟨short, snapshot_selfDelimiting short⟩

end BootManager.Config.Settings
