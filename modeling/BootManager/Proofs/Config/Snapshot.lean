import BootManager.Config.Snapshot
import BootManager.Proofs.Format.Lossless

/-!
# Snapshots lose nothing

Settings are read back from their snapshot, whatever comes after it, if it is shorter than `2 ^ 64`
bytes: the lengths of its lists and texts are written as 64-bit numbers.
-/

namespace BootManager.Config.Snapshot

open Format

variable {limit : Nat}

theorem table_losslessBelow {κ α : Type} [DecidableEq κ] [Inhabited α] {keys : List κ}
    (every : ∀ key, key ∈ keys) {f : Format α} (h : f.LosslessBelow limit) :
    (table keys f).LosslessBelow limit := by
  refine (h.vector keys.length).convert fun t => ?_
  funext key
  have place : keys.idxOf key < keys.length := List.idxOf_lt_length_of_mem (every key)
  have found : keys[keys.idxOf key] = key := List.getElem_idxOf place
  simp [List.getD, place, found, Table.get]

theorem iconSizes_lossless : iconSizes.Lossless :=
  (uint32_lossless.pair (uint32_lossless.pair (uint32_lossless.pair uint32_lossless))).convert
    fun _ => rfl

theorem colour_lossless : colour.Lossless :=
  (int32_lossless.pair (int32_lossless.pair int32_lossless)).convert fun _ => rfl

theorem toolRow_losslessBelow (bound : limit ≤ 2 ^ 64) : toolRow.LosslessBelow limit := by
  have tool : (choice Tool.all).Lossless :=
    choice_lossless (by decide) fun tool => List.mem_of_getElem? (Tool.all_getElem?_index tool)
  have slots := (tool.below limit).option.list bound fun slot => by
    cases slot <;> simp [option, Format.bool, Format.refine, byte]
  exact slots.refine fun row => dif_pos row.length_le

theorem numbers_losslessBelow : numbers.LosslessBelow limit := by
  have int32 := int32_lossless.below limit
  have uint32 := uint32_lossless.below limit
  exact int32.pair <| (bool_lossless.below limit).pair <|
    (table_losslessBelow SignedField.mem_all int32).pair <| int32.pair <|
    (table_losslessBelow UnsignedField.mem_all uint32).pair <| uint32.pair <|
    iconSizes_lossless.below limit

theorem texts_losslessBelow (bound : limit ≤ 2 ^ 64) : texts.LosslessBelow limit := by
  have uint32 := uint32_lossless.below limit
  have text := text_losslessBelow bound
  have numbers := uint32.list bound fun n => writeVarint_ne_nil n.toNat
  have lists := text.list bound fun s => by
    simp [Format.text, Format.refine, Format.list, writeVarint_ne_nil]
  have banner : (choice BannerScale.all).Lossless :=
    choice_lossless (by decide) fun scale => by cases scale <;> decide
  exact (table_losslessBelow TextField.mem_all text.option).pair <|
    (table_losslessBelow ListField.mem_all lists).pair <| numbers.pair <|
    (uint32.convert fun _ => rfl).pair <| (uint32.convert fun _ => rfl).pair <|
    (banner.below limit).pair ((char_lossless.below limit).vector scanSlotCount)

theorem screen_losslessBelow (bound : limit ≤ 2 ^ 64) : screen.LosslessBelow limit := by
  have bool := bool_lossless.below limit
  have uint32 := uint32_lossless.below limit
  exact (toolRow_losslessBelow bound).pair <| bool.pair <| uint32.pair <| uint32.pair <|
    (colour_lossless.below limit).pair <| bool.pair (table_losslessBelow Switch.mem_all bool)

/-- Settings are read back from a snapshot below the limit. -/
theorem format_losslessBelow (bound : limit ≤ 2 ^ 64) : format.LosslessBelow limit :=
  (numbers_losslessBelow.pair
    ((texts_losslessBelow bound).pair (screen_losslessBelow bound))).convert fun _ => rfl

end BootManager.Config.Snapshot

namespace BootManager.Config.Settings

/-- Settings are read back from their snapshot, whatever comes after it. -/
theorem ofBytes?_toBytes {s : Settings} (short : s.toBytes.length < 2 ^ 64) (rest : Bytes) :
    ofBytes? (s.toBytes ++ rest) = some s := by
  have read := Snapshot.format_losslessBelow (Nat.le_refl _) s short rest
  unfold ofBytes? toBytes
  rw [read]
  rfl

theorem toBytes_ne_nil (s : Settings) : s.toBytes ≠ [] := by
  have timeout : Format.int32.encode s.timeout ≠ [] := Format.writeVarint_ne_nil _
  simp [toBytes, Snapshot.format, Format.convert, Format.refine, Format.pair, Snapshot.numbers,
    timeout]

end BootManager.Config.Settings
