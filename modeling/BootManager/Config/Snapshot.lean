import BootManager.Config.Field
import BootManager.Format

/-!
# Snapshots of settings

A snapshot is all settings in a compact binary form, one after another in their order and without
names. Settings that were written are read back, and bytes after them do not count.
-/

namespace BootManager.Config.Snapshot

/-- A table, as the values of its keys in order. -/
def table {κ α : Type} [DecidableEq κ] [Inhabited α] (keys : List κ) (f : Format α) :
    Format (Table κ α) :=
  (f.vector keys.length).convert
    (fun values key => values.toList.getD (keys.idxOf key) default)
    (fun table => ⟨(keys.map table.get).toArray, by simp⟩)

/-- The sizes of icons. -/
def iconSizes : Format IconSizes :=
  (Format.uint32.pair (Format.uint32.pair (Format.uint32.pair Format.uint32))).convert
    (fun t => ⟨t.1, t.2.1, t.2.2.1, t.2.2.2⟩)
    (fun icons => (icons.badge, icons.small, icons.big, icons.mouse))

/-- A colour. -/
def colour : Format Colour :=
  (Format.int32.pair (Format.int32.pair Format.int32)).convert
    (fun t => ⟨t.1, t.2.1, t.2.2⟩)
    (fun c => (c.red, c.green, c.blue))

/-- A row of tools. A row that is too long is refused. -/
def toolRow : Format ToolRow :=
  (Format.list (Format.choice Tool.all).option).refine
    (fun slots => if fits : slots.length ≤ toolLimit then some ⟨slots, fits⟩ else none)
    ToolRow.slots

/-- The timeout and what is written up to the sizes of icons. -/
def numbers : Format (Int32 × Bool × Table SignedField Int32 × Int32 × Table UnsignedField UInt32 ×
    UInt32 × IconSizes) :=
  Format.int32.pair <| Format.bool.pair <| (table SignedField.all Format.int32).pair <|
    Format.int32.pair <| (table UnsignedField.all Format.uint32).pair <|
    Format.uint32.pair iconSizes

/-- The texts and what is written up to the scan targets. -/
def texts : Format (Table TextField (Option String) × Table ListField (List String) × List UInt32 ×
    HideSet × LoaderSet × BannerScale × ScanSlots) :=
  (table TextField.all Format.text.option).pair <|
    (table ListField.all (Format.list Format.text)).pair <|
    (Format.list Format.uint32).pair <|
    (Format.uint32.convert HideSet.mk HideSet.bits).pair <|
    (Format.uint32.convert LoaderSet.mk LoaderSet.bits).pair <|
    (Format.choice BannerScale.all).pair (Format.char.vector scanSlotCount)

/-- The tools and what is written after them. -/
def screen : Format (ToolRow × Bool × UInt32 × UInt32 × Colour × Bool × Table Switch Bool) :=
  toolRow.pair <| Format.bool.pair <| Format.uint32.pair <| Format.uint32.pair <|
    colour.pair <| Format.bool.pair (table Switch.all Format.bool)

/-- All settings. -/
def format : Format Settings :=
  (numbers.pair (texts.pair screen)).convert
    (fun ((timeout, directBoot, signed, logLevel, unsigned, mouseSpeed, icons),
        (text, list, csrValues, hidden, graphicsFor, bannerScale, scanFor),
        (tools, hiddenTags, width, height, background, customBackground, switch)) =>
      { timeout, directBoot, signed, logLevel, unsigned, mouseSpeed, icons, text, list, csrValues,
        hidden, graphicsFor, bannerScale, scanFor, tools, hiddenTags, width, height, background,
        customBackground, switch })
    (fun s =>
      ((s.timeout, s.directBoot, s.signed, s.logLevel, s.unsigned, s.mouseSpeed, s.icons),
        (s.text, s.list, s.csrValues, s.hidden, s.graphicsFor, s.bannerScale, s.scanFor),
        (s.tools, s.hiddenTags, s.width, s.height, s.background, s.customBackground, s.switch)))

end BootManager.Config.Snapshot

namespace BootManager.Config.Settings

/-- The snapshot of settings. -/
def toBytes (s : Settings) : Bytes :=
  Snapshot.format.encode s

/-- The settings of a snapshot, if it is one. -/
def ofBytes? (bytes : Bytes) : Option Settings :=
  (Snapshot.format.decode bytes).map (·.1)

end BootManager.Config.Settings
