import BootManager.Config.Field

/-!
# All settings by name

The settings as one list of names and values, in the order in which they are written down.
-/

namespace BootManager.Config

/-- The value of a setting, by its kind. -/
inductive SettingValue where
  | number (n : Int)
  | bool (b : Bool)
  | numbers (ns : List Int)
  | text (s : Option String)
  | texts (ss : List String)
  | icons (sizes : IconSizes)
  | hidden (set : HideSet)
  | families (set : LoaderSet)
  | scale (scale : BannerScale)
  | scanFor (slots : ScanSlots)
  | tools (row : ToolRow)

namespace Settings

/-- The settings before the texts. -/
def numberListing (s : Settings) : List (String × SettingValue) :=
  [("timeout", .number s.timeout.toInt), ("direct_boot", .bool s.directBoot)] ++
    SignedField.all.map (fun field => (field.name, .number (s.signed.get field).toInt)) ++
    [("log_level", .number s.logLevel.toInt)] ++
    UnsignedField.all.map (fun field => (field.name, .number (s.unsigned.get field).toNat)) ++
    [("mouse_speed", .number s.mouseSpeed.toNat), ("icon_sizes", .icons s.icons)]

/-- The texts and the lists of texts. -/
def textListing (s : Settings) : List (String × SettingValue) :=
  TextField.all.map (fun field => (field.name, .text (s.text.get field))) ++
    ListField.all.map (fun field => (field.name, .texts (s.list.get field)))

/-- The settings between the lists of texts and the switches. -/
def choiceListing (s : Settings) : List (String × SettingValue) :=
  [("csr_values", .numbers (s.csrValues.map fun n => (n.toNat : Int))),
    ("hide_ui", .hidden s.hidden), ("graphics_for", .families s.graphicsFor),
    ("banner_scale", .scale s.bannerScale), ("scan_for", .scanFor s.scanFor),
    ("show_tools", .tools s.tools), ("hidden_tags", .bool s.hiddenTags),
    ("requested_width", .number s.width.toNat), ("requested_height", .number s.height.toNat),
    ("screen_rgb",
      .numbers [s.background.red.toInt, s.background.green.toInt, s.background.blue.toInt]),
    ("custom_screen_bg", .bool s.customBackground)]

/-- All settings with their names. -/
def listing (s : Settings) : List (String × SettingValue) :=
  s.numberListing ++ s.textListing ++ s.choiceListing ++
    Switch.all.map fun field => (field.name, .bool (s.switch.get field))

end Settings

end BootManager.Config
