import BootManager.Config.Context
import BootManager.Config.TimeOfDay
import BootManager.Config.Value

/-!
# Directives

A directive is a keyword with what its values do to the settings. Keywords are found in any case,
also by older names; some of these turn the meaning of a switch around.
-/

namespace BootManager.Config

/-- What a directive does. -/
inductive Action where
  | signed (field : SignedField)
  | unsigned (field : UnsignedField)
  | text (field : TextField)
  | paths (field : ListField)
  | switch (field : Switch)
  | timeout
  | logLevel
  | mouseSpeed
  | smallIcons
  | bigIcons
  | pointerSize
  | defaultSelection
  | dontScanVolumes
  | csrValues
  | enableMouse
  | enableTouch
  | hideUi
  | graphicsFor
  | bannerScale
  | scanFor
  | showTools
  | resolution
  | screenColour
  deriving DecidableEq, Repr

/-- An older keyword of a directive. -/
structure Alias where
  word : String
  /-- Whether it turns the meaning of a switch around. -/
  inverted : Bool
  deriving DecidableEq, Repr

/-- A keyword with what it does. -/
structure Directive where
  word : String
  aliases : List Alias
  /-- How many words a line must have, the keyword included, if that is fixed. -/
  arity : Option Nat
  action : Action
  deriving DecidableEq, Repr

namespace Directive

/-- A directive that takes one value. -/
def single (word : String) (action : Action) : Directive :=
  ⟨word, [], some 2, action⟩

/-- A directive that takes any number of values. -/
def many (word : String) (action : Action) : Directive :=
  ⟨word, [], none, action⟩

/-- A directive with an older name. -/
def renamed (word old : String) (action : Action) : Directive :=
  ⟨word, [⟨old, false⟩], none, action⟩

/-- A switch with an older name that means the opposite. -/
def declined (word old : String) (field : Switch) : Directive :=
  ⟨word, [⟨old, true⟩], none, .switch field⟩

/-- Every directive. -/
def table : List Directive :=
  [single "timeout" .timeout,
    single "screensaver" (.signed .screensaver),
    single "scale_ui" (.signed .scaleUi),
    single "active_csr" (.signed .activeCsr),
    single "log_level" .logLevel,
    single "scan_delay" (.unsigned .scanDelay),
    single "textmode" (.unsigned .textMode),
    single "max_tags" (.unsigned .maxTags),
    single "mouse_speed" .mouseSpeed,
    single "small_icon_size" .smallIcons,
    single "big_icon_size" .bigIcons,
    single "mouse_size" .pointerSize,
    single "icons_dir" (.text .iconsDir),
    single "set_boot_args" (.text .setBootArgs),
    single "banner" (.text .banner),
    single "selection_small" (.text .selectionSmall),
    single "selection_big" (.text .selectionBig),
    many "default_selection" .defaultSelection,
    single "spoof_osx_version" (.text .spoofOsxVersion),
    single "font" (.text .font),
    many "also_scan_dirs" (.paths .alsoScanDirs),
    renamed "dont_scan_dirs" "don't_scan_dirs" (.paths .dontScanDirs),
    renamed "dont_scan_files" "don't_scan_files" (.paths .dontScanFiles),
    renamed "dont_scan_tools" "don't_scan_tools" (.paths .dontScanTools),
    renamed "dont_scan_firmware" "don't_scan_firmware" (.paths .dontScanFirmware),
    renamed "dont_scan_volumes" "don't_scan_volumes" .dontScanVolumes,
    many "windows_recovery_files" (.paths .windowsRecoveryFiles),
    many "macos_recovery_files" (.paths .macosRecoveryFiles),
    many "scan_driver_dirs" (.paths .scanDriverDirs),
    many "extra_kernel_version_strings" (.paths .extraKernelVersionStrings),
    many "linux_prefixes" (.paths .linuxPrefixes),
    many "csr_values" .csrValues,
    many "shutdown_after_timeout" (.switch .shutdownAfterTimeout),
    many "use_nvram" (.switch .useNvram),
    many "uefi_deep_legacy_scan" (.switch .deepLegacyScan),
    many "textonly" (.switch .textOnly),
    many "scan_all_linux_kernels" (.switch .scanAllLinux),
    many "fold_linux_kernels" (.switch .foldLinuxKernels),
    many "enable_and_lock_vmx" (.switch .enableAndLockVmx),
    many "write_systemd_vars" (.switch .writeSystemdVars),
    many "enable_mouse" .enableMouse,
    many "enable_touch" .enableTouch,
    many "transient_boot" (.switch .transientBoot),
    many "ignore_hidden_icons" (.switch .ignoreHiddenIcons),
    many "external_hidden_icons" (.switch .externalHiddenIcons),
    many "prefer_hidden_icons" (.switch .preferHiddenIcons),
    renamed "renderer_text" "text_renderer" (.switch .textRenderer),
    renamed "pass_uga_through" "uga_pass_through" (.switch .ugaPassThrough),
    many "provide_console_gop" (.switch .provideConsoleGop),
    renamed "renderer_direct_gop" "direct_gop_renderer" (.switch .useDirectGop),
    many "continue_on_warning" (.switch .continueOnWarning),
    many "force_trim" (.switch .forceTrim),
    many "disable_compat_check" (.switch .disableCompatCheck),
    many "disable_amfi" (.switch .disableAmfi),
    many "normalise_csr" (.switch .normaliseCsr),
    declined "reload_gop" "decline_reloadgop" .reloadGop,
    declined "supply_nvme" "decline_nvmeload" .supplyNvme,
    declined "supply_apfs" "decline_apfsload" .supplyApfs,
    declined "supply_uefi" "decline_uefiemulate" .supplyUefi,
    declined "silence_apfs" "decline_apfsmute" .silenceApfs,
    declined "sync_apfs" "decline_apfssync" .syncApfs,
    declined "protect_nvram" "decline_nvramprotect" .protectNvram,
    declined "scan_other_esp" "decline_espfilter" .scanOtherEsp,
    declined "tags_help" "decline_tagshelp" .tagsHelp,
    many "hideui" .hideUi,
    many "use_graphics_for" .graphicsFor,
    single "banner_scale" .bannerScale,
    many "scanfor" .scanFor,
    many "showtools" .showTools,
    many "resolution" .resolution,
    ⟨"screen_rgb", [], some 4, .screenColour⟩]

/-- A directive that was found, with how it was written. -/
structure Found where
  directive : Directive
  /-- Whether the keyword turns the meaning of a switch around. -/
  inverted : Bool
  /-- Whether the keyword is an older name. -/
  deprecated : Bool
  deriving DecidableEq, Repr

/-- How a keyword writes this directive, if it does. -/
def match? (d : Directive) (keyword : String) : Option Found :=
  if Text.sameIgnoringCase d.word keyword then some ⟨d, false, false⟩
  else
    (d.aliases.find? fun older => Text.sameIgnoringCase older.word keyword).map fun older =>
      ⟨d, older.inverted, true⟩

/-- The directive of a keyword. -/
def lookup (keyword : String) : Option Found :=
  table.findSome? fun d => d.match? keyword

end Directive

namespace Action

/-- The smallest size of icons. -/
def minIconSize : UInt32 := 32

/-- The smallest size of the mouse pointer. -/
def minPointerSize : UInt32 := 16

/-- The fastest mouse pointer. -/
def maxMouseSpeed : UInt32 := 32

/-- The largest verbosity. -/
def maxLogLevel : Int32 := 4

/-- The only value of a line. -/
def value (line : Line) : String :=
  line.getD 1 ""

/-- The entry selected by default. With two times after it, it is selected only between them. -/
def selectDefault (ctx : Context) (line : Line) (s : Settings) : Logged Settings :=
  match line with
  | [_, name, start, stop] =>
    let start := TimeOfDay.read start
    let stop := TimeOfDay.read stop
    if start > TimeOfDay.lastMinute ∨ stop > TimeOfDay.lastMinute then do
      Logged.warn s!"Invalid time range for 'default_selection' \"{name}\""
      pure s
    else
      match ctx.minuteOfDay with
      | some now =>
        if TimeOfDay.inRange start stop now then
          pure { s with text := s.text.set .defaultSelection (some name) }
        else pure s
      | none => do
        Logged.warn s!"The current time is unknown, ignoring timed 'default_selection' \"{name}\""
        pure s
  | _ =>
    pure { s with
      text := s.text.set .defaultSelection (Value.text line (s.text.get .defaultSelection)) }

/-- How the banner is drawn. -/
def scaleBanner (line : Line) (s : Settings) : Logged Settings :=
  let value := value line
  if Text.sameIgnoringCase value "noscale" then pure { s with bannerScale := .native }
  else if Text.sameIgnoringCase value "fillscreen" || Text.sameIgnoringCase value "fullscreen" then
    pure { s with bannerScale := .fillScreen }
  else do
    Logged.warn s!"Invalid 'banner_scale' flag: \"{value}\""
    pure s

/-- Turns one pointing device on or off. Turning it on turns the other off. -/
def enablePointer (device other : Switch) (line : Line) (s : Settings) : Settings :=
  let on := Value.isOn line
  let switch := s.switch.set device on
  { s with switch := if on then switch.set other false else switch }

/-- Carries out an action with the words of a line. `inverted` turns the meaning of a
switch around. -/
def run (ctx : Context) (action : Action) (inverted : Bool) (line : Line) (s : Settings) :
    Logged Settings :=
  match action with
  | signed field =>
    pure { s with signed := s.signed.set field (Value.signed line (s.signed.get field)) }
  | unsigned field =>
    pure { s with unsigned := s.unsigned.set field (Value.unsigned line (s.unsigned.get field)) }
  | text field => pure { s with text := s.text.set field (Value.text line (s.text.get field)) }
  | paths field =>
    pure { s with list := s.list.set field (Value.texts true line (s.list.get field)) }
  | switch field => pure { s with switch := s.switch.set field (Value.isOn line != inverted) }
  | timeout =>
    let timeout := Value.signed line s.timeout
    pure { s with timeout, directBoot := timeout < 0 }
  | logLevel =>
    pure { s with logLevel := max 0 (min maxLogLevel (Value.signed line s.logLevel)) }
  | mouseSpeed =>
    pure { s with mouseSpeed := max 1 (min maxMouseSpeed (Text.readUnsigned (value line))) }
  | smallIcons =>
    let size := Text.readUnsigned (value line)
    pure (if minIconSize ≤ size then { s with icons := { s.icons with small := size } } else s)
  | bigIcons =>
    let size := Text.readUnsigned (value line)
    pure (if minIconSize ≤ size then
      { s with icons := { s.icons with big := size, badge := size / 4 } } else s)
  | pointerSize =>
    let size := Text.readUnsigned (value line)
    pure (if minPointerSize ≤ size then { s with icons := { s.icons with mouse := size } } else s)
  | defaultSelection => selectDefault ctx line s
  | dontScanVolumes => pure { s with list := s.list.set .dontScanVolumes (line.drop 1) }
  | csrValues => pure { s with csrValues := Value.hexes Value.maxCsrValue line s.csrValues }
  | enableMouse => pure (enablePointer .enableMouse .enableTouch line s)
  | enableTouch => pure (enablePointer .enableTouch .enableMouse line s)
  | hideUi => do
    let hidden ← Value.hidden line s.hidden
    pure { s with hidden }
  | graphicsFor => pure { s with graphicsFor := Value.graphicsFor line s.graphicsFor }
  | bannerScale => scaleBanner line s
  | scanFor => pure { s with scanFor := Value.scanSlots line }
  | showTools => do
    let tools ← Value.tools line
    pure { s with tools, hiddenTags := tools.contains .hidden }
  | resolution =>
    match Value.resolution line with
    | some (width, height) => pure { s with width, height }
    | none => pure s
  | screenColour =>
    match Value.colour line with
    | some background => pure { s with background, customBackground := background.isValid }
    | none => pure s

end Action

namespace Settings

/-- What a line that was read does to the settings, and whether its keyword was known. -/
structure Applied where
  known : Bool
  settings : Settings

/-- Applies one line. A line with the wrong number of words does nothing, but its keyword
is known. -/
def apply (ctx : Context) (line : Line) (s : Settings) : Logged Applied :=
  match line with
  | [] => pure ⟨false, s⟩
  | keyword :: values => do
    match Directive.lookup keyword with
    | none =>
      Logged.warn s!"Unknown configuration token: \"{keyword}\""
      pure ⟨false, s⟩
    | some found =>
      let word := found.directive.word
      if found.deprecated then
        Logged.debug s!"\"{keyword}\" is deprecated, avoid deprecated token and use \"{word}\""
      let run := do
        let settings ← found.directive.action.run ctx found.inverted line s
        pure ⟨true, settings⟩
      match found.directive.arity with
      | some arity =>
        if line.length = arity then run
        else
          let wanted := arity - 1
          let given := values.length
          Logged.debug s!"\"{word}\" takes {wanted} values but {given} were given, ignoring"
          pure ⟨true, s⟩
      | none => run

/-- Applies lines one after the other. -/
def applyAll (ctx : Context) (lines : List Line) (s : Settings) : Logged Settings :=
  lines.foldlM (fun s line => do return (← s.apply ctx line).settings) s

end Settings

end BootManager.Config
