import BootManager.Config.Settings

/-!
# The order of settings

The settings of every kind in the order in which they are written down, with the names they have
there.
-/

namespace BootManager.Config

namespace SignedField

/-- Every signed number, in order. -/
def all : List SignedField :=
  [screensaver, scaleUi, activeCsr]

/-- The name of a signed number. -/
def name : SignedField → String
  | screensaver => "screensaver"
  | scaleUi => "scale_ui"
  | activeCsr => "active_csr"

theorem mem_all (field : SignedField) : field ∈ all := by
  cases field <;> decide

end SignedField

namespace UnsignedField

/-- Every unsigned number, in order. -/
def all : List UnsignedField :=
  [scanDelay, textMode, maxTags]

/-- The name of an unsigned number. -/
def name : UnsignedField → String
  | scanDelay => "scan_delay"
  | textMode => "text_mode"
  | maxTags => "max_tags"

theorem mem_all (field : UnsignedField) : field ∈ all := by
  cases field <;> decide

end UnsignedField

namespace TextField

/-- Every text, in order. -/
def all : List TextField :=
  [iconsDir, setBootArgs, banner, selectionSmall, selectionBig, defaultSelection, spoofOsxVersion,
    font]

/-- The name of a text. -/
def name : TextField → String
  | iconsDir => "icons_dir"
  | setBootArgs => "set_boot_args"
  | banner => "banner"
  | selectionSmall => "selection_small"
  | selectionBig => "selection_big"
  | defaultSelection => "default_selection"
  | spoofOsxVersion => "spoof_osx_version"
  | font => "font"

theorem mem_all (field : TextField) : field ∈ all := by
  cases field <;> decide

end TextField

namespace ListField

/-- Every list, in order. -/
def all : List ListField :=
  [alsoScanDirs, dontScanDirs, dontScanFiles, dontScanTools, dontScanFirmware, dontScanVolumes,
    windowsRecoveryFiles, macosRecoveryFiles, scanDriverDirs, extraKernelVersionStrings,
    linuxPrefixes]

/-- The name of a list. -/
def name : ListField → String
  | alsoScanDirs => "also_scan_dirs"
  | dontScanDirs => "dont_scan_dirs"
  | dontScanFiles => "dont_scan_files"
  | dontScanTools => "dont_scan_tools"
  | dontScanFirmware => "dont_scan_firmware"
  | dontScanVolumes => "dont_scan_volumes"
  | windowsRecoveryFiles => "windows_recovery_files"
  | macosRecoveryFiles => "macos_recovery_files"
  | scanDriverDirs => "scan_driver_dirs"
  | extraKernelVersionStrings => "extra_kernel_version_strings"
  | linuxPrefixes => "linux_prefixes"

theorem mem_all (field : ListField) : field ∈ all := by
  cases field <;> decide

end ListField

namespace Switch

/-- Every switch, in order. -/
def all : List Switch :=
  [shutdownAfterTimeout, useNvram, deepLegacyScan, textOnly, scanAllLinux, foldLinuxKernels,
    enableAndLockVmx, writeSystemdVars, enableMouse, enableTouch, transientBoot, ignoreHiddenIcons,
    externalHiddenIcons, preferHiddenIcons, textRenderer, ugaPassThrough, provideConsoleGop,
    useDirectGop, continueOnWarning, forceTrim, disableCompatCheck, disableAmfi, normaliseCsr,
    reloadGop, supplyNvme, supplyApfs, supplyUefi, silenceApfs, syncApfs, protectNvram,
    scanOtherEsp, tagsHelp]

/-- The name of a switch. -/
def name : Switch → String
  | shutdownAfterTimeout => "shutdown_after_timeout"
  | useNvram => "use_nvram"
  | deepLegacyScan => "deep_legacy_scan"
  | textOnly => "text_only"
  | scanAllLinux => "scan_all_linux"
  | foldLinuxKernels => "fold_linux_kernels"
  | enableAndLockVmx => "enable_and_lock_vmx"
  | writeSystemdVars => "write_systemd_vars"
  | enableMouse => "enable_mouse"
  | enableTouch => "enable_touch"
  | transientBoot => "transient_boot"
  | ignoreHiddenIcons => "ignore_hidden_icons"
  | externalHiddenIcons => "external_hidden_icons"
  | preferHiddenIcons => "prefer_hidden_icons"
  | textRenderer => "text_renderer"
  | ugaPassThrough => "uga_pass_through"
  | provideConsoleGop => "provide_console_gop"
  | useDirectGop => "use_direct_gop"
  | continueOnWarning => "continue_on_warning"
  | forceTrim => "force_trim"
  | disableCompatCheck => "disable_compat_check"
  | disableAmfi => "disable_amfi"
  | normaliseCsr => "normalise_csr"
  | reloadGop => "reload_gop"
  | supplyNvme => "supply_nvme"
  | supplyApfs => "supply_apfs"
  | supplyUefi => "supply_uefi"
  | silenceApfs => "silence_apfs"
  | syncApfs => "sync_apfs"
  | protectNvram => "protect_nvram"
  | scanOtherEsp => "scan_other_esp"
  | tagsHelp => "tags_help"

theorem mem_all (field : Switch) : field ∈ all := by
  cases field <;> decide

end Switch

/-- The name of a way to draw the banner. -/
def BannerScale.name : BannerScale → String
  | native => "NoScale"
  | fillScreen => "FillScreen"

/-- Every way to draw the banner, in order. -/
def BannerScale.all : List BannerScale :=
  [native, fillScreen]

end BootManager.Config
