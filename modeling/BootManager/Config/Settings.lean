import BootManager.Config.Flags
import BootManager.Config.Table
import BootManager.Config.Tool
import BootManager.Log
import BootManager.Text.Blank

/-!
# Settings

Everything that the lines of a configuration can set. Settings that only differ in which value they
hold are kept in tables by kind; the others, which have rules of their own, are fields.
-/

namespace BootManager.Config

/-- The signed numbers. -/
inductive SignedField where
  /-- Seconds of inactivity before the screen is blanked. -/
  | screensaver
  /-- The scale of the interface, 0 to choose one. -/
  | scaleUi
  /-- The protection mask to activate on start. -/
  | activeCsr
  deriving DecidableEq, Repr

/-- The unsigned numbers. -/
inductive UnsignedField where
  /-- Seconds to wait before loaders are looked for. -/
  | scanDelay
  /-- The text mode to switch to. -/
  | textMode
  /-- The most entries in the first row, 0 for any number. -/
  | maxTags
  deriving DecidableEq, Repr

/-- The texts, each of which may be unset. -/
inductive TextField where
  | iconsDir
  | setBootArgs
  | banner
  | selectionSmall
  | selectionBig
  | defaultSelection
  | spoofOsxVersion
  | font
  deriving DecidableEq, Repr

/-- The lists of texts. -/
inductive ListField where
  | alsoScanDirs
  | dontScanDirs
  | dontScanFiles
  | dontScanTools
  | dontScanFirmware
  | dontScanVolumes
  | windowsRecoveryFiles
  | macosRecoveryFiles
  | scanDriverDirs
  | extraKernelVersionStrings
  | linuxPrefixes
  deriving DecidableEq, Repr

/-- What can be on or off. -/
inductive Switch where
  | shutdownAfterTimeout
  | useNvram
  | deepLegacyScan
  | textOnly
  | scanAllLinux
  | foldLinuxKernels
  | enableAndLockVmx
  | writeSystemdVars
  | enableMouse
  | enableTouch
  | transientBoot
  | ignoreHiddenIcons
  | externalHiddenIcons
  | preferHiddenIcons
  | textRenderer
  | ugaPassThrough
  | provideConsoleGop
  | useDirectGop
  | continueOnWarning
  | forceTrim
  | disableCompatCheck
  | disableAmfi
  | normaliseCsr
  | reloadGop
  | supplyNvme
  | supplyApfs
  | supplyUefi
  | silenceApfs
  | syncApfs
  | protectNvram
  | scanOtherEsp
  | tagsHelp
  deriving DecidableEq, Repr

/-- How the banner image is drawn. -/
inductive BannerScale where
  /-- At its own size. -/
  | native
  /-- Stretched to the whole screen. -/
  | fillScreen
  deriving DecidableEq, Repr

/-- The sizes of icons and of the mouse pointer, in pixels. -/
structure IconSizes where
  badge : UInt32
  small : UInt32
  big : UInt32
  mouse : UInt32
  deriving DecidableEq, Repr

/-- A colour, which is usable if every component is at most 255. -/
structure Colour where
  red : Int32
  green : Int32
  blue : Int32
  deriving DecidableEq, Repr

/-- Whether a colour can be shown. -/
def Colour.isValid (c : Colour) : Bool :=
  let inRange (x : Int32) : Bool := 0 ≤ x && x ≤ 255
  inRange c.red && inRange c.green && inRange c.blue

/-- How many scan targets there are. -/
def scanSlotCount : Nat := 11

/-- The scan targets in order, a blank for none. -/
abbrev ScanSlots := Vector Char scanSlotCount

/-- The scan targets given by the first characters of a text, with blanks after them. -/
def ScanSlots.ofChars (cs : List Char) : ScanSlots :=
  Vector.ofFn fun i => cs.getD i.val ' '

/-- Every setting of the boot manager. -/
structure Settings where
  /-- Seconds until the default entry is booted, 0 to wait for ever. -/
  timeout : Int32
  /-- Boot the default entry without a menu. -/
  directBoot : Bool
  signed : Table SignedField Int32
  /-- How much is reported, from 0 to 4. -/
  logLevel : Int32
  unsigned : Table UnsignedField UInt32
  /-- The speed of the mouse pointer, from 1 to 32. -/
  mouseSpeed : UInt32
  icons : IconSizes
  text : Table TextField (Option String)
  list : Table ListField (List String)
  /-- The protection masks that can be chosen in turn. -/
  csrValues : List UInt32
  hidden : HideSet
  graphicsFor : LoaderSet
  bannerScale : BannerScale
  scanFor : ScanSlots
  tools : ToolRow
  /-- Whether the manager of hidden entries is among the tools. -/
  hiddenTags : Bool
  /-- The screen width asked for, 0 to keep it. -/
  width : UInt32
  /-- The screen height asked for, 0 to choose by width alone. -/
  height : UInt32
  background : Colour
  /-- Whether `background` replaces the background of the screen. -/
  customBackground : Bool
  switch : Table Switch Bool

namespace Settings

/-- The text mode that leaves the text mode alone. -/
def keepTextMode : UInt32 := 1024

/-- The tools shown when no line names any. -/
def defaultTools : List Tool :=
  [.shell, .memtest, .gdisk, .appleRecovery, .windowsRecovery, .mokTool, .about, .hidden, .shutdown,
    .reboot, .firmware, .fwupdateTool]

/-- The scan targets that are looked at when no line names any. Firmware made by Apple also starts
loaders of other kinds. -/
def defaultScanFor (appleFirmware : Bool) : ScanSlots :=
  .ofChars (if appleFirmware then "ihebocm" else "ieom").toList

/-- The settings before any line is read. -/
def default (appleFirmware : Bool) : Settings where
  timeout := 0
  directBoot := false
  signed := .const 0
  logLevel := 0
  unsigned := (Table.const 0).set .textMode keepTextMode
  mouseSpeed := 4
  icons := ⟨32, 48, 128, 16⟩
  text := .const none
  list := .const []
  csrValues := []
  hidden := .empty
  graphicsFor := LoaderSet.empty.insert .osx
  bannerScale := .native
  scanFor := defaultScanFor appleFirmware
  tools := .ofSlots (defaultTools.map some)
  hiddenTags := true
  width := 0
  height := 0
  background := ⟨0, 0, 0⟩
  customBackground := false
  switch := ((Table.const false).set .scanAllLinux true).set .foldLinuxKernels true

/-- The scan targets as a text, without the blanks at the end. -/
def scanTargets (s : Settings) : String :=
  String.ofList (Text.dropTrailing Text.isBlank s.scanFor.toList)

/-- The messages that are shown with these settings. -/
def level (s : Settings) : Level :=
  .ofVerbosity s.logLevel

end Settings

end BootManager.Config
