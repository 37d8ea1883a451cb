import BootManager.Config.Context
import BootManager.Config.Path
import BootManager.Config.Settings

/-!
# Settings around a configuration

What a primary file starts from, and the rules that are applied once all lines were read: they fill
in what no line gave and settle what settings have to do with each other.
-/

namespace BootManager.Config.Defaults

/-- Where memory tests are usually installed. -/
def memtestDirs : List String :=
  ["\\EFI\\tools\\memtest86", "\\EFI\\tools\\memtest", "\\EFI\\memtest86", "\\EFI\\memtest",
    "\\EFI\\BOOT\\tools", "\\EFI\\BOOT\\tools_x64", "\\EFI\\tools_x64", "\\EFI\\tools", "\\EFI"]

/-- Where kernels are looked for on every volume. -/
def kernelDirs : List String :=
  ["boot", "@\\boot"]

/-- How the names of kernels start. -/
def linuxPrefixes : List String :=
  ["vmlinuz", "bzImage", "kernel"]

/-- The label of a recovery partition that holds no system. -/
def recoveryLabel : String := "LRS_ESP"

/-- The loader of a recovery system, relative to its volume. -/
def macosRecoveryFile : String := "com.apple.recovery.boot\\boot.efi"

/-- The file of a name with the machine's suffix, if it has one. -/
def suffixed (arch : Architecture) (stem ending : String) : List String :=
  match arch.suffix with
  | some suffix => [stem ++ suffix ++ ending]
  | none => []

/-- First loaders, which only start another one. -/
def shimFiles (arch : Architecture) : List String :=
  ["shim.efi"] ++ suffixed arch "shim" ".efi" ++
    ["shim-fedora.efi", "shim-centos.efi", "PreLoader.efi", "fb.efi"] ++ suffixed arch "fb" ".efi"

/-- Managers of the machine owner's keys, which are tools. -/
def mokFiles (arch : Architecture) : List String :=
  ["MokManager.efi", "HashTool.efi", "HashTool-signed.efi", "KeyTool.efi", "KeyTool-signed.efi"] ++
    suffixed arch "mm" ".efi"

/-- Firmware updaters, which are tools. -/
def fwupdateFiles (arch : Architecture) : List String :=
  ["fwup" ++ arch.suffix.getD "" ++ ".efi"]

/-- Loaders of recovery systems. What stands before a colon is the volume they are on. -/
def windowsRecoveryFiles (arch : Architecture) : List String :=
  ["\\EFI\\Microsoft\\Boot\\LrsBootmgr.efi"] ++
    suffixed arch "Recovery:\\EFI\\BOOT\\boot" ".efi" ++
    ["Recovery:\\EFI\\BOOT\\boot.efi", "\\EFI\\OEM\\Boot\\bootmgfw.efi"]

/-- The boot manager's own directory as one that is not scanned. With the identifier of its
partition, the same directory on other volumes still is. -/
def ownDir (ctx : Context) : List String :=
  if ctx.selfDir = "" then []
  else
    match ctx.selfPartGuid with
    | some guid => [guid ++ ":" ++ Path.clean ctx.selfDir]
    | none => [Path.clean ctx.selfDir]

/-- The lists that a primary file starts with. -/
def lists (ctx : Context) : ListField → Option (List String)
  | .alsoScanDirs => some kernelDirs
  | .dontScanDirs => some (ownDir ctx ++ memtestDirs)
  | .dontScanFiles => some (shimFiles ctx.arch ++ mokFiles ctx.arch ++ fwupdateFiles ctx.arch)
  | .dontScanTools => some []
  | .dontScanFirmware => some []
  | .dontScanVolumes => some [recoveryLabel]
  | .windowsRecoveryFiles => some (windowsRecoveryFiles ctx.arch)
  | .macosRecoveryFiles => some [macosRecoveryFile]
  | _ => none

end Defaults

namespace Settings

/-- The settings at the start of a primary file. -/
def withDefaults (ctx : Context) (s : Settings) : Settings :=
  { s with
    list := fun field => (Defaults.lists ctx field).getD (s.list.get field)
    text := s.text.set .defaultSelection (some "+") }

/-- Puts the manager of hidden entries into the first blank slot, or after the last one. -/
def showHidden (slots : List (Option Tool)) : List (Option Tool) :=
  match slots with
  | [] => [some .hidden]
  | none :: rest => some .hidden :: rest
  | slot :: rest => slot :: showHidden rest

/-- Shows the manager of hidden entries if it is asked for and there is room. -/
def withTagsHelp (s : Settings) : Logged Settings :=
  if s.switch.get .tagsHelp = true ∧ s.tools.contains .hidden = false then
    let slots := showHidden s.tools.slots
    if room : slots.length ≤ toolLimit then
      pure { s with tools := ⟨slots, room⟩, hiddenTags := true }
    else do
      Logged.warn "No room left for hidden_tags in showtools"
      pure s
  else pure s

/-- The names of a list followed by those of another that it did not have. -/
def union (names more : List String) : List String :=
  more.foldl (fun all name => if all.contains name then all else all ++ [name]) names

/-- The settings once every line was read. `hasIcons` tells whether a directory of icons
was found. -/
def finish (ctx : Context) (hasIcons : Bool) (s : Settings) : Logged Settings := do
  let s ← s.withTagsHelp
  let files := union (s.list.get .dontScanFiles) (s.list.get .windowsRecoveryFiles)
  let prefixes := s.list.get .linuxPrefixes
  let prefixes := if prefixes.isEmpty then Defaults.linuxPrefixes else prefixes
  if hasIcons = false ∧ s.switch.get .textOnly = false then
    Logged.debug "No icons directory found, using text mode"
  let textOnly := s.switch.get .textOnly || !hasIcons
  let protect := s.switch.get .protectNvram && ctx.appleFirmware
  let mouse := s.switch.get .enableMouse && !s.switch.get .enableTouch
  pure { s with
    list := (s.list.set .dontScanFiles files).set .linuxPrefixes prefixes
    switch := ((s.switch.set .textOnly textOnly).set .protectNvram protect).set .enableMouse mouse }

end Settings

end BootManager.Config
