import BootManager.CommandLine.Dump
import BootManager.Config.Load
import BootManager.Config.Saved
import BootManager.Firmware.Loaders
import BootManager.Firmware.Location
import BootManager.Firmware.Scan
import BootManager.Firmware.Variables

/-!
# Sessions

A session starts by reading the configuration, scanning the volumes as it says, and reading it once
more for what it says about them. Then everything that was found can be shown or kept.
-/

namespace BootManager.CommandLine

open Firmware

/-- The file that the configuration starts at. -/
def configFile : String := "refind.conf"

/-- What is known before volumes are scanned. -/
structure EarlySession where
  location : ImageLocation
  /-- The handle of the filesystem that the configuration is read from, which is held. -/
  home : Nat
  settings : Config.Settings

/-- What is known after the start. -/
structure Session where
  location : ImageLocation
  set : VolumeSet
  loaded : Config.Loaded

namespace EarlySession

/-- Reads the configuration for what it says about the scan. -/
def start : Attempt EarlySession := do
  let m ← get
  let location ← ofExcept (← m.location)
  let home ← Attempt.holdImageFs
  let fs ← Attempt.fsOf home
  let ctx ← m.context [] none location
  let loaded ← Config.load fs.source ctx configFile
  pure ⟨location, home, loaded.settings⟩

/-- What the scan is asked to do. -/
def scanOptions (early : EarlySession) (m : Machine) : ScanOptions where
  legacy := m.legacyBoot m.isApple
  appleFirmware := m.isApple
  scanOtherEsp := early.settings.switch.get .scanOtherEsp
  syncApfs := early.settings.switch.get .syncApfs

/-- Scans the volumes and reads the configuration again. -/
def scan (early : EarlySession) : Attempt Session := do
  let m ← get
  let set ← ofExcept (← m.scan (early.scanOptions m) early.location.device)
  let fs ← Attempt.fsOf early.home
  let ctx ← m.context set.volumes set.selfVolume early.location
  let loaded ← Config.load fs.source ctx configFile
  pure ⟨early.location, set, loaded⟩

/-- The session after the scan. The filesystem of the configuration is let go of. -/
def finish (early : EarlySession) : Attempt Session :=
  Attempt.releasing early.home early.scan

end EarlySession

/-- What is remarkable about a volume at its place. -/
def volumeMarks (set : VolumeSet) (place : Nat) (v : Volume) : List String :=
  (if set.selfVolume = some place then ["self"] else []) ++
    (if v.isEsp then ["esp"] else []) ++
    (if v.isReadable then [] else ["skipped"]) ++
    (if v.hasBootCode then ["bootcode"] else []) ++
    (if v.isDiscoveredRoot then ["root"] else [])

/-- The line of a volume at its place. -/
def volumeLine (set : VolumeSet) (place : Nat) (v : Volume) : String :=
  s!"{place}: {v.name} ({v.fsType.name}, {v.diskKind.name}) [" ++
    ",".intercalate (volumeMarks set place v) ++ "]"

namespace Session

/-- The lines for what an entry can be started with. -/
def optionLines (session : Session) (entry : Config.MenuEntry) : Attempt (List String) := do
  match entry.options with
  | some options => pure [s!"    options: {options}"]
  | none =>
    match ← (Attempt.kernelOptions session.set entry.volume (entry.loader.getD "")).outcome with
    | .ok found => pure (found.map fun k => s!"    {k.title}: {k.options}")
    | .error failure => pure [s!"    Error: {failure.summary}"]

/-- Prints an entry at its place. -/
def printEntry (session : Session) (place : Nat) (entry : Config.MenuEntry) : Attempt Unit := do
  let loader := entry.loader.getD ""
  Attempt.printLine s!"{place}: {entry.title} ({loader})"
  let lines ← session.optionLines entry
  lines.forM Attempt.printLine
  entry.submenus.forM fun sub => Attempt.printLine s!"    - {sub.title}"

/-- Prints every volume. -/
def printVolumes (session : Session) : Attempt Unit :=
  session.set.volumes.zipIdx.forM fun (v, place) =>
    Attempt.printLine (volumeLine session.set place v)

/-- Prints the settings. -/
def printSettings (session : Session) : Attempt Unit :=
  (Dump.ofSettings session.loaded.settings).forM Attempt.printLine

/-- Prints every entry. -/
def printEntries (session : Session) : Attempt Unit :=
  session.loaded.entries.zipIdx.forM fun (entry, place) => session.printEntry place entry

/-- The handle of the boot partition that the boot manager was started from, else of the
first one. -/
def espHandle (session : Session) : Option Nat :=
  let own := session.set.selfVolume.bind fun place => session.set.volumes[place]?
  ((own.filter (·.isEsp)).or (session.set.volumes.find? (·.isEsp))).bind (·.handle)

/-- Keeps the settings. -/
def save (session : Session) : Attempt Unit := do
  let settings := session.loaded.settings
  let store ← MachineStore.locate (settings.switch.get .useNvram) session.location.dir
    session.espHandle
  let saved ← ExceptT.lift (settings.save store.store)
  store.close
  ofExcept saved

/-- Keeps the settings, and prints what came of it. -/
def printSave (session : Session) : Attempt Unit := do
  match ← session.save.outcome with
  | .ok () => Attempt.printLine "Saved the settings"
  | .error failure => Attempt.printLine s!"Error: {failure.summary}"

end Session

end BootManager.CommandLine
