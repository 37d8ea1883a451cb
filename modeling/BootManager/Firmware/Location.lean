import BootManager.Config.Context
import BootManager.Config.Path
import BootManager.Config.TimeOfDay
import BootManager.Firmware.Machine
import BootManager.Firmware.Mounted

/-!
# Where the boot manager runs

What the machine tells about itself: where the boot manager was started from, who made the firmware,
and what time it is. A machine that does not tell is no reason to stop, as long as there is an
image.
-/

namespace BootManager.Firmware

/-- Where the boot manager was started from. -/
structure ImageLocation where
  /-- The handle of the device. -/
  device : Option Nat
  /-- The directory of its file. -/
  dir : String
  deriving DecidableEq, Repr

namespace Machine

/-- The directory that the boot manager was started from, empty if it is not told. -/
def imageDir (m : Machine) (image : Image) : Logged String :=
  match image.path, m.pathTextFault with
  | none, _ => pure ""
  | some path, none => pure (Config.Path.directory path)
  | some _, some status => do
    Logged.warn (Failure.firmware status).summary
    pure ""

/-- Where the boot manager was started from. -/
def location (m : Machine) : Logged (Except Failure ImageLocation) :=
  match m.image with
  | none => pure (.error (.firmware .unsupported))
  | some image => do
    let dir ← m.imageDir image
    pure (.ok ⟨image.device, dir⟩)

/-- Whether the firmware was made by Apple. -/
def isApple (m : Machine) : Bool :=
  Text.containsRun "Apple".toList m.vendor.toList

/-- How systems of the old kind are started. -/
def legacyBoot (m : Machine) (appleFirmware : Bool) : LegacyBoot :=
  if appleFirmware then .mac else if m.hasCsm then .uefi else .none

/-- The time in minutes past midnight, if the clock shows one. -/
def minuteOfDay (m : Machine) : Logged (Option UInt32) :=
  match m.clock with
  | none => do
    Logged.warn s!"{(Failure.firmware .deviceError).summary} {Status.deviceError.name}: ()"
    pure none
  | some time =>
    let minute := time.hour * 60 + time.minute
    if minute > Config.TimeOfDay.lastMinute.toNat then do
      Logged.warn s!"Impossible system time: {time.hour}:{time.minute}"
      pure none
    else pure (some (UInt32.ofNat minute))

/-- The surroundings of a configuration that is read on a machine. -/
def context (m : Machine) (volumes : List Volume) (selfVolume : Option Nat)
    (location : ImageLocation) : Logged Config.Context := do
  let minuteOfDay ← m.minuteOfDay
  pure
    { appleFirmware := m.isApple
      arch := .x64
      selfVolume
      selfDir := location.dir
      minuteOfDay
      volumes }

end Machine

end BootManager.Firmware
