import BootManager.Config.Context
import BootManager.Firmware.FileSystem
import BootManager.Volume.Classify

/-!
# Filesystems in use

What a scan and the reader of a configuration see of a filesystem. They ask without fear: what goes
wrong is reported, and is an answer like any other.
-/

namespace BootManager.Firmware.FileSystem

/-- An answer, where a failure is reported as a detail and is no answer. -/
def answer {α : Type} : Except FileError α → Logged (Option α)
  | .ok a => pure (some a)
  | .error error => do
    Logged.debug error.message
    pure none

/-- A filesystem as a scan sees it. -/
def volumeFs (fs : FileSystem) : VolumeFs where
  label := answer (fs.ask readLabel)
  size := answer (fs.ask readSize)
  holds path := pure ((fs.holdsText path).toOption.getD false)

/-- A filesystem as the reader of a configuration sees it. -/
def source (fs : FileSystem) : Config.Source where
  read path :=
    match fs.readText path with
    | .ok bytes => pure (some bytes)
    | .error failure => do
      Logged.debug s!"\"{path}\": {failure.summary}"
      pure none
  holds path :=
    match fs.holdsText path with
    | .ok found => pure found
    | .error failure => do
      Logged.warn s!"\"{path}\": {failure.summary}"
      pure false

end BootManager.Firmware.FileSystem
