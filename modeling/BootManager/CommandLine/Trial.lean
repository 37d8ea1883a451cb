import BootManager.CommandLine.Run
import BootManager.Firmware.Scan

/-!
# A machine to try a configuration on

Its only disk has one system partition, where the configuration is beside the program.
-/

namespace BootManager.CommandLine.Trial

open Firmware

/-- The directory of the program. -/
def directory : String := "\\EFI\\BOOT"

/-- The filesystem with a configuration. -/
def fileSystem (configuration : Bytes) : FileSystem :=
  let empty : FileSystem :=
    { label := some "ESP", size := none, nodes := [], readOnly := false, readLimit := none
      writeLimit := none, sizeExtra := 0, faults := {} }
  empty.insert (.ofText (joinPath directory configFile)) (.file configuration)

/-- The partition, which only differs from others by what it is for. -/
def partition : PartitionRecord where
  revision := PartitionRecord.knownRevision
  kind := PartitionRecord.gptKind
  guid := PartitionType.esp
  type := PartitionType.esp
  attributes := 0
  name := Text.Utf16.encode "EFI System Partition".toList

/-- The handle of the partition. -/
def handle (configuration : Bytes) : Handle where
  path := some [⟨.connection .sata, 0⟩, ⟨.hardDrive 2 (.guid partition.guid), 0⟩]
  block := some ⟨.memory #[] Device.usualBlockSize true, true⟩
  fs := some (fileSystem configuration)
  partition := some partition
  refused := []

/-- What the program is started with. -/
def startBytes (arguments : List String) : Bytes :=
  let text := " ".intercalate (unnamed :: arguments)
  Text.Utf16.bytesOfUnits (Text.Utf16.encode text.toList ++ [0])

/-- The machine, where the program was started with some arguments. -/
def machine (configuration : Bytes) (arguments : List String) : Machine where
  vendor := "EDK II"
  hasCsm := false
  clock := none
  pathTextFault := none
  image := some ⟨some 0, some (joinPath directory unnamed), some (startBytes arguments)⟩
  handles := [handle configuration]
  nvram := []
  failGet := []
  failSet := []
  held := []
  console := ""

end BootManager.CommandLine.Trial
