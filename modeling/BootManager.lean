import BootManager.Main
import BootManager.Proofs.Config.Adjoined
import BootManager.Proofs.Config.Braces
import BootManager.Proofs.Config.CleanPath
import BootManager.Proofs.Config.Deletion
import BootManager.Proofs.Config.Encoded
import BootManager.Proofs.Config.EntryVolumes
import BootManager.Proofs.Config.FilesystemTable
import BootManager.Proofs.Config.Finish
import BootManager.Proofs.Config.HexList
import BootManager.Proofs.Config.HiddenParts
import BootManager.Proofs.Config.ListLines
import BootManager.Proofs.Config.OlderName
import BootManager.Proofs.Config.OwnLines
import BootManager.Proofs.Config.Place
import BootManager.Proofs.Config.Range
import BootManager.Proofs.Config.Reading
import BootManager.Proofs.Config.Reordered
import BootManager.Proofs.Config.Reread
import BootManager.Proofs.Config.Saved
import BootManager.Proofs.Config.Setting
import BootManager.Proofs.Config.SnapshotEnd
import BootManager.Proofs.Config.Spelling
import BootManager.Proofs.Config.Splice
import BootManager.Proofs.Config.Startable
import BootManager.Proofs.Config.SubmenuCopy
import BootManager.Proofs.Config.Swap
import BootManager.Proofs.Config.TimedSelection
import BootManager.Proofs.Firmware.FailedWrite
import BootManager.Proofs.Firmware.Scan
import BootManager.Proofs.Text.Identifier
import BootManager.Proofs.Variable.Bank
import BootManager.Proofs.Variable.Operation
import BootManager.Proofs.Variable.ReadBack
import BootManager.Proofs.Variable.StoreMap
import BootManager.Proofs.Volume.ChainWalk
import BootManager.Proofs.Volume.Container
import BootManager.Proofs.Volume.Detected
import BootManager.Proofs.Volume.ExtendedChain
import BootManager.Proofs.Volume.Find
import BootManager.Proofs.Volume.Identity
import BootManager.Proofs.Volume.Lookup
import BootManager.Proofs.Volume.Marking
import BootManager.Proofs.Volume.Numbering
import BootManager.Proofs.Volume.Sanitized
import BootManager.Proofs.Volume.SizeUnit
