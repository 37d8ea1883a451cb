import BootManager.Text.Blank
import BootManager.Volume.PartitionType

/-!
# Names of volumes

The name that a volume is shown by, from the best that is known about it.
-/

namespace BootManager.Volume

/-- The letters of binary units, in order. -/
def unitLetters : List Char := ['K', 'M', 'G', 'T', 'P', 'E', 'Z']

/-- Divides a size into larger units while it is above 1024, with the letter of the last unit. -/
def scale (letter : Option Char) (size : Nat) : List Char → Option Char × Nat
  | [] => (letter, size)
  | next :: more => if size > 1024 then scale (some next) (size / 1024) more else (letter, size)

/-- A size in bytes in the unit that suits it, rounded down. -/
def sizeText (bytes : Nat) : String :=
  match scale none bytes unitLetters with
  | (none, size) => toString size ++ "-byte"
  | (some letter, size) => toString size ++ " " ++ String.singleton letter ++ "iB"

/-- Names that partitioning tools give unasked, which tell nothing. -/
def meaninglessNames : List String :=
  ["Microsoft basic data", "Linux filesystem", "Apple HFS/HFS+"]

/-- The label of the filesystem as a name. Firmware may take one kind of filesystem for another. -/
def nameOfLabel? (v : Volume) : Option String :=
  match v.fsName.filter (· != "") with
  | some label => some (if v.fsType = .exFat ∧ label = "FAT" then "ExFAT" else label)
  | none => none

/-- The name of the partition, unless it tells nothing. -/
def nameOfPartition? (v : Volume) : Option String :=
  v.partName.filter fun name => name != "" && !meaninglessNames.contains name

/-- The name of a medium in an optical drive. -/
def nameOfMedium? (v : Volume) : Option String :=
  if v.diskKind = .optical then
    some (if v.fsType = .iso9660 then "Optical ISO-9660 Image" else "Optical Disc Drive")
  else none

/-- What is known of the filesystem, as a name. -/
def nameOfFilesystem (v : Volume) : String :=
  match v.fsSize, v.fsType with
  | some size, fsType => sizeText size ++ " " ++ fsType.name ++ " Volume"
  | none, .apfs => "APFS Volume (Assumed)"
  | none, .unknown => "Unknown Volume"
  | none, fsType => fsType.name ++ " Volume"

/-- The name that suits a volume best. -/
def displayName (v : Volume) : String :=
  (v.nameOfLabel? <|> v.nameOfPartition? <|> v.nameOfMedium? <|>
    v.partType.bind PartitionType.name?).getD v.nameOfFilesystem

/-- A name without blanks at its ends and without control characters. -/
def sanitize (name : String) : String :=
  String.ofList ((Text.trim name.toList).filter fun c => !Text.isControl c)

end BootManager.Volume
