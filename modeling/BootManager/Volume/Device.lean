import BootManager.Bytes
import BootManager.Status

/-!
# Block devices

A device is read in whole blocks, and answers the same read always the same way.
-/

namespace BootManager

/-- What can go wrong with the devices of a scan. -/
inductive ScanError where
  /-- A chain of partitions leads back to itself, or is too long, at this block. -/
  | malformedPartitionTable (block : Nat)
  /-- The blocks are larger than a sample. -/
  | blockSizeTooLarge (size : Nat)
  | readFailed (status : Status)
  | noMedia
  /-- The volume is not there, or its filesystem cannot be opened. -/
  | noFileSystem (place : Nat)
  deriving DecidableEq, Repr

/-- What is reported about an error of a scan. -/
def ScanError.message : ScanError → String
  | malformedPartitionTable block =>
    "Malformed partition table (EBR at block " ++ toString block ++ ")"
  | blockSizeTooLarge size => "Block size too large (" ++ toString size ++ " bytes)"
  | readFailed status => "Failed to read blocks: " ++ status.name
  | noMedia => "No media present"
  | noFileSystem place => "Volume " ++ toString place ++ " has no filesystem"

/-- A device that is read in whole blocks. -/
structure Device where
  /-- The size of a block in bytes. -/
  blockSize : Nat
  lastBlock : Nat
  /-- Whether it is a partition rather than a whole disk. -/
  isPartition : Bool
  /-- Reads a number of bytes from the start of a block. -/
  read : (lba size : Nat) → Except ScanError (Vector UInt8 size)

namespace Device

/-- The number of blocks, as a 64-bit word. -/
def blockCount (d : Device) : Nat :=
  (d.lastBlock + 1) % UInt64.size

/-- The block size of a disk of which none is known. -/
def usualBlockSize : Nat := 512

/-- Data with zeros after it, up to whole blocks and to one block at least. -/
def padded (data : Array UInt8) (blockSize : Nat) : Array UInt8 :=
  if data.size % blockSize = 0 ∧ data.size ≠ 0 then data
  else data ++ Array.replicate (blockSize - data.size % blockSize) 0

/-- Reads whole blocks of data. -/
def readData (data : Array UInt8) (blockSize lba size : Nat) :
    Except ScanError (Vector UInt8 size) :=
  if size % blockSize ≠ 0 then .error (.readFailed .badBufferSize)
  else if fits : lba * blockSize + size ≤ data.size then
    .ok ⟨data.extract (lba * blockSize) (lba * blockSize + size), by simp; omega⟩
  else .error (.readFailed .invalidParameter)

/-- A disk in memory. -/
def memory (data : Array UInt8) (blockSize : Nat) (isPartition : Bool) : Device :=
  let blockSize := if blockSize = 0 then usualBlockSize else blockSize
  let data := padded data blockSize
  { blockSize
    lastBlock := data.size / blockSize - 1
    isPartition
    read := readData data blockSize }

/-- A device of any shape whose bytes are all the same. -/
def filled (blockSize lastBlock : Nat) (isPartition : Bool) (byte : UInt8) : Device where
  blockSize := blockSize
  lastBlock := lastBlock
  isPartition := isPartition
  read _ size := .ok (Vector.replicate size byte)

/-- A device that fails every read. -/
def failing (blockSize lastBlock : Nat) (isPartition : Bool) (error : ScanError) : Device where
  blockSize := blockSize
  lastBlock := lastBlock
  isPartition := isPartition
  read _ _ := .error error

end Device

end BootManager
