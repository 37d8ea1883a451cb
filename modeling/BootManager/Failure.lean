import BootManager.Volume.Device

/-!
# Failures

What an operation of the boot manager can fail with, by cause. Every cause has a text of its own,
and all failures of one kind share a summary.
-/

namespace BootManager

/-- What can go wrong with a file. -/
inductive FileError where
  /-- Writing failed after a number of bytes. -/
  | writing (status : Status) (written : Nat)
  | opening (status : Status)
  | reading (status : Status)
  | deleting (status : Status)
  | flushing (status : Status)
  | volumeLabel
  | volumeSize
  | invalidPath (path : String)
  deriving DecidableEq, Repr

/-- What is reported about an error with a file. -/
def FileError.message : FileError → String
  | writing status written =>
    "Could not write to file: returned status " ++ status.name ++ " (" ++ toString written ++
      " bytes written)"
  | opening _ => "Failed to open file"
  | reading _ => "Failed to read file"
  | deleting _ => "Failed to delete file"
  | flushing _ => "Failed to flush file"
  | volumeLabel => "Could not get volume label of a partition"
  | volumeSize => "Could not get volume size of a partition"
  | invalidPath path => "Invalid path \"" ++ path ++ "\""

/-- What can go wrong with a stored variable. -/
inductive VariableError where
  /-- There is no directory to keep variables in. -/
  | noDirectory
  /-- The variable holds the value already. -/
  | unchanged (name : String)
  | tooLarge (size : Nat)
  /-- The stored value makes no sense. -/
  | corrupt (name : String)
  deriving DecidableEq, Repr

/-- What is reported about an error with a variable. -/
def VariableError.message : VariableError → String
  | noDirectory =>
    "No vars directory is available, set 'use_nvram' to store variables in NVRAM"
  | unchanged name => "Variable \"" ++ name ++ "\" already holds this value"
  | tooLarge size => "Variable value is too large (" ++ toString size ++ " bytes)"
  | corrupt name => "Variable \"" ++ name ++ "\" holds a malformed value"

/-- Why an operation failed. -/
inductive Failure where
  | firmware (status : Status)
  /-- A text has characters that the firmware has no code for. -/
  | text
  | file (error : FileError)
  | scan (error : ScanError)
  | stored (error : VariableError)
  deriving DecidableEq, Repr

namespace Failure

/-- The kind of a failure in words. -/
def summary : Failure → String
  | firmware _ => "UEFI Error"
  | text => "String Conversion Error"
  | file _ => "Filesystem Error"
  | scan _ => "Volume Scan Error"
  | stored _ => "Variable Error"

/-- The cause of a failure in words. -/
def message : Failure → String
  | firmware _ => "UEFI Error"
  | text => "Could not convert String to CString16"
  | file error => error.message
  | scan error => error.message
  | stored error => error.message

end Failure

end BootManager
