import BootManager.Failure
import BootManager.Guid
import BootManager.Log
import BootManager.Text.Ascii
import BootManager.Variable.Value

/-!
# Variables

A variable has a namespace and a name. The boot manager's own variables are kept in a directory,
unless they are to go to the firmware like all others. A value that is stored already is not written
again.
-/

namespace BootManager

/-- A place where variables are kept; `σ` is everything that reading and writing them can
depend on. -/
structure VariableBackend (σ : Type) where
  /-- Reads a variable, if it is there. -/
  get : Guid → String → StateT σ Logged (Except Failure (Option Bytes))
  /-- Writes a variable, or deletes it if there is nothing to write. The last argument tells whether
  it is to outlast a restart. -/
  set : Guid → String → Bytes → Bool → StateT σ Logged (Except Failure Unit)

/-- Where variables go. -/
structure VariableStore (σ : Type) where
  firmware : VariableBackend σ
  /-- The directory for the boot manager's own variables, if there is one. -/
  disk : Option (VariableBackend σ)
  /-- Whether the boot manager's own variables go to the firmware. -/
  useNvram : Bool

namespace VariableStore

variable {σ : Type}

/-- The boot manager's own namespace. -/
def ownVendor : Guid := ⟨0xF8800DA7DF1F4A168FE37243DBB787CA#128⟩

/-- The namespace of variables about starting machines made by Apple. -/
def appleVendor : Guid := ⟨0x7C436110AB2A4BBBA880FE41995C9F82#128⟩

/-- The variable that holds the active protection mask. -/
def csrName : String := "csr-active-config"

/-- The variables that make a machine start its recovery system. -/
def recoveryNames : List String :=
  ["recovery-boot-mode", "internet-recovery-mode", "RecoveryBootInitiator"]

/-- The lists of hidden entries, which are written even if nothing changes. -/
def hiddenLists : List String :=
  ["HiddenTags", "HiddenTools", "HiddenLegacy", "HiddenFirmware"]

/-- The largest value that is stored. -/
def maxSize : Nat := 64 * 1024

/-- Whether a variable is a list of hidden entries. -/
def isHiddenList (name : String) : Bool :=
  hiddenLists.any fun list => Text.sameIgnoringCase list name

/-- The bytes of a value before its first zero. -/
def textOf (bytes : Bytes) : Bytes :=
  bytes.takeWhile (· != 0)

/-- Whether a stored value holds a new one already: it is the same, or has it in it as a text. -/
def holdsValue (old new : Bytes) : Bool :=
  old == new || (!(textOf new).isEmpty && Text.containsRun (textOf new) (textOf old))

/-- Where the variables of a namespace are kept. -/
def backend (store : VariableStore σ) (vendor : Guid) : Except Failure (VariableBackend σ) :=
  if vendor = ownVendor ∧ store.useNvram = false then
    match store.disk with
    | some disk => .ok disk
    | none => .error (.stored .noDirectory)
  else .ok store.firmware

/-- Reads the bytes of a variable. -/
def getRaw (store : VariableStore σ) (vendor : Guid) (name : String) :
    StateT σ Logged (Except Failure (Option Bytes)) :=
  match store.backend vendor with
  | .error failure => pure (.error failure)
  | .ok backend => backend.get vendor name

/-- Whether a variable can be read and holds a value already. -/
def isHeld (backend : VariableBackend σ) (vendor : Guid) (name : String) (data : Bytes) :
    StateT σ Logged Bool :=
  if data.isEmpty || isHiddenList name then pure false
  else do
    match ← backend.get vendor name with
    | .ok (some old) => pure (holdsValue old data)
    | _ => pure false

/-- Writes the bytes of a variable, unless it holds them already. -/
def setRaw (store : VariableStore σ) (vendor : Guid) (name : String) (data : Bytes)
    (persistent : Bool) : StateT σ Logged (Except Failure Unit) :=
  if data.length > maxSize then pure (.error (.stored (.tooLarge data.length)))
  else
    match store.backend vendor with
    | .error failure => pure (.error failure)
    | .ok backend => do
      if ← isHeld backend vendor name data then pure (.error (.stored (.unchanged name)))
      else
        Logged.debug s!"Saving \"{name}\""
        backend.set vendor name data persistent

/-- Reads a variable. -/
def get {α : Type} [Storable α] (store : VariableStore σ) (vendor : Guid) (name : String) :
    StateT σ Logged (Except Failure α) := do
  let stored ← store.getRaw vendor name
  pure (stored.map fun bytes => (bytes.map Storable.ofBytes).getD Storable.missing)

/-- Writes a variable, or deletes it if there is no value. -/
def set {α : Type} [Storable α] (store : VariableStore σ) (vendor : Guid) (name : String)
    (value : Option α) : StateT σ Logged (Except Failure Unit) :=
  store.setRaw vendor name ((value.map Storable.toBytes).getD []) true

/-- Reads the active protection mask. -/
def activeCsr (store : VariableStore σ) : StateT σ Logged (Except Failure (Option UInt32)) := do
  let stored ← store.getRaw appleVendor csrName
  pure (stored.map fun bytes => (bytes.filter fun b => 4 ≤ b.length).map Storable.ofBytes)

/-- Writes the active protection mask. -/
def setActiveCsr (store : VariableStore σ) (mask : UInt32) :
    StateT σ Logged (Except Failure Unit) :=
  store.setRaw appleVendor csrName (Storable.toBytes mask) true

/-- Deletes variables of firmware made by Apple, and counts those that were there. -/
def clear (store : VariableStore σ) : List String → StateT σ Logged (Except Failure Nat)
  | [] => pure (.ok 0)
  | name :: rest => do
    match ← store.getRaw appleVendor name with
    | .error failure => pure (.error failure)
    | .ok none => store.clear rest
    | .ok (some _) =>
      match ← store.setRaw appleVendor name [] true with
      | .error failure => pure (.error failure)
      | .ok () =>
        let cleared ← store.clear rest
        pure (cleared.map (· + 1))

/-- Deletes the variables that make a machine start its recovery system, and counts them. -/
def clearRecovery (store : VariableStore σ) : StateT σ Logged (Except Failure Nat) :=
  store.clear recoveryNames

end VariableStore

end BootManager
