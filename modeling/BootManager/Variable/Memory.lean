import BootManager.Variable.Store

/-!
# Variables in memory

A bank keeps variables as a list. A machine without disk or lasting memory has two: one in place of
the firmware, and one in place of the directory.
-/

namespace BootManager

/-- A variable that is kept in memory. -/
structure StoredVariable where
  vendor : Guid
  name : String
  data : Bytes
  deriving DecidableEq, Repr

/-- Whether a variable has a namespace and a name. -/
def StoredVariable.isCalled (v : StoredVariable) (vendor : Guid) (name : String) : Bool :=
  v.vendor == vendor && v.name == name

/-- Variables in memory, each at most once. -/
abbrev VariableBank := List StoredVariable

namespace VariableBank

/-- The value of a variable, if it is there. -/
def get? (bank : VariableBank) (vendor : Guid) (name : String) : Option Bytes :=
  (bank.find? fun v => v.isCalled vendor name).map (·.data)

/-- Writes a variable, or deletes it if there is nothing to write. -/
def put (bank : VariableBank) (vendor : Guid) (name : String) (data : Bytes) : VariableBank :=
  (bank.filter fun v => !v.isCalled vendor name) ++
    if data.isEmpty then [] else [⟨vendor, name, data⟩]

end VariableBank

/-- The variables of a machine that keeps them in memory. -/
structure VariableBanks where
  firmware : VariableBank
  disk : VariableBank
  deriving DecidableEq, Repr

namespace VariableBanks

/-- No variables. -/
def empty : VariableBanks := ⟨[], []⟩

/-- The variables in place of the firmware's. -/
def firmwareBackend : VariableBackend VariableBanks where
  get vendor name := do
    let banks ← StateT.get
    pure (.ok (banks.firmware.get? vendor name))
  set vendor name data _ := do
    modify fun banks => { banks with firmware := banks.firmware.put vendor name data }
    pure (.ok ())

/-- The variables in place of the directory's. -/
def diskBackend : VariableBackend VariableBanks where
  get vendor name := do
    let banks ← StateT.get
    pure (.ok (banks.disk.get? vendor name))
  set vendor name data _ := do
    modify fun banks => { banks with disk := banks.disk.put vendor name data }
    pure (.ok ())

/-- A store on these variables, with a directory or without one. -/
def store (hasDisk useNvram : Bool) : VariableStore VariableBanks where
  firmware := firmwareBackend
  disk := if hasDisk then some diskBackend else none
  useNvram := useNvram

end VariableBanks

end BootManager
