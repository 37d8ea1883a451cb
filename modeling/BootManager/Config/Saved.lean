import BootManager.Config.Snapshot
import BootManager.Variable.Store

/-!
# Settings that are kept

A snapshot of the settings is kept in one of the boot manager's variables.
-/

namespace BootManager.Config.Settings

variable {σ : Type}

/-- The variable that holds the settings. -/
def variableName : String := "RefitSettings"

/-- Keeps the settings. -/
def save (store : VariableStore σ) (s : Settings) : StateT σ Logged (Except Failure Unit) :=
  store.setRaw VariableStore.ownVendor variableName s.toBytes true

/-- The settings that were kept, if there are any. -/
def restore (store : VariableStore σ) : StateT σ Logged (Except Failure (Option Settings)) := do
  match ← store.getRaw VariableStore.ownVendor variableName with
  | .error failure => pure (.error failure)
  | .ok none => pure (.ok none)
  | .ok (some bytes) =>
    match ofBytes? bytes with
    | some s => pure (.ok (some s))
    | none => pure (.error (.stored (.corrupt variableName)))

end BootManager.Config.Settings
