import BootManager.Log
import BootManager.Text.Ascii
import BootManager.Volume.Basic

/-!
# Finding a volume

The lines of a configuration name a volume by the identifier of its partition, or else by one of its
names. Volumes are told apart by their place in a list.
-/

namespace BootManager.Volume

/-- Whether a name is there and is the one asked for, ignoring case. -/
def isNamed (name : Option String) (wanted : String) : Bool :=
  match name with
  | some name => Text.sameIgnoringCase name wanted
  | none => false

/-- The place of the first volume that has a name: its display name in any volume goes before its
partition's name, and that before the label of its filesystem. -/
def findNamed? (volumes : List Volume) (wanted : String) : Option Nat :=
  (volumes.findIdx? fun v => isNamed v.name? wanted) <|>
    (volumes.findIdx? fun v => isNamed v.partName wanted) <|>
      (volumes.findIdx? fun v => isNamed v.fsName wanted)

/-- The place of the volume that an identifier stands for. A partition's identifier is never taken
for a name. -/
def find? (volumes : List Volume) (wanted : String) : Logged (Option Nat) := do
  match Guid.ofText? wanted with
  | some guid => pure (volumes.findIdx? fun v => v.partGuid == some guid)
  | none =>
    let found := findNamed? volumes wanted
    if found.isNone ∧ (volumes.any fun v => Text.containsIgnoringCase v.name wanted) = true then
      Logged.warn s!"Volume \"{wanted}\" only matches part of a volume name"
    pure found

end BootManager.Volume
