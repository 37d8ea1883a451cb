/-!
# Entries of the menu

What a block of a configuration describes: something to start, with variants of it in a submenu.
-/

namespace BootManager.Config

/-- An entry of a submenu. -/
structure SubEntry where
  title : String
  loader : Option String := none
  /-- The place of the volume that holds the loader. -/
  volume : Option Nat := none
  initrd : Option String := none
  /-- The command line of the loader. -/
  options : Option String := none
  /-- Whether the loader starts in graphics mode, if that is given. -/
  useGraphics : Option Bool := none
  deriving DecidableEq, Repr

/-- An entry of the menu. -/
structure MenuEntry where
  title : String
  loader : Option String := none
  /-- The place of the volume that holds the loader. -/
  volume : Option Nat := none
  initrd : Option String := none
  /-- The command line of the loader. -/
  options : Option String := none
  /-- A letter for the kind of operating system. -/
  osType : Option Char := none
  icon : Option String := none
  /-- Whether the loader starts in graphics mode, if that is given. -/
  useGraphics : Option Bool := none
  /-- The boot entry of the firmware that is started rather than a loader. -/
  firmwareBootnum : Option UInt16 := none
  submenus : List SubEntry := []
  deriving DecidableEq, Repr

end BootManager.Config
