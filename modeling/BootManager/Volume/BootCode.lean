import BootManager.Log
import BootManager.Volume.Mbr

/-!
# Boot code

Boot sectors of known loaders are told by texts in them, so that a volume which starts an older
system is shown with its name. What formatting tools write into boot sectors is no boot code.
-/

namespace BootManager

/-- How the firmware starts older systems. -/
inductive LegacyBoot where
  /-- Not at all. -/
  | none
  /-- As firmware made by Apple does. -/
  | mac
  /-- By a compatibility module. -/
  | uefi
  deriving DecidableEq, Repr

/-- What a boot sector was found to hold. -/
structure BootCode where
  /-- Whether it looks like a boot sector at all. -/
  bootable : Bool := false
  /-- Whether it starts something. -/
  hasBootCode : Bool := false
  osIconName : Option String := none
  osName : Option String := none
  mbrTable : Option MbrTable := none
  deriving DecidableEq

namespace BootCode

open Buffer

/-- How far some loaders are looked for. -/
def window : Nat := 4096

/-- Whether a text stands in the first sector. -/
def inSector (buf : Array UInt8) (text : String) : Bool :=
  hasWithin buf 512 (ascii text)

/-- Whether a text stands in the first sectors. -/
def inWindow (buf : Array UInt8) (text : String) : Bool :=
  hasWithin buf window (ascii text)

/-- A known loader: how it is told, and the icons and the name it is shown with. -/
structure Loader where
  isIn : Array UInt8 → Bool
  icon : String
  name : String

/-- The known loaders. The first one that is told counts. -/
def loaders : List Loader :=
  [⟨fun b => hasAt b 2 (ascii "LILO") || hasAt b 6 (ascii "LILO") || hasAt b 3 (ascii "SYSLINUX") ||
      inWindow b "ISOLINUX", "linux", "Linux (Legacy)"⟩,
    ⟨fun b => inSector b "Geom\x00Hard Disk\x00Read\x00 Error", "grub,linux", "Linux (Legacy)"⟩,
    ⟨fun b => (number? b 502 4 == some 0 && number? b 506 4 == some 50000 && hasBootSignature b) ||
      inWindow b "Starting the BTX loader", "freebsd", "FreeBSD (Legacy)"⟩,
    ⟨fun b => hasBootSignature b && inWindow b "Boot loader too large" &&
      inWindow b "I/O error loading boot loader", "freebsd", "FreeBSD (Legacy)"⟩,
    ⟨fun b => inSector b "!Loading" || inWindow b "/cdboot\x00/CDBOOT\x00", "openbsd",
      "OpenBSD (Legacy)"⟩,
    ⟨fun b => inSector b "Not a bootxx image" || number? b 1028 4 == some 0x7886b6d1, "netbsd",
      "NetBSD (Legacy)"⟩,
    ⟨fun b => inWindow b "NTLDR", "win", "Windows (NT/XP)"⟩,
    ⟨fun b => inWindow b "BOOTMGR", "win8,win", "Windows (Legacy)"⟩,
    ⟨fun b => inSector b "CPUBOOT SYS" || inSector b "KERNEL  SYS", "freedos", "FreeDOS (Legacy)"⟩,
    ⟨fun b => inSector b "OS2LDR" || inSector b "OS2BOOT", "ecomstation", "eComStation (Legacy)"⟩,
    ⟨fun b => inSector b "Be Boot Loader", "beos", "BeOS (Legacy)"⟩,
    ⟨fun b => inSector b "yT Boot Loader", "zeta,beos", "ZETA (Legacy)"⟩,
    ⟨fun b => inSector b "\x04beos\x06system\x05zbeos" || inSector b "\x06system\x0chaiku_loader",
      "haiku,beos", "Haiku (Legacy)"⟩]

/-- What boot sectors say that formatting tools write. -/
def placeholderMessages : List String :=
  ["Non-system disk", "This is not a bootable disk", "Press any key to restart"]

/-- Whether a boot sector was written by a formatting tool. -/
def isPlaceholder (buf : Array UInt8) : Bool :=
  placeholderMessages.any (inSector buf)

/-- Whether a first sector can be that of something that starts. -/
def looksBootable (buf : Array UInt8) : Bool :=
  hasBootSignature buf && (buf[0]?.any (· != 0)) && !inSector buf "EXFAT"

/-- The loader that a boot sector holds, before anything is ruled out. -/
def ofLoader (buf : Array UInt8) : BootCode :=
  let bootable := looksBootable buf
  match loaders.find? fun loader => loader.isIn buf with
  | some loader =>
    { bootable, hasBootCode := true, osIconName := some loader.icon, osName := some loader.name }
  | none => { bootable, hasBootCode := bootable }

/-- What a volume is shown with if its boot sector cannot be used but its system can. -/
def withoutFiles (code : BootCode) : BootCode :=
  { code with
    hasBootCode := false, osIconName := some "win8,win", osName := some "Windows (UEFI)" }

/-- Whether a boot sector counts only if the files that it starts are there. -/
def needsFiles (legacy : LegacyBoot) (fsType : FsType) (code : BootCode) : Bool :=
  code.hasBootCode && legacy == .mac && fsType == .ntfs

/-- What a boot sector holds. `hasFiles` tells whether the files are there that some boot sectors
need; it is asked for those alone. -/
def ofSector (buf : Array UInt8) (legacy : LegacyBoot) (fsType : FsType) (hasFiles : Logged Bool) :
    Logged BootCode :=
  if legacy = .none then pure {}
  else do
    let code := ofLoader buf
    let code ←
      if needsFiles legacy fsType code then do
        let found ← hasFiles
        pure (if found then code else code.withoutFiles)
      else pure (if isPlaceholder buf then { code with hasBootCode := false } else code)
    pure { code with mbrTable := MbrTable.ofBootSector? buf }

end BootCode

end BootManager
