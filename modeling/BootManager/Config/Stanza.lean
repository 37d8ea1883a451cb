import BootManager.Config.Line
import BootManager.Config.MenuEntry
import BootManager.Text.Hexadecimal
import BootManager.Volume.Find

/-!
# Blocks of a configuration

A block is read line by line until the brace that closes it, and then makes one entry of the menu. A
block that is disabled makes none, but its lines are read all the same.
-/

namespace BootManager.Config

/-- What a block expects after a line. -/
inductive Feed where
  | more
  /-- The brace that closes the block was read. -/
  | finished
  deriving DecidableEq, Repr

namespace Stanza

/-- The loader of a block that names none. -/
def defaultLoader : String := "\\EFI\\BOOT\\nemo.efi"

/-- The title of a block that has none. -/
def unknownTitle : String := "Unknown"

/-- Whether a line closes a block or a submenu. -/
def closes (line : Line) : Bool :=
  line.head? == some "\x7d"

/-- Puts a value after the options, which are separated by blanks. -/
def merge (options : Option String) (value : String) : String :=
  match options with
  | some options => if options = "" then value else options ++ " " ++ value
  | none => value

/-- The place of a volume that a block may use: it must be readable, and its root directory open. -/
def usableVolume (volumes : List Volume) (wanted : String) : Logged (Option Nat) := do
  let found ← Volume.find? volumes wanted
  let usable := found.bind fun place =>
    (volumes[place]?).map fun v => (place, v.isReadable && v.hasRoot)
  match usable with
  | none => pure none
  | some (place, true) => pure (some place)
  | some (_, false) => do
    Logged.debug s!"Volume \"{wanted}\" is not readable"
    pure none

/-- The title of something on a volume. -/
def titleOn (title : String) (volume : Option Volume) : String :=
  match volume with
  | some volume => "Boot " ++ title ++ " from " ++ volume.name
  | none => "Boot " ++ title

/-- A submenu entry being read. -/
structure Submenu where
  entry : SubEntry
  /-- The usable volume that was named last. -/
  currentVolume : Option Nat
  /-- Whether a line named a usable volume. -/
  namesVolume : Bool
  enabled : Bool
  deriving DecidableEq, Repr

namespace Submenu

/-- What one line does to a submenu entry that is enabled. -/
def set (volumes : List Volume) (keyword : String) (value : Option String) (sub : Submenu) :
    Logged Submenu :=
  match Text.lower keyword, value with
  | "loader", some value =>
    pure { sub with entry := { sub.entry with loader := some value, volume := sub.currentVolume } }
  | "volume", some value => do
    match ← usableVolume volumes value with
    | some place =>
      pure { sub with
        entry := { sub.entry with volume := some place }
        currentVolume := some place
        namesVolume := true }
    | none => pure sub
  | "initrd", value => pure { sub with entry := { sub.entry with initrd := value } }
  | "options", value => pure { sub with entry := { sub.entry with options := value } }
  | "add_options", some value =>
    pure { sub with entry := { sub.entry with options := some (merge sub.entry.options value) } }
  | "graphics", some value =>
    pure { sub with
      entry := { sub.entry with useGraphics := some (Text.sameIgnoringCase value "on") } }
  | "disabled", _ => pure { sub with enabled := false }
  | word, _ => do
    Logged.debug s!"Ignoring \"{word}\" in a submenu entry"
    pure sub

/-- Reads one line of a submenu entry. -/
def feed (volumes : List Volume) (line : Line) (sub : Submenu) : Logged Submenu :=
  match line with
  | [] => pure sub
  | keyword :: values => if sub.enabled then sub.set volumes keyword values.head? else pure sub

/-- The finished submenu entry, if it is enabled. -/
def commit (volumes : List Volume) (sub : Submenu) : Logged (Option SubEntry) :=
  let title := sub.entry.title
  if sub.enabled then
    let volume :=
      if sub.namesVolume then sub.currentVolume.bind fun place => volumes[place]? else none
    let title := if volume.isSome then titleOn title volume else title
    let options :=
      match sub.entry.initrd with
      | some initrd => some (merge sub.entry.options ("initrd=" ++ initrd))
      | none => sub.entry.options
    pure (some { sub.entry with title, options })
  else do
    Logged.debug s!"Submenu entry \"{title}\" is disabled"
    pure none

end Submenu

end Stanza

/-- A block being read. -/
structure Stanza where
  /-- The title as written. -/
  title : String
  entry : MenuEntry
  /-- The options that were named last. -/
  options : Option String
  /-- The boot entry of the firmware that was named last. -/
  bootnum : Option String
  /-- Whether a line named a loader that is not empty. -/
  hasLoader : Bool
  enabled : Bool
  /-- The submenu entry being read. -/
  submenu : Option Stanza.Submenu
  deriving DecidableEq, Repr

namespace Stanza

/-- A block before its first line. -/
def start (title : Option String) (selfVolume : Option Nat) : Stanza :=
  let title := title.getD unknownTitle
  { title
    entry := { title, volume := selfVolume }
    options := none
    bootnum := none
    hasLoader := false
    enabled := true
    submenu := none }

/-- Opens a block. -/
def openWith (title : Option String) (selfVolume : Option Nat) : Logged Stanza := do
  let stanza := start title selfVolume
  let title := stanza.title
  Logged.debug s!"Adding user configured loader \"{title}\""
  pure stanza

/-- Opens a submenu entry, which starts with what the block has so far. -/
def openSubmenu (title : String) (stanza : Stanza) : Stanza :=
  { stanza with
    submenu := some
      { entry :=
          { title
            loader := stanza.entry.loader
            volume := stanza.entry.volume
            initrd := stanza.entry.initrd
            options := stanza.options
            useGraphics := stanza.entry.useGraphics }
        currentVolume := stanza.entry.volume
        namesVolume := false
        enabled := stanza.enabled } }

/-- Puts the submenu entry being read into the block, if it is enabled. -/
def closeSubmenu (volumes : List Volume) (stanza : Stanza) : Logged Stanza :=
  match stanza.submenu with
  | none => pure stanza
  | some sub => do
    let entry ← sub.commit volumes
    pure { stanza with
      entry := { stanza.entry with submenus := stanza.entry.submenus ++ entry.toList }
      submenu := none }

/-- What one line does to a block that is enabled and has no submenu open. -/
def set (volumes : List Volume) (keyword : String) (value : Option String) (stanza : Stanza) :
    Logged Stanza :=
  let title := stanza.title
  let entry := stanza.entry
  match Text.lower keyword, value with
  | "loader", some value =>
    pure { stanza with
      entry := { entry with loader := some value }
      hasLoader := stanza.hasLoader || value != "" }
  | "volume", some value => do
    match ← usableVolume volumes value with
    | some place => pure { stanza with entry := { entry with volume := some place } }
    | none =>
      Logged.debug s!"Could not find a usable volume \"{value}\" for \"{title}\""
      pure stanza
  | "icon", some value => pure { stanza with entry := { entry with icon := some value } }
  | "initrd", some value => pure { stanza with entry := { entry with initrd := some value } }
  | "options", some value => pure { stanza with options := some value }
  | "ostype", some value =>
    pure { stanza with entry := { entry with osType := value.toList.head? } }
  | "graphics", some value =>
    pure { stanza with
      entry := { entry with useGraphics := some (Text.sameIgnoringCase value "on") } }
  | "disabled", _ => pure { stanza with enabled := false }
  | "firmware_bootnum", some value => pure { stanza with bootnum := some value }
  | _, _ => do
    Logged.debug s!"Ignoring \"{keyword}\" in \"{title}\""
    pure stanza

/-- Whether a line outside of a submenu opens one: the keyword stands there, and a title. -/
def opensSubmenu : Line → Bool
  | keyword :: _ :: _ => Text.lower keyword == "submenuentry"
  | _ => false

/-- Reads one line of a block. -/
def feed (volumes : List Volume) (line : Line) (stanza : Stanza) : Logged (Feed × Stanza) :=
  match line with
  | [] => pure (.more, stanza)
  | keyword :: values =>
    match stanza.submenu with
    | some sub =>
      if closes line then do
        let stanza ← stanza.closeSubmenu volumes
        pure (.more, stanza)
      else do
        let sub ← sub.feed volumes line
        pure (.more, { stanza with submenu := some sub })
    | none =>
      if closes line then pure (.finished, stanza)
      else if opensSubmenu line then pure (.more, stanza.openSubmenu (values.headD ""))
      else if stanza.enabled then do
        let stanza ← stanza.set volumes keyword values.head?
        pure (.more, stanza)
      else pure (.more, stanza)

/-- Reads lines whatever they are, also after the brace that closes the block. -/
def feedAll (volumes : List Volume) (lines : List Line) (stanza : Stanza) : Logged Stanza :=
  lines.foldlM (fun stanza line => do
    let (_, stanza) ← stanza.feed volumes line
    pure stanza) stanza

/-- The entry that starts a boot entry of the firmware. -/
def firmwareEntry (bootnum : String) (stanza : Stanza) : MenuEntry :=
  let number := (Text.readHex? bootnum).getD 0
  { stanza.entry with
    title := "Boot " ++ stanza.title ++ " [Firmware Boot Number]"
    loader := none
    initrd := none
    firmwareBootnum := some (if number < 0x10000 then number.toUInt16 else 0) }

/-- The entry that starts a loader. -/
def loaderEntry (volumes : List Volume) (stanza : Stanza) : MenuEntry :=
  let options := stanza.options.filter (· != "")
  { stanza.entry with
    title := titleOn stanza.title (stanza.entry.volume.bind fun place => volumes[place]?)
    options :=
      match stanza.entry.initrd.filter (· != "") with
      | some initrd => some (merge options ("initrd=" ++ initrd))
      | none => options
    loader := if stanza.hasLoader then stanza.entry.loader else some defaultLoader }

/-- The entry of a block, if it is enabled. A submenu entry that is still open is finished first. -/
def commit (volumes : List Volume) (stanza : Stanza) : Logged (Option MenuEntry) := do
  let stanza ← stanza.closeSubmenu volumes
  let title := stanza.title
  if stanza.enabled then
    match stanza.bootnum with
    | some bootnum => pure (some (stanza.firmwareEntry bootnum))
    | none => pure (some (stanza.loaderEntry volumes))
  else
    Logged.debug s!"\"{title}\" is disabled"
    pure none

end Stanza

end BootManager.Config
