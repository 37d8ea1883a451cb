import BootManager.Config.Defaults
import BootManager.Config.Directive
import BootManager.Config.Item
import BootManager.Config.TextFile

/-!
# Reading a configuration

A configuration is a primary file and the files that it includes; those include nothing further. All
of them build the same settings and the same list of entries, in the order of their lines.
-/

namespace BootManager.Config

/-- What was read so far. -/
structure Draft where
  settings : Settings
  entries : List MenuEntry

/-- A configuration that was read. -/
structure Loaded where
  settings : Settings
  /-- The entries of the blocks that are enabled, in order. -/
  entries : List MenuEntry

namespace Draft

/-- Reads one line for the settings. -/
def applyLine (ctx : Context) (line : Line) (draft : Draft) : Logged Draft := do
  let applied ← draft.settings.apply ctx line
  pure { draft with settings := applied.settings }

/-- Reads a block. -/
def addBlock (ctx : Context) (header : Line) (body : List Line) (draft : Draft) : Logged Draft := do
  let stanza ← Stanza.openWith header[1]? ctx.selfVolume
  let stanza ← stanza.feedAll ctx.volumes body
  let entry ← stanza.commit ctx.volumes
  pure { draft with entries := draft.entries ++ entry.toList }

/-- Reads one part of a file, where `onInclude` reads the line of an include. -/
def addItem (ctx : Context) (onInclude : Line → Draft → Logged Draft) (draft : Draft) :
    Item → Logged Draft
  | .directive line => draft.applyLine ctx line
  | .include line => onInclude line draft
  | .block header body => draft.addBlock ctx header body

/-- Reads the parts of a file in order. -/
def addItems (ctx : Context) (onInclude : Line → Draft → Logged Draft) (items : List Item)
    (draft : Draft) : Logged Draft :=
  items.foldlM (addItem ctx onInclude) draft

/-- Reads a file, if it can be read. -/
def addFile (source : Source) (ctx : Context) (onInclude : Line → Draft → Logged Draft)
    (file : String) (draft : Draft) : Logged Draft := do
  let path := ctx.resolve file
  match ← source.read path with
  | none =>
    Logged.warn s!"Could not read configuration file \"{path}\""
    pure draft
  | some bytes =>
    Logged.debug s!"Reading configuration file \"{path}\""
    draft.addItems ctx onInclude (Item.ofLines (TextFile.ofBytes bytes).wordLines)

/-- The file that the line of an include names, if it names just one. -/
def includeTarget? : Line → Option String
  | [_, target] => some target
  | _ => none

/-- What an include does in a file that was included itself: nothing. -/
def refuseInclude (file : String) (line : Line) (draft : Draft) : Logged Draft := do
  match includeTarget? line with
  | none => Logged.warn s!"Ignoring malformed include line in \"{file}\""
  | some target => Logged.warn s!"Ignoring nested include of \"{target}\" in \"{file}\""
  pure draft

/-- What an include does in the primary file. -/
def includeFile (source : Source) (ctx : Context) (primary : String) (line : Line) (draft : Draft) :
    Logged Draft :=
  match includeTarget? line with
  | none => do
    Logged.warn s!"Ignoring malformed include line in \"{primary}\""
    pure draft
  | some target =>
    if Text.sameIgnoringCase target primary then do
      Logged.warn s!"Ignoring \"{primary}\" including itself"
      pure draft
    else draft.addFile source ctx (refuseInclude target) target

/-- What there is before the primary file is read. -/
def start (ctx : Context) : Draft :=
  ⟨(Settings.default ctx.appleFirmware).withDefaults ctx, []⟩

end Draft

/-- Whether a directory of icons is there, by its usual name or the one that was set. -/
def hasIcons (source : Source) (ctx : Context) (s : Settings) : Logged Bool := do
  if ← source.holds (ctx.resolve "icons") then pure true
  else
    match s.text.get .iconsDir with
    | some dir => source.holds (ctx.resolve dir)
    | none => pure false

/-- Reads the configuration that starts at a primary file. What is wrong with it is reported and
left out, so there always is a configuration. -/
def load (source : Source) (ctx : Context) (primary : String) : Logged Loaded := do
  let draft ← (Draft.start ctx).addFile source ctx (Draft.includeFile source ctx primary) primary
  let icons ← hasIcons source ctx draft.settings
  let settings ← draft.settings.finish ctx icons
  pure ⟨settings, draft.entries⟩

end BootManager.Config
