import BootManager.Config.Listing
import BootManager.Text.Quoted

/-!
# Written settings

All settings in a form for readers, one to a line in their order. A value with parts takes more
lines, and its parts stand one step further to the right.
-/

namespace BootManager.CommandLine

/-- The lines that a value takes. -/
abbrev Dump := List String

namespace Dump

/-- A value on one line. -/
def plain (text : String) : Dump :=
  [text]

/-- The lines of a part: further to the right, and with a comma at the end. -/
def part (lines : Dump) : Dump :=
  (lines.dropLast ++ (lines.getLast?.toList.map (· ++ ","))).map ("    " ++ ·)

/-- A value with parts, which takes one line if there are none. -/
def block (opening closing : String) (parts : List Dump) : Dump :=
  if parts.isEmpty then [opening ++ closing]
  else opening :: parts.flatMap part ++ [closing]

/-- A value with its name before it. -/
def named (name : String) : Dump → Dump
  | [] => [name ++ ": "]
  | first :: rest => (name ++ ": " ++ first) :: rest

/-- A list of values. -/
def list {α : Type} (f : α → Dump) (values : List α) : Dump :=
  block "[" "]" (values.map f)

/-- A value that may be missing. -/
def option {α : Type} (f : α → Dump) : Option α → Dump
  | none => plain "None"
  | some a => block "Some(" ")" [f a]

/-- A set of flags by their names. -/
def flags (kind : String) (names : List String) : Dump :=
  block (kind ++ "(") ")"
    [plain (if names.isEmpty then "0x0" else " | ".intercalate names)]

/-- A record by its fields. -/
def record (kind : String) (fields : List Dump) : Dump :=
  block (kind ++ " \x7b") "\x7d" fields

open Config

/-- The sizes of icons. -/
def iconSizes (icons : IconSizes) : Dump :=
  record "IconSizes"
    [named "badge" (plain (toString icons.badge)), named "small" (plain (toString icons.small)),
      named "big" (plain (toString icons.big)), named "mouse" (plain (toString icons.mouse))]

/-- The names of the hidden parts of the interface. -/
def hiddenNames (set : HideSet) : List String :=
  (HidePart.all.filter set.contains).map fun part => Text.upper part.word

/-- The names of the families of loaders in a set. -/
def familyNames (set : LoaderSet) : List String :=
  (LoaderFamily.all.filter set.contains).map fun family => Text.upper family.word

/-- The value of a setting. -/
def ofSetting : SettingValue → Dump
  | .number n => plain (toString n)
  | .bool b => plain (if b then "true" else "false")
  | .numbers ns => list (fun n => plain (toString n)) ns
  | .text s => option (fun t => plain (Text.quoted t)) s
  | .texts ss => list (fun t => plain (Text.quoted t)) ss
  | .icons sizes => iconSizes sizes
  | .hidden set => flags "HideUiFlags" (hiddenNames set)
  | .families set => flags "GraphicsFor" (familyNames set)
  | .scale scale => plain scale.name
  | .scanFor slots => list (fun c => plain (Text.quotedChar c)) slots.toList
  | .tools row => list (option fun tool => plain tool.name) row.slots

/-- All settings. -/
def ofSettings (s : Settings) : Dump :=
  record "Settings" (s.listing.map fun (name, value) => named name (ofSetting value))

end Dump

end BootManager.CommandLine
