import BootManager.Config.Line
import BootManager.Config.Path
import BootManager.Config.Settings
import BootManager.Text.Decimal
import BootManager.Text.Hexadecimal

/-!
# Values of a line

What the words after a keyword mean for each kind of setting. Every function takes the whole line,
and one that asks for a number of values keeps what there was if it finds another number.
-/

namespace BootManager.Config.Value

/-- The largest protection mask. -/
def maxCsrValue : UInt32 := 0xFFF

/-- A signed number, from a line with one value. -/
def signed (line : Line) (old : Int32) : Int32 :=
  match line with
  | [_, value] => Text.readSigned value
  | _ => old

/-- An unsigned number, from a line with one value. -/
def unsigned (line : Line) (old : UInt32) : UInt32 :=
  match line with
  | [_, value] => Text.readUnsigned value
  | _ => old

/-- A text, from a line with one value. -/
def text (line : Line) (old : Option String) : Option String :=
  match line with
  | [_, value] => some value
  | _ => old

/-- Whether the values of a line are to be added to a list: a lone plus sign stands before them. -/
def appends : Line → Bool
  | _ :: sign :: _ :: _ => sign == "+"
  | _ => false

/-- The values of a line that names a list. -/
def items (line : Line) : List String :=
  line.drop (if appends line then 2 else 1)

/-- Puts the accepted values of a line after a list or in its place. -/
def extend {α : Type} (accepted : List String → List α) (line : Line) (old : List α) : List α :=
  (if appends line then old else []) ++ accepted (items line)

/-- A list of texts, whose path separators are cleaned if `clean` is set. -/
def texts (clean : Bool) (line : Line) (old : List String) : List String :=
  extend (fun values => values.map fun x => if clean then Path.clean x else x) line old

/-- A list of hexadecimal numbers up to `limit`; other values are dropped. -/
def hexes (limit : UInt32) (line : Line) (old : List UInt32) : List UInt32 :=
  extend (fun values => (values.filterMap Text.readHex?).filter fun x => x ≤ limit) line old

/-- Whether something is on: it is, unless the first value says `0`, `false` or `off`. -/
def isOn (line : Line) : Bool :=
  match line with
  | _ :: value :: _ => !(value == "0" || Text.sameIgnoringCase value "false" ||
      Text.sameIgnoringCase value "off")
  | _ => true

/-- Whether a value stands for all parts of the interface. -/
def namesAll (value : String) : Bool :=
  ["all", "every", "everything"].any fun word => Text.sameIgnoringCase value word

/-- Hides what one value names. -/
def hide (set : HideSet) (value : String) : Logged HideSet :=
  if namesAll value then pure .full
  else
    match HidePart.ofWord? value with
    | some part => pure (set.insert part)
    | none => do
      Logged.warn s!"Invalid 'hideui' flag: \"{value}\""
      pure set

/-- Hides what a line names. A value `none` shows everything again, wherever it stands. -/
def hidden (line : Line) (old : HideSet) : Logged HideSet :=
  if (line.drop 1).any fun value => Text.sameIgnoringCase value "none" then pure .empty
  else (line.drop 1).foldlM hide old

/-- The loaders that a line starts in graphics mode. -/
def graphicsFor (line : Line) (old : LoaderSet) : LoaderSet :=
  ((line.drop 1).filterMap LoaderFamily.ofWord?).foldl LoaderSet.insert
    (if appends line then old else .empty)

/-- The tool that a value names. -/
def tool (value : String) : Logged (Option Tool) := do
  let found := Tool.ofWord? value
  if found.isNone then
    Logged.warn s!"Unknown 'showtools' flag: \"{value}\""
  pure found

/-- The tools that a line names, as many as leave one slot of the row free. -/
def tools (line : Line) : Logged ToolRow := do
  let slots ← ((line.drop 1).take (toolLimit - 1)).mapM tool
  pure (.ofSlots slots)

/-- The scan targets of a line: the first character of every word, the keyword included. -/
def scanSlots (line : Line) : ScanSlots :=
  .ofChars (line.map fun word => word.toList.headD ' ')

/-- A screen size of one or two numbers; `max` is the size that leaves the screen as it is. -/
def resolution : Line → Option (UInt32 × UInt32)
  | [_, width] =>
    if Text.sameIgnoringCase width "max" then some (0, 0) else some (Text.readUnsigned width, 0)
  | [_, width, height] =>
    if Text.sameIgnoringCase width "max" then some (0, 0)
    else some (Text.readUnsigned width, Text.readUnsigned height)
  | _ => none

/-- A colour of three numbers. -/
def colour : Line → Option Colour
  | [_, red, green, blue] =>
    some ⟨Text.readSigned red, Text.readSigned green, Text.readSigned blue⟩
  | _ => none

end BootManager.Config.Value
