import BootManager.Text.Ascii

/-!
# Tools

The tools and built-in actions of the second row of the menu.
-/

namespace BootManager.Config

/-- A tool or built-in action. -/
inductive Tool where
  | about
  | reboot
  | shutdown
  | exit
  | shell
  | gptsync
  | appleRecovery
  | windowsRecovery
  | mokTool
  | firmware
  | memtest
  | gdisk
  | netboot
  | csrRotate
  | fwupdateTool
  | hidden
  | install
  | bootOrder
  | showBootscreen
  | cleanNvram
  deriving DecidableEq, Repr

namespace Tool

/-- Every tool, in the order of their codes. -/
def all : List Tool :=
  [about, reboot, shutdown, exit, shell, gptsync, appleRecovery, windowsRecovery, mokTool, firmware,
    memtest, gdisk, netboot, csrRotate, fwupdateTool, hidden, install, bootOrder, showBootscreen,
    cleanNvram]

/-- The stable code of a tool. -/
def code : Tool → Nat
  | about => 1
  | reboot => 2
  | shutdown => 3
  | exit => 8
  | shell => 9
  | gptsync => 10
  | appleRecovery => 12
  | windowsRecovery => 13
  | mokTool => 14
  | firmware => 15
  | memtest => 16
  | gdisk => 17
  | netboot => 18
  | csrRotate => 19
  | fwupdateTool => 20
  | hidden => 21
  | install => 22
  | bootOrder => 23
  | showBootscreen => 24
  | cleanNvram => 26

/-- The place of a tool among all of them. -/
def index : Tool → Nat
  | about => 0
  | reboot => 1
  | shutdown => 2
  | exit => 3
  | shell => 4
  | gptsync => 5
  | appleRecovery => 6
  | windowsRecovery => 7
  | mokTool => 8
  | firmware => 9
  | memtest => 10
  | gdisk => 11
  | netboot => 12
  | csrRotate => 13
  | fwupdateTool => 14
  | hidden => 15
  | install => 16
  | bootOrder => 17
  | showBootscreen => 18
  | cleanNvram => 19

/-- The words for a tool. -/
def words : Tool → List String
  | about => ["about"]
  | reboot => ["reboot"]
  | shutdown => ["shutdown"]
  | exit => ["exit"]
  | shell => ["shell"]
  | gptsync => ["gptsync"]
  | appleRecovery => ["apple_recovery"]
  | windowsRecovery => ["windows_recovery"]
  | mokTool => ["mok_tool"]
  | firmware => ["firmware"]
  | memtest => ["memtest", "memtest86"]
  | gdisk => ["gdisk"]
  | netboot => ["netboot"]
  | csrRotate => ["csr_rotate"]
  | fwupdateTool => ["fwupdate"]
  | hidden => ["hidden_tags"]
  | install => ["install"]
  | bootOrder => ["bootorder"]
  | showBootscreen => ["show_bootscreen"]
  | cleanNvram => ["clean_nvram"]

/-- The display name of a tool. -/
def name : Tool → String
  | about => "About"
  | reboot => "Reboot"
  | shutdown => "Shutdown"
  | exit => "Exit"
  | shell => "Shell"
  | gptsync => "Gptsync"
  | appleRecovery => "AppleRecovery"
  | windowsRecovery => "WindowsRecovery"
  | mokTool => "MokTool"
  | firmware => "Firmware"
  | memtest => "Memtest"
  | gdisk => "Gdisk"
  | netboot => "Netboot"
  | csrRotate => "CsrRotate"
  | fwupdateTool => "FwupdateTool"
  | hidden => "Hidden"
  | install => "Install"
  | bootOrder => "BootOrder"
  | showBootscreen => "ShowBootscreen"
  | cleanNvram => "CleanNvram"

/-- The tool that a word names, in any case. -/
def ofWord? (s : String) : Option Tool :=
  all.find? fun tool => tool.words.contains (Text.lower s)

theorem all_getElem?_index (tool : Tool) : all[tool.index]? = some tool := by
  cases tool <;> rfl

end Tool

/-- How many tools a row holds. -/
def toolLimit : Nat := 28

/-- The row of tools, in which an unknown tool leaves a blank slot. -/
structure ToolRow where
  slots : List (Option Tool)
  length_le : slots.length ≤ toolLimit
  deriving DecidableEq

namespace ToolRow

/-- A row of the first slots that have room. -/
def ofSlots (slots : List (Option Tool)) : ToolRow :=
  ⟨slots.take toolLimit, List.length_take_le _ _⟩

/-- Whether a tool is shown. -/
def contains (row : ToolRow) (tool : Tool) : Bool :=
  row.slots.contains (some tool)

end ToolRow

end BootManager.Config
