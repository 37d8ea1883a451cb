import BootManager.Config.Stanza

/-!
# The parts of a file

The lines of a file are directives, includes of other files, and blocks. Where a block ends is told
by braces alone: a line that opens a submenu asks for one brace more, and nothing else matters.
-/

namespace BootManager.Config

/-- A part of a file. -/
inductive Item where
  /-- A line for the settings. -/
  | directive (line : Line)
  /-- A line that names another file. -/
  | include (line : Line)
  /-- A block: its first line, and the lines up to the brace that closes it. -/
  | block (header : Line) (body : List Line)
  deriving DecidableEq, Repr

namespace Item

/-- Cuts lines after the brace that closes a block. `inside` tells whether a submenu is open. -/
def cutBlock (inside : Bool) : List Line → List Line × List Line
  | [] => ([], [])
  | line :: rest =>
    let cutAfter (inside : Bool) : List Line × List Line :=
      let cut := cutBlock inside rest
      (line :: cut.1, cut.2)
    if inside then cutAfter (!Stanza.closes line)
    else if Stanza.closes line then ([line], rest)
    else cutAfter (Stanza.opensSubmenu line)

theorem length_cutBlock (inside : Bool) (lines : List Line) :
    (cutBlock inside lines).2.length ≤ lines.length := by
  induction lines generalizing inside with
  | nil => simp [cutBlock]
  | cons line rest ih =>
    unfold cutBlock
    split
    · exact Nat.le_succ_of_le (ih _)
    · split
      · simp
      · exact Nat.le_succ_of_le (ih _)

/-- Whether a line names another file. -/
def isInclude (line : Line) : Bool :=
  line.head?.any fun keyword => Text.sameIgnoringCase keyword "include"

/-- Whether a line opens a block. -/
def isHeader (line : Line) : Bool :=
  line.head?.any fun keyword => Text.sameIgnoringCase keyword "menuentry"

/-- The parts that lines make up. -/
def ofLines : List Line → List Item
  | [] => []
  | line :: rest =>
    if isInclude line then .include line :: ofLines rest
    else if isHeader line then
      .block line (cutBlock false rest).1 :: ofLines (cutBlock false rest).2
    else .directive line :: ofLines rest
termination_by lines => lines.length
decreasing_by
  all_goals have := length_cutBlock false rest; simp only [List.length_cons]; omega

end Item

end BootManager.Config
