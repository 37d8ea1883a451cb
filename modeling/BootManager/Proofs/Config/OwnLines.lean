import BootManager.Proofs.Config.Submenu

/-!
# What the own lines of a block say

The lines of submenus do nothing to the rest of a block, so what a block says of itself is told by
its own lines, those in no submenu, taken one after the other (`base_feedAll`). Each of its texts is
the last value that they give to one keyword (`get_afterLines`).
-/

namespace BootManager.Config

open Text

namespace Stanza

variable {volumes : List Volume} {line : Line} {stanza : Stanza} {fed : Feed × Stanza}

/-! ## Without submenus -/

/-- A block without its submenus. -/
def base (stanza : Stanza) : Stanza :=
  { stanza with entry := { stanza.entry with submenus := [] }, submenu := none }

theorem base_set (keyword : String) (value : Option String) (stanza : Stanza) :
    (stanza.set volumes keyword value).value.base =
      (stanza.base.set volumes keyword value).value := by
  rw [value_set, value_set]
  rfl

theorem base_take (line : Line) (stanza : Stanza) :
    (stanza.take volumes line).base = stanza.base.take volumes line := by
  cases line with
  | nil => rfl
  | cons keyword values =>
    have same : stanza.base.enabled = stanza.enabled := rfl
    rw [take, take, same]
    split
    · exact base_set keyword values.head? stanza
    · rfl

theorem base_closeSubmenu (stanza : Stanza) :
    (stanza.closeSubmenu volumes).value.base = stanza.base := by
  unfold closeSubmenu
  cases stanza.submenu <;> rfl

/-- Braces say nothing of a block. -/
theorem take_of_brace (brace : line.head? = some "\x7d") : stanza.take volumes line = stanza := by
  match line with
  | keyword :: values =>
    obtain rfl : keyword = "\x7d" := by simpa using brace
    rw [take]
    split
    · rfl
    · rfl

/-- Lines that open submenus say nothing of a block. -/
theorem take_of_title {title : String} (opens : submenuTitle? line = some title) :
    stanza.take volumes line = stanza := by
  match line with
  | keyword :: value :: _ =>
    rw [submenuTitle?] at opens
    split at opens
    next named =>
      have word : lower keyword = "submenuentry" := sameIgnoringCase_iff.mp named
      rw [take]
      split
      · simp [value_set, assign, assignType, word]
      · rfl
    next => cases opens

theorem Fed.base_eq (step : Fed volumes line stanza fed) :
    fed.2.base =
      if stanza.submenu.isSome then stanza.base else stanza.base.take volumes line := by
  cases step with
  | leaves sub reading brace => rw [base_closeSubmenu, reading]; rfl
  | stays sub reading plain => rw [reading]; rfl
  | ends outside brace => rw [outside, take_of_brace brace]; rfl
  | enters title outside opens => rw [outside, take_of_title opens]; rfl
  | sets outside plain opens => rw [outside, base_take]; rfl

/-- What a block says of itself is told by its own lines. -/
theorem base_feedAll (lines : List Line) (stanza : Stanza) :
    (stanza.feedAll volumes lines).value.base =
      (own stanza.submenu.isSome lines).foldl (take volumes) stanza.base := by
  induction lines generalizing stanza with
  | nil => rfl
  | cons line rest ih =>
    have step := feed_spec volumes line stanza
    rw [value_feedAll_cons, ih, step.base_eq, own, step.track_eq]
    cases stanza.submenu.isSome <;> rfl

/-! ## Texts -/

/-- A text that a block keeps of its lines. -/
inductive Slot where
  | loader
  | icon
  | initrd
  | options
  | bootnum
  deriving DecidableEq, Repr

namespace Slot

/-- The keyword whose values it keeps. -/
def word : Slot → String
  | loader => "loader"
  | icon => "icon"
  | initrd => "initrd"
  | options => "options"
  | bootnum => "firmware_bootnum"

/-- What it keeps. -/
def get (stanza : Stanza) : Slot → Option String
  | loader => stanza.entry.loader
  | icon => stanza.entry.icon
  | initrd => stanza.entry.initrd
  | options => stanza.options
  | bootnum => stanza.bootnum

end Slot

/-- The values that the own lines of a block give to a keyword, in order. -/
def valuesOf (word : String) (lines : List Line) : List String :=
  (own false lines).filterMap (valueOf? word)

@[simp] theorem get_base (slot : Slot) (stanza : Stanza) :
    slot.get stanza.base = slot.get stanza := by
  cases slot <;> rfl

theorem get_set (slot : Slot) (keyword : String) (value : Option String) (stanza : Stanza) :
    slot.get (stanza.set volumes keyword value).value =
      assign slot.word keyword value (slot.get stanza) := by
  rw [value_set]
  cases slot <;> rfl

theorem get_take (slot : Slot) (on : stanza.enabled = true) (line : Line) :
    slot.get (stanza.take volumes line) = (valueOf? slot.word line).or (slot.get stanza) := by
  cases line with
  | nil => rfl
  | cons keyword values =>
    have small : lower slot.word = slot.word := by cases slot <;> decide
    rw [take, if_pos on, get_set, assign_head? small]

theorem enabled_take_of_kept (on : stanza.enabled = true) (kept : disables line = false) :
    (stanza.take volumes line).enabled = true := by
  rw [enabled_take, on, kept]
  rfl

theorem hasLoader_take (on : stanza.enabled = true) (line : Line) :
    (stanza.take volumes line).hasLoader =
      (stanza.hasLoader || (valueOf? "loader" line).any (· != "")) := by
  cases line with
  | nil => simp [take, valueOf?]
  | cons keyword values =>
    rw [take, if_pos on, value_set, valueOf?_cons (by decide)]
    split <;> simp

/-- Neither the options of the entry nor the boot entry of the firmware, which are decided at the
end of a block, are there before it. -/
structure Unfinished (stanza : Stanza) : Prop where
  options_eq : stanza.entry.options = none
  firmwareBootnum_eq : stanza.entry.firmwareBootnum = none

theorem unfinished_base : Unfinished stanza.base ↔ Unfinished stanza :=
  ⟨fun ⟨options, bootnum⟩ => ⟨options, bootnum⟩, fun ⟨options, bootnum⟩ => ⟨options, bootnum⟩⟩

theorem Unfinished.closeSubmenu (unfinished : Unfinished stanza) :
    Unfinished (stanza.closeSubmenu volumes).value := by
  rw [← unfinished_base, base_closeSubmenu, unfinished_base]
  exact unfinished

theorem Unfinished.take (unfinished : Unfinished stanza) (line : Line) :
    Unfinished (stanza.take volumes line) := by
  cases line with
  | nil => exact unfinished
  | cons keyword values =>
    rw [Stanza.take]
    split
    · rw [value_set]
      exact ⟨unfinished.options_eq, unfinished.firmwareBootnum_eq⟩
    · exact unfinished

/-! ## Many lines -/

theorem Unfinished.foldl_take (unfinished : Unfinished stanza) (lines : List Line) :
    Unfinished (lines.foldl (Stanza.take volumes) stanza) := by
  induction lines generalizing stanza with
  | nil => exact unfinished
  | cons line rest ih => exact ih (unfinished.take line)

section

variable {lines : List Line} (on : stanza.enabled = true)
  (kept : ∀ line ∈ lines, disables line = false)

include on kept

theorem get_foldl_take (slot : Slot) :
    slot.get (lines.foldl (take volumes) stanza) =
      (lines.filterMap (valueOf? slot.word)).getLast?.or (slot.get stanza) := by
  induction lines generalizing stanza with
  | nil => simp
  | cons line rest ih =>
    obtain ⟨goesOn, later⟩ := List.forall_mem_cons.mp kept
    have still : (stanza.take volumes line).enabled = true := enabled_take_of_kept on goesOn
    have last := lastOf?_cons (valueOf? slot.word) line rest
    rw [lastOf?, lastOf?] at last
    rw [List.foldl_cons, ih still later, get_take slot on, last, Option.or_assoc]

theorem hasLoader_foldl_take :
    (lines.foldl (take volumes) stanza).hasLoader =
      (stanza.hasLoader || (lines.filterMap (valueOf? "loader")).any (· != "")) := by
  induction lines generalizing stanza with
  | nil => simp
  | cons line rest ih =>
    obtain ⟨goesOn, later⟩ := List.forall_mem_cons.mp kept
    have still : (stanza.take volumes line).enabled = true := enabled_take_of_kept on goesOn
    rw [List.foldl_cons, ih still later, hasLoader_take on, List.filterMap_cons, Bool.or_assoc]
    cases valueOf? "loader" line with
    | none => rfl
    | some value => rfl

end

/-! ## Whole blocks -/

section

variable (volumes : List Volume) (title : Option String) (selfVolume : Option Nat)

/-- A block after lines. -/
def afterLines (lines : List Line) : Stanza :=
  ((start title selfVolume).feedAll volumes lines).value

variable {lines : List Line}

theorem base_afterLines :
    (afterLines volumes title selfVolume lines).base =
      (own false lines).foldl (take volumes) (start title selfVolume) :=
  base_feedAll lines (start title selfVolume)

theorem unfinished_afterLines : Unfinished (afterLines volumes title selfVolume lines) := by
  have begun : Unfinished (start title selfVolume) := ⟨rfl, rfl⟩
  rw [← unfinished_base, base_afterLines]
  exact begun.foldl_take (own false lines)

theorem enabled_afterLines_iff :
    (afterLines volumes title selfVolume lines).enabled = true ↔
      ∀ line ∈ own false lines, disables line = false := by
  rw [afterLines, enabled_feedAll]
  simp [start]

variable (kept : ∀ line ∈ own false lines, disables line = false)

include kept

/-- A text of a block is the last value that its own lines give to a keyword. -/
theorem get_afterLines (slot : Slot) :
    slot.get (afterLines volumes title selfVolume lines) =
      (valuesOf slot.word lines).getLast? := by
  have none : slot.get (start title selfVolume) = .none := by cases slot <;> rfl
  rw [← get_base, base_afterLines, get_foldl_take rfl kept, none, Option.or_none, valuesOf]

theorem hasLoader_afterLines :
    (afterLines volumes title selfVolume lines).hasLoader =
      (valuesOf "loader" lines).any (· != "") := by
  have same : (afterLines volumes title selfVolume lines).base.hasLoader = _ :=
    congrArg Stanza.hasLoader (base_afterLines volumes title selfVolume)
  rw [hasLoader_foldl_take rfl kept] at same
  exact same

end

end Stanza

end BootManager.Config
