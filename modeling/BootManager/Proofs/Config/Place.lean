import BootManager.Config.Item
import BootManager.Proofs.Config.BlockLine

/-!
# Where lines stand

A line stands outside of blocks, in a block, or in a submenu of one, and the lines in front of it
decide which, in the same way as they do for a block that is being read (`next_within`). Lines after
which no block is open make up parts of their own (`Item.ofLines_append`), and the includes among
these parts are the include lines outside of blocks (`Item.ofLines_ownLines`).
-/

namespace BootManager.Config

/-- Where a line stands. -/
inductive Place where
  | outside
  /-- In a block, but in no submenu of it. -/
  | block
  | submenu
  deriving DecidableEq, Repr

namespace Place

/-- Where the line after a line stands. -/
def next (line : Line) : Place → Place
  | outside => if Item.isHeader line then block else outside
  | block =>
    if Stanza.closes line then outside
    else if Stanza.opensSubmenu line then submenu
    else block
  | submenu => if Stanza.closes line then block else submenu

/-- Where the line after some lines stands. -/
def after (place : Place) (lines : List Line) : Place :=
  lines.foldl (fun place line => place.next line) place

/-- The lines without the includes outside of blocks. -/
def ownLines : Place → List Line → List Line
  | _, [] => []
  | place, line :: rest =>
    if place = outside ∧ Item.isInclude line = true then ownLines (place.next line) rest
    else line :: ownLines (place.next line) rest

/-- The place of a line in a block. `inside` tells whether a submenu is open. -/
def within (inside : Bool) : Place :=
  if inside then submenu else block

@[simp] theorem within_true : within true = submenu := rfl

@[simp] theorem within_false : within false = block := rfl

theorem within_inj {a b : Bool} (same : within a = within b) : a = b := by
  revert a b
  decide

/-! ## After one line -/

theorem within_ne_outside (inside : Bool) : within inside ≠ outside := by
  cases inside <;> decide

theorem isHeader_eq_false {line : Line} (names : Item.isInclude line = true) :
    Item.isHeader line = false := by
  cases line with
  | nil => rfl
  | cons keyword values =>
    have isWord : Text.lower keyword = Text.lower "include" :=
      Text.sameIgnoringCase_iff.mp (by simpa [Item.isInclude] using names)
    have others : Text.lower "include" ≠ Text.lower "menuentry" := by decide
    simpa [Item.isHeader, ← Bool.not_eq_true, Text.sameIgnoringCase_iff, isWord] using others

@[simp] theorem next_outside_of_isInclude {line : Line} (names : Item.isInclude line = true) :
    outside.next line = outside := by
  simp [next, isHeader_eq_false names]

theorem submenu_set (volumes : List Volume) (keyword : String) (value : Option String)
    (stanza : Stanza) :
    (stanza.set volumes keyword value).value.submenu = stanza.submenu := by
  rw [Stanza.value_set]

/-- Reading a line of a block ends the block where the next line is outside, and otherwise leaves
a submenu open exactly if the next line stands in one. -/
theorem next_within (volumes : List Volume) (line : Line) (stanza : Stanza) :
    (within stanza.submenu.isSome).next line =
      match (stanza.feed volumes line).value with
      | (.finished, _) => outside
      | (.more, later) => within later.submenu.isSome := by
  cases line with
  | nil =>
    cases submenu : stanza.submenu <;>
      simp [Stanza.feed, next, submenu, Stanza.closes, Stanza.opensSubmenu]
  | cons keyword values =>
    cases submenu : stanza.submenu with
    | some sub =>
      cases closed : Stanza.closes (keyword :: values) with
      | true => simp [Stanza.feed, Stanza.closeSubmenu, next, submenu, closed]
      | false => simp [Stanza.feed, next, submenu, closed]
    | none =>
      cases closed : Stanza.closes (keyword :: values) with
      | true => simp [Stanza.feed, next, submenu, closed]
      | false =>
        cases opened : Stanza.opensSubmenu (keyword :: values) with
        | true => simp [Stanza.feed, Stanza.openSubmenu, next, submenu, closed, opened]
        | false =>
          cases enabled : stanza.enabled with
          | true => simp [Stanza.feed, next, submenu, closed, opened, enabled, submenu_set]
          | false => simp [Stanza.feed, next, submenu, closed, opened, enabled]

/-! ## After many lines -/

@[simp] theorem after_cons (place : Place) (line : Line) (rest : List Line) :
    place.after (line :: rest) = (place.next line).after rest := rfl

theorem ownLines_append (place : Place) (first rest : List Line) :
    ownLines place (first ++ rest) = ownLines place first ++ ownLines (place.after first) rest := by
  induction first generalizing place with
  | nil => rfl
  | cons line first ih =>
    simp only [List.cons_append, ownLines, after_cons, ih]
    split <;> rfl

theorem after_ownLines (place : Place) (lines : List Line) :
    place.after (ownLines place lines) = place.after lines := by
  induction lines generalizing place with
  | nil => rfl
  | cons line rest ih =>
    rw [ownLines, after_cons]
    split
    next left =>
      obtain ⟨rfl, names⟩ := left
      rw [next_outside_of_isInclude names]
      exact ih outside
    next => rw [after_cons, ih]

/-! ## Blocks -/

/-- A block goes on after a line exactly if the next line is not outside. -/
theorem cutBlock_cons (inside : Bool) (line : Line) :
    ((within inside).next line = outside ∧
        ∀ rest, Item.cutBlock inside (line :: rest) = ([line], rest)) ∨
      ∃ later, (within inside).next line = within later ∧
        ∀ rest, Item.cutBlock inside (line :: rest) =
          (line :: (Item.cutBlock later rest).1, (Item.cutBlock later rest).2) := by
  cases inside with
  | true =>
    -- The brace that closes a submenu leaves the block open.
    refine .inr ⟨!Stanza.closes line, ?_, fun rest => by simp [Item.cutBlock]⟩
    cases closed : Stanza.closes line <;> simp [within, next, closed]
  | false =>
    cases closed : Stanza.closes line with
    | true =>
      exact .inl ⟨by simp [within, next, closed], fun rest => by simp [Item.cutBlock, closed]⟩
    | false =>
      refine .inr ⟨Stanza.opensSubmenu line, ?_, fun rest => by simp [Item.cutBlock, closed]⟩
      cases opened : Stanza.opensSubmenu line <;> simp [within, next, closed, opened]

/-- What follows the end of a block does not move it. -/
theorem cutBlock_append_of_after {inside : Bool} {lines : List Line}
    (closed : (within inside).after lines = outside) (more : List Line) :
    Item.cutBlock inside (lines ++ more) =
      ((Item.cutBlock inside lines).1, (Item.cutBlock inside lines).2 ++ more) := by
  induction lines generalizing inside with
  | nil => exact absurd closed (within_ne_outside inside)
  | cons line rest ih =>
    obtain ⟨-, cut⟩ | ⟨later, stays, cut⟩ := cutBlock_cons inside line
    · simp [cut]
    · rw [after_cons, stays] at closed
      simp [cut, ih closed]

/-- The lines after the end of a block leave no block open if all lines from inside of it do not. -/
theorem after_cutBlock {inside : Bool} {lines : List Line}
    (closed : (within inside).after lines = outside) :
    outside.after (Item.cutBlock inside lines).2 = outside := by
  induction lines generalizing inside with
  | nil => exact absurd closed (within_ne_outside inside)
  | cons line rest ih =>
    obtain ⟨left, cut⟩ | ⟨later, stays, cut⟩ := cutBlock_cons inside line
    · rw [after_cons, left] at closed
      simp [cut, closed]
    · rw [after_cons, stays] at closed
      simp [cut, ih closed]

/-- Leaving includes out changes nothing in a block. -/
theorem cutBlock_ownLines (inside : Bool) (lines : List Line) :
    Item.cutBlock inside (ownLines (within inside) lines) =
      ((Item.cutBlock inside lines).1, ownLines outside (Item.cutBlock inside lines).2) := by
  induction lines generalizing inside with
  | nil => rfl
  | cons line rest ih =>
    rw [ownLines, if_neg fun left => within_ne_outside inside left.1]
    obtain ⟨left, cut⟩ | ⟨later, stays, cut⟩ := cutBlock_cons inside line
    -- Either the lines left out are all after the end of the block, or the next line is in it too.
    · rw [left, cut, cut]
    · rw [stays, cut, cut, ih]

/-- Reads the lines of a block one by one until the block says that it is finished, and tells what
lines are left. -/
def readBlock (volumes : List Volume) : List Line → Stanza → Logged (Stanza × List Line)
  | [], stanza => pure (stanza, [])
  | line :: rest, stanza => do
    match ← stanza.feed volumes line with
    | (.finished, stanza) => pure (stanza, rest)
    | (.more, stanza) => readBlock volumes rest stanza

/-- A block reads the lines that are cut for it, and leaves the others. -/
theorem value_readBlock (volumes : List Volume) (lines : List Line) (stanza : Stanza) :
    (readBlock volumes lines stanza).value =
      ((stanza.feedAll volumes (Item.cutBlock stanza.submenu.isSome lines).1).value,
        (Item.cutBlock stanza.submenu.isSome lines).2) := by
  induction lines generalizing stanza with
  | nil => rfl
  | cons line rest ih =>
    have step := next_within volumes line stanza
    rw [readBlock, Logged.value_bind]
    match fed : (stanza.feed volumes line).value with
    | (.finished, later) =>
      rw [fed] at step
      obtain ⟨-, cut⟩ | ⟨inside, stays, -⟩ := cutBlock_cons stanza.submenu.isSome line
      · simp [cut, Stanza.feedAll, fed]
      · exact absurd (stays.symm.trans step) (within_ne_outside inside)
    | (.more, later) =>
      rw [fed] at step
      obtain ⟨left, -⟩ | ⟨inside, stays, cut⟩ := cutBlock_cons stanza.submenu.isSome line
      · exact absurd (step.symm.trans left) (within_ne_outside _)
      · have same : inside = later.submenu.isSome := within_inj (stays.symm.trans step)
        simp [cut, same, ih, Stanza.feedAll, fed]

end Place

namespace Item

open Place

/-- Whether a part names another file. -/
def namesFile : Item → Bool
  | .include _ => true
  | _ => false

theorem ofLines_cons_include {line : Line} (names : isInclude line = true) (rest : List Line) :
    ofLines (line :: rest) = .include line :: ofLines rest := by
  rw [ofLines, if_pos names]

/-- Lines that leave no block open make up parts of their own. -/
theorem ofLines_append {first : List Line} (closed : outside.after first = outside)
    (rest : List Line) : ofLines (first ++ rest) = ofLines first ++ ofLines rest := by
  fun_induction ofLines first with
  | case1 => rfl
  | case2 line first names ih =>
    rw [after_cons, next_outside_of_isInclude names] at closed
    rw [List.cons_append, ofLines_cons_include names, ih closed, List.cons_append]
  | case3 line first other opens ih =>
    have inBlock : (within false).after first = outside := by
      simpa [next, opens, within] using closed
    rw [List.cons_append, ofLines, if_neg other, if_pos opens, cutBlock_append_of_after inBlock,
      ih (after_cutBlock inBlock), List.cons_append]
  | case4 line first other plain ih =>
    rw [after_cons, next, if_neg plain] at closed
    rw [List.cons_append, ofLines, if_neg other, if_neg plain, ih closed, List.cons_append]

/-- Without their includes outside of blocks, lines make up the same parts but the includes. -/
theorem ofLines_ownLines (lines : List Line) :
    ofLines (ownLines outside lines) = (ofLines lines).filter fun item => !item.namesFile := by
  fun_induction ofLines lines with
  | case1 => simp [ownLines, ofLines]
  | case2 line rest names ih =>
    rw [ownLines, if_pos ⟨rfl, names⟩, next_outside_of_isInclude names, ih]
    rfl
  | case3 line rest other opens ih =>
    rw [ownLines, if_neg fun left => other left.2, next, if_pos opens, ofLines, if_neg other,
      if_pos opens, ← within_false, cutBlock_ownLines, ih]
    rfl
  | case4 line rest other plain ih =>
    rw [ownLines, if_neg fun left => other left.2, next, if_neg plain, ofLines, if_neg other,
      if_neg plain, ih]
    rfl

end Item

end BootManager.Config
