import BootManager.Proofs.Config.Apply
import BootManager.Proofs.Config.SettingLines

/-!
# Settings stay in their ranges

`Settings.InRange` is one invariant for all settings that are bounded or have to agree with each
other. The settings before any line have it, every line keeps it, and so does what is done once all
lines were read. The main result is `load_inRange`.
-/

namespace BootManager.Config

/-! ## Bits -/

/-- Whether a word has no bits but those of a mask. -/
def OnlyBits (mask bits : UInt32) : Prop :=
  bits &&& ~~~mask = 0

instance (mask bits : UInt32) : Decidable (OnlyBits mask bits) :=
  inferInstanceAs (Decidable (_ = _))

theorem OnlyBits.or {mask bits more : UInt32} (first : OnlyBits mask bits)
    (second : OnlyBits mask more) : OnlyBits mask (bits ||| more) := by
  unfold OnlyBits at *
  rw [← UInt32.toBitVec_inj] at *
  simp only [UInt32.toBitVec_and, UInt32.toBitVec_or, UInt32.toBitVec_not] at *
  rw [BitVec.and_comm, BitVec.and_or_distrib_left, BitVec.and_comm, first, BitVec.and_comm, second]
  rfl

/-- Every family. -/
def LoaderSet.full : LoaderSet :=
  LoaderFamily.all.foldl LoaderSet.insert .empty

namespace Value

variable {hidden : HideSet} {loaders : LoaderSet}

theorem onlyBits_hide (defined : OnlyBits HideSet.full.bits hidden.bits) (value : String) :
    OnlyBits HideSet.full.bits (hide hidden value).value.bits := by
  unfold hide
  split
  next => decide
  next =>
    cases HidePart.ofWord? value with
    | none => exact defined
    | some part =>
      have bit : OnlyBits HideSet.full.bits part.bit := by cases part <;> decide
      change OnlyBits HideSet.full.bits (hidden.bits ||| part.bit)
      exact defined.or bit

theorem onlyBits_hidden (defined : OnlyBits HideSet.full.bits hidden.bits) (line : Line) :
    OnlyBits HideSet.full.bits (Value.hidden line hidden).value.bits := by
  unfold Value.hidden
  split
  next => decide
  next =>
    rw [Logged.value_foldlM]
    refine List.foldlRecOn (motive := fun set : HideSet => OnlyBits HideSet.full.bits set.bits)
      _ _ defined ?_
    intro set defined value _
    exact onlyBits_hide defined value

theorem onlyBits_graphicsFor (defined : OnlyBits LoaderSet.full.bits loaders.bits) (line : Line) :
    OnlyBits LoaderSet.full.bits (graphicsFor line loaders).bits := by
  have start : OnlyBits LoaderSet.full.bits (if appends line then loaders else .empty).bits := by
    split
    next => exact defined
    next => decide
  refine List.foldlRecOn (motive := fun set : LoaderSet => OnlyBits LoaderSet.full.bits set.bits)
    _ _ start ?_
  intro set defined family _
  have bit : OnlyBits LoaderSet.full.bits family.bit := by cases family <;> decide
  exact defined.or bit

/-! ## Numbers -/

/-- A number that is moved between two bounds lies there. -/
theorem within_clamp {α : Type} [LE α] [DecidableLE α] [Std.IsLinearPreorder α] (low high x : α)
    (ordered : low ≤ high) :
    low ≤ @max α maxOfLe low (@min α minOfLe high x) ∧
      @max α maxOfLe low (@min α minOfLe high x) ≤ high := by
  have below : @min α minOfLe high x ≤ high := by
    change (if high ≤ x then high else x) ≤ high
    split
    next => exact Std.le_refl high
    next above => exact Std.le_total.resolve_left above
  change low ≤ (if low ≤ _ then _ else low) ∧ (if low ≤ _ then _ else low) ≤ high
  split
  next above => exact ⟨above, below⟩
  next => exact ⟨Std.le_refl low, ordered⟩

theorem hexes_le {limit : UInt32} {old : List UInt32} (bounded : ∀ mask ∈ old, mask ≤ limit)
    (line : Line) : ∀ mask ∈ hexes limit line old, mask ≤ limit := by
  intro mask member
  obtain before | added := List.mem_append.mp member
  · split at before
    next => exact bounded mask before
    next => exact absurd before List.not_mem_nil
  · exact of_decide_eq_true (List.mem_filter.mp added).2

end Value

namespace Colour

/-- A colour can be shown exactly if its components are numbers of a byte. -/
theorem isValid_iff (c : Colour) : c.isValid = true ↔
    (0 ≤ c.red ∧ c.red ≤ 255) ∧ (0 ≤ c.green ∧ c.green ≤ 255) ∧ (0 ≤ c.blue ∧ c.blue ≤ 255) := by
  simp [isValid, and_assoc]

end Colour

namespace ToolRow

theorem contains_iff (row : ToolRow) (tool : Tool) :
    row.contains tool = true ↔ some tool ∈ row.slots :=
  List.contains_iff_mem

end ToolRow

/-! ## The invariant -/

namespace Settings

/-- The ranges of settings, and what they have to do with each other. -/
structure InRange (s : Settings) : Prop where
  directBoot_iff : s.directBoot = true ↔ s.timeout < 0
  logLevel : 0 ≤ s.logLevel ∧ s.logLevel ≤ 4
  mouseSpeed : 1 ≤ s.mouseSpeed ∧ s.mouseSpeed ≤ 32
  smallIcon : 32 ≤ s.icons.small
  bigIcon : 32 ≤ s.icons.big
  badge_eq : s.icons.badge = s.icons.big / 4
  pointer : 16 ≤ s.icons.mouse
  csrValues : ∀ mask ∈ s.csrValues, mask ≤ 0xFFF
  hidden : OnlyBits HideSet.full.bits s.hidden.bits
  graphicsFor : OnlyBits LoaderSet.full.bits s.graphicsFor.bits
  tools : s.tools.slots.length ≤ 28
  hiddenTags_iff : s.hiddenTags = true ↔ some .hidden ∈ s.tools.slots
  /-- The mouse and the touch screen are not both on. -/
  one_pointer : ¬(s.switch.get .enableMouse = true ∧ s.switch.get .enableTouch = true)
  background : s.customBackground = true →
    (0 ≤ s.background.red ∧ s.background.red ≤ 255) ∧
      (0 ≤ s.background.green ∧ s.background.green ≤ 255) ∧
      (0 ≤ s.background.blue ∧ s.background.blue ≤ 255)

theorem inRange_default (appleFirmware : Bool) : (default appleFirmware).InRange where
  directBoot_iff := by decide +revert
  logLevel := by decide +revert
  mouseSpeed := by decide +revert
  smallIcon := by decide +revert
  bigIcon := by decide +revert
  badge_eq := by decide +revert
  pointer := by decide +revert
  csrValues := fun _ member => absurd member List.not_mem_nil
  hidden := by decide +revert
  graphicsFor := by decide +revert
  tools := by decide +revert
  hiddenTags_iff := by decide +revert
  one_pointer := by decide +revert
  background := by decide +revert

variable {s : Settings}

theorem inRange_withDefaults (inRange : s.InRange) (ctx : Context) :
    (s.withDefaults ctx).InRange :=
  { inRange with }

/-- The mouse pointer can get any speed of its range. -/
theorem InRange.withMouseSpeed (inRange : s.InRange) {speed : UInt32}
    (bounds : 1 ≤ speed ∧ speed ≤ 32) : ({ s with mouseSpeed := speed } : Settings).InRange :=
  { inRange with mouseSpeed := bounds }

/-! ### Lines -/

/-- An action of a directive keeps the settings in their ranges. -/
theorem inRange_run (inRange : s.InRange) {action : Action}
    (plain : action ≠ .switch .enableMouse ∧ action ≠ .switch .enableTouch) (ctx : Context)
    (inverted : Bool) (line : Line) : (action.run ctx inverted line s).value.InRange := by
  -- What an action does not write is as before, so each case names the fields that it writes.
  cases action with
  | signed field => exact { inRange with }
  | unsigned field => exact { inRange with }
  | text field => exact { inRange with }
  | paths field => exact { inRange with }
  | switch field =>
    have mouse : Switch.enableMouse ≠ field := by
      rintro rfl
      exact plain.1 rfl
    have touch : Switch.enableTouch ≠ field := by
      rintro rfl
      exact plain.2 rfl
    refine { inRange with one_pointer := ?_ }
    change ¬((s.switch.set field _).get .enableMouse = true ∧
      (s.switch.set field _).get .enableTouch = true)
    rw [Table.get_set_of_ne _ _ mouse, Table.get_set_of_ne _ _ touch]
    exact inRange.one_pointer
  | timeout => exact { inRange with directBoot_iff := decide_eq_true_iff }
  | logLevel =>
    have clamped := Value.within_clamp 0 Action.maxLogLevel (Value.signed line s.logLevel)
      (by decide)
    exact { inRange with logLevel := clamped }
  | mouseSpeed =>
    have clamped := Value.within_clamp 1 Action.maxMouseSpeed
      (Text.readUnsigned (Action.value line)) (by decide)
    exact inRange.withMouseSpeed clamped
  | smallIcons =>
    dsimp only [Action.run, Logged.value_pure]
    split
    next large => exact { inRange with smallIcon := large }
    next => exact inRange
  | bigIcons =>
    dsimp only [Action.run, Logged.value_pure]
    split
    next large => exact { inRange with bigIcon := large, badge_eq := rfl }
    next => exact inRange
  | pointerSize =>
    dsimp only [Action.run, Logged.value_pure]
    split
    next large => exact { inRange with pointer := large }
    next => exact inRange
  | defaultSelection =>
    change (Action.selectDefault ctx line s).value.InRange
    obtain ⟨text, changed⟩ := s.exists_text_selectDefault ctx line
    rw [changed]
    exact { inRange with }
  | dontScanVolumes => exact { inRange with }
  | csrValues => exact { inRange with csrValues := Value.hexes_le inRange.csrValues line }
  | enableMouse => exact { inRange with one_pointer := one_enablePointer }
  | enableTouch =>
    exact { inRange with one_pointer := fun both => one_enablePointer both.symm }
  | hideUi => exact { inRange with hidden := Value.onlyBits_hidden inRange.hidden line }
  | graphicsFor =>
    exact { inRange with graphicsFor := Value.onlyBits_graphicsFor inRange.graphicsFor line }
  | bannerScale =>
    change (Action.scaleBanner line s).value.InRange
    obtain ⟨scale, changed⟩ := s.exists_scale_scaleBanner line
    rw [changed]
    exact { inRange with }
  | scanFor => exact { inRange with }
  | showTools =>
    exact { inRange with
      tools := (Value.tools line).value.length_le
      hiddenTags_iff := ToolRow.contains_iff _ _ }
  | resolution =>
    dsimp only [Action.run]
    cases Value.resolution line with
    | none => exact inRange
    | some size => exact { inRange with }
  | screenColour =>
    dsimp only [Action.run]
    cases Value.colour line with
    | none => exact inRange
    | some colour => exact { inRange with background := colour.isValid_iff.mp }

/-- Every line keeps the settings in their ranges. -/
theorem inRange_apply (ctx : Context) (s : Settings) (line : Line) (inRange : s.InRange) :
    (s.apply ctx line).value.settings.InRange := by
  rw [settings_apply]
  cases carried : Directive.carriedOut? line with
  | none => exact inRange
  | some found =>
    have plain := Directive.action_ne_pointer_of_mem (Directive.mem_table_of_carriedOut? carried)
    exact inRange_run inRange plain ctx found.inverted line

/-! ### The end -/

theorem hidden_mem_showHidden (slots : List (Option Tool)) :
    some .hidden ∈ showHidden slots := by
  fun_induction showHidden slots with
  | case1 => exact List.mem_cons_self
  | case2 rest => exact List.mem_cons_self
  | case3 slot rest _ ih => exact List.mem_cons_of_mem slot ih

theorem inRange_withTagsHelp (inRange : s.InRange) : s.withTagsHelp.value.InRange := by
  unfold withTagsHelp
  split
  next =>
    dsimp only
    split
    next room =>
      exact { inRange with
        tools := room
        hiddenTags_iff := iff_of_true rfl (hidden_mem_showHidden s.tools.slots) }
    next => exact inRange
  next => exact inRange

/-- Finishing writes two lists and three switches, and turns the mouse off if a touch screen
is on. -/
theorem value_finish (ctx : Context) (icons : Bool) (s : Settings) :
    (s.finish ctx icons).value =
      let helped := s.withTagsHelp.value
      let files := union (helped.list.get .dontScanFiles) (helped.list.get .windowsRecoveryFiles)
      let prefixes := helped.list.get .linuxPrefixes
      let prefixes := if prefixes.isEmpty then Defaults.linuxPrefixes else prefixes
      let textOnly := helped.switch.get .textOnly || !icons
      let protect := helped.switch.get .protectNvram && ctx.appleFirmware
      let mouse := helped.switch.get .enableMouse && !helped.switch.get .enableTouch
      { helped with
        list := (helped.list.set .dontScanFiles files).set .linuxPrefixes prefixes
        switch := ((helped.switch.set .textOnly textOnly).set .protectNvram protect).set
          .enableMouse mouse } := by
  unfold finish
  rw [Logged.value_bind]
  dsimp only
  split
  next => rfl
  next => rfl

theorem inRange_finish (inRange : s.InRange) (ctx : Context) (icons : Bool) :
    (s.finish ctx icons).value.InRange := by
  have helped := inRange_withTagsHelp inRange
  rw [value_finish]
  refine { helped with one_pointer := ?_ }
  rintro ⟨mouse, touch⟩
  -- The mouse is only left on where the touch screen is off, which finishing does not change.
  rw [Table.get_set_self, Bool.and_eq_true, Bool.not_eq_true'] at mouse
  rw [Table.get_set_of_ne _ _ (by decide), Table.get_set_of_ne _ _ (by decide),
    Table.get_set_of_ne _ _ (by decide), mouse.2] at touch
  exact Bool.false_ne_true touch

end Settings

/-- The settings of a configuration are in their ranges, before it is read, after every line on the
way, and when it was read. -/
theorem load_inRange (source : Source) (ctx : Context) (primary : String) :
    (Settings.default ctx.appleFirmware).InRange ∧
      (∀ count, (source.settingsAfter ctx primary count).InRange) ∧
      (load source ctx primary).value.settings.InRange := by
  have before := Settings.inRange_default ctx.appleFirmware
  have way (count : Nat) : (source.settingsAfter ctx primary count).InRange :=
    Settings.applyAll_keeps (Settings.inRange_apply ctx)
      (Settings.inRange_withDefaults before ctx) _
  obtain ⟨icons, finished⟩ := settings_load source ctx primary
  refine ⟨before, way, ?_⟩
  rw [finished]
  exact Settings.inRange_finish (way _) ctx icons

end BootManager.Config
