import BootManager.Proofs.Config.Apply

/-!
# Single settings

A `Setting` names one of the settings; `get` reads it and `put` writes it. Settings that agree on
every one of them are equal, so what a line does is told by what becomes of each.

Every setting belongs to one action, its owner. `Action.confined_run` says that an action has to do
with nothing but what belongs to it: other settings stay as they are, and what becomes of its own
does not depend on them. So actions with different settings can be carried out in either order.
-/

namespace BootManager.Config

/-- One of the settings. -/
inductive Setting where
  | timeout
  | directBoot
  | signed (field : SignedField)
  | logLevel
  | unsigned (field : UnsignedField)
  | mouseSpeed
  | badgeSize
  | smallSize
  | bigSize
  | pointerSize
  | text (field : TextField)
  | list (field : ListField)
  | csrValues
  | hidden
  | graphicsFor
  | bannerScale
  | scanFor
  | tools
  | hiddenTags
  | width
  | height
  | background
  | customBackground
  | switch (field : Switch)
  deriving DecidableEq, Repr

namespace Setting

/-- What a setting holds. -/
abbrev Value : Setting → Type
  | timeout | signed _ | logLevel => Int32
  | directBoot | hiddenTags | customBackground | switch _ => Bool
  | unsigned _ | mouseSpeed | badgeSize | smallSize | bigSize | pointerSize | width | height =>
    UInt32
  | text _ => Option String
  | list _ => List String
  | csrValues => List UInt32
  | hidden => HideSet
  | graphicsFor => LoaderSet
  | bannerScale => BannerScale
  | scanFor => ScanSlots
  | tools => ToolRow
  | background => Colour

/-- Reads a setting. -/
def get (s : Settings) : (x : Setting) → x.Value
  | timeout => s.timeout
  | directBoot => s.directBoot
  | signed field => s.signed.get field
  | logLevel => s.logLevel
  | unsigned field => s.unsigned.get field
  | mouseSpeed => s.mouseSpeed
  | badgeSize => s.icons.badge
  | smallSize => s.icons.small
  | bigSize => s.icons.big
  | pointerSize => s.icons.mouse
  | text field => s.text.get field
  | list field => s.list.get field
  | csrValues => s.csrValues
  | hidden => s.hidden
  | graphicsFor => s.graphicsFor
  | bannerScale => s.bannerScale
  | scanFor => s.scanFor
  | tools => s.tools
  | hiddenTags => s.hiddenTags
  | width => s.width
  | height => s.height
  | background => s.background
  | customBackground => s.customBackground
  | switch field => s.switch.get field

/-- Writes a setting and leaves the others alone. -/
def put (s : Settings) : (x : Setting) → x.Value → Settings
  | timeout, value => { s with timeout := value }
  | directBoot, value => { s with directBoot := value }
  | signed field, value => { s with signed := s.signed.set field value }
  | logLevel, value => { s with logLevel := value }
  | unsigned field, value => { s with unsigned := s.unsigned.set field value }
  | mouseSpeed, value => { s with mouseSpeed := value }
  | badgeSize, value => { s with icons := { s.icons with badge := value } }
  | smallSize, value => { s with icons := { s.icons with small := value } }
  | bigSize, value => { s with icons := { s.icons with big := value } }
  | pointerSize, value => { s with icons := { s.icons with mouse := value } }
  | text field, value => { s with text := s.text.set field value }
  | list field, value => { s with list := s.list.set field value }
  | csrValues, value => { s with csrValues := value }
  | hidden, value => { s with hidden := value }
  | graphicsFor, value => { s with graphicsFor := value }
  | bannerScale, value => { s with bannerScale := value }
  | scanFor, value => { s with scanFor := value }
  | tools, value => { s with tools := value }
  | hiddenTags, value => { s with hiddenTags := value }
  | width, value => { s with width := value }
  | height, value => { s with height := value }
  | background, value => { s with background := value }
  | customBackground, value => { s with customBackground := value }
  | switch field, value => { s with switch := s.switch.set field value }

/-- Settings are told apart by some single setting. -/
theorem ext_get {s t : Settings} (same : ∀ x : Setting, x.get s = x.get t) : s = t := by
  have icons : s.icons = t.icons := by
    have badge : s.icons.badge = t.icons.badge := same badgeSize
    have small : s.icons.small = t.icons.small := same smallSize
    have big : s.icons.big = t.icons.big := same bigSize
    have mouse : s.icons.mouse = t.icons.mouse := same pointerSize
    cases read : s.icons
    cases read' : t.icons
    simp_all
  have signed : s.signed = t.signed := Table.ext fun field => same (signed field)
  have unsigned : s.unsigned = t.unsigned := Table.ext fun field => same (unsigned field)
  have text : s.text = t.text := Table.ext fun field => same (text field)
  have list : s.list = t.list := Table.ext fun field => same (list field)
  have switch : s.switch = t.switch := Table.ext fun field => same (switch field)
  cases s
  cases t
  rw [Settings.mk.injEq]
  exact ⟨same timeout, same directBoot, signed, same logLevel, unsigned, same mouseSpeed, icons,
    text, list, same csrValues, same hidden, same graphicsFor, same bannerScale, same scanFor,
    same tools, same hiddenTags, same width, same height, same background, same customBackground,
    switch⟩

@[simp] theorem get_put_self (s : Settings) (x : Setting) (value : x.Value) :
    x.get (x.put s value) = value := by
  cases x with
  | signed | unsigned | text | list | switch => exact Table.get_set_self _ _ _
  | _ => rfl

theorem get_put_of_ne (s : Settings) {x y : Setting} (value : x.Value) (ne : y ≠ x) :
    y.get (x.put s value) = y.get s := by
  cases x with
  | signed field | unsigned field | text field | list field | switch field =>
    cases y <;> first | rfl | exact Table.get_set_of_ne _ _ fun same => ne (congrArg _ same)
  | _ => cases y <;> first | rfl | exact absurd rfl ne

end Setting

/-! ## Owners -/

/-- The switch that stands for those that turn each other off: of the two pointing devices, the
mouse. -/
def Switch.lead (field : Switch) : Switch :=
  if field = .enableTouch then .enableMouse else field

/-- The action that stands for all those that write the same settings. -/
def Action.lead : Action → Action
  | defaultSelection => text .defaultSelection
  | dontScanVolumes => paths .dontScanVolumes
  | enableMouse | enableTouch => switch .enableMouse
  | switch field => switch field.lead
  | action => action

/-- The action that a setting belongs to. -/
def Setting.owner : Setting → Action
  | timeout | directBoot => .timeout
  | signed field => .signed field
  | logLevel => .logLevel
  | unsigned field => .unsigned field
  | mouseSpeed => .mouseSpeed
  | badgeSize | bigSize => .bigIcons
  | smallSize => .smallIcons
  | pointerSize => .pointerSize
  | text field => .text field
  | list field => .paths field
  | csrValues => .csrValues
  | hidden => .hideUi
  | graphicsFor => .graphicsFor
  | bannerScale => .bannerScale
  | scanFor => .scanFor
  | tools | hiddenTags => .showTools
  | width | height => .resolution
  | background | customBackground => .screenColour
  | switch field => .switch field.lead

/-- Whether settings agree on all that belongs to an action. -/
def Agree (owner : Action) (s t : Settings) : Prop :=
  ∀ x : Setting, x.owner = owner → x.get s = x.get t

/-- A change of settings that has to do with nothing but what belongs to one action. -/
structure Confined (owner : Action) (change : Settings → Settings) : Prop where
  /-- Other settings stay as they are. -/
  kept : ∀ (x : Setting) (s : Settings), x.owner ≠ owner → x.get (change s) = x.get s
  /-- What becomes of its own settings depends on them alone. -/
  congr : ∀ {s t : Settings}, Agree owner s t → Agree owner (change s) (change t)

namespace Confined

variable {owner owner' : Action} {change change' : Settings → Settings}

protected theorem id : Confined owner id where
  kept _ _ _ := rfl
  congr agree := agree

theorem put (x : Setting) {value : Settings → x.Value}
    (reads : ∀ {s t : Settings}, Agree x.owner s t → value s = value t) :
    Confined x.owner fun s => x.put s (value s) where
  kept y s foreign := by
    refine Setting.get_put_of_ne s _ ?_
    rintro rfl
    exact foreign rfl
  congr {s t} agree y own := by
    by_cases same : y = x
    · subst same
      rw [Setting.get_put_self, Setting.get_put_self, reads agree]
    · rw [Setting.get_put_of_ne s _ same, Setting.get_put_of_ne t _ same]
      exact agree y own

theorem comp (confined : Confined owner change) (confined' : Confined owner change') :
    Confined owner fun s => change' (change s) where
  kept x s foreign := (confined'.kept x (change s) foreign).trans (confined.kept x s foreign)
  congr agree := confined'.congr (confined.congr agree)

/-- Two settings of one action are written. -/
theorem both (x y : Setting) (value : x.Value) (value' : y.Value) (same : y.owner = x.owner) :
    Confined x.owner fun s => y.put (x.put s value) value' := by
  have first : Confined x.owner fun s => x.put s value := put x fun _ => rfl
  have second : Confined y.owner fun s => y.put s value' := put y fun _ => rfl
  rw [same] at second
  exact first.comp second

theorem ite {p : Prop} [Decidable p] (confined : Confined owner change)
    (confined' : Confined owner change') :
    Confined owner fun s => if p then change s else change' s := by
  split
  · exact confined
  · exact confined'

/-- A change cannot be seen in what belongs to another action. -/
theorem agree_change (confined : Confined owner change) (apart : owner' ≠ owner) (s : Settings) :
    Agree owner' (change s) s := by
  intro x own
  refine confined.kept x s ?_
  rwa [own]

/-- Changes for different actions can be made in either order. -/
theorem comm (confined : Confined owner change) (confined' : Confined owner' change')
    (apart : owner ≠ owner') (s : Settings) : change (change' s) = change' (change s) := by
  refine Setting.ext_get fun x => ?_
  by_cases own : x.owner = owner
  · have foreign : x.owner ≠ owner' := fun own' => apart (own.symm.trans own')
    calc x.get (change (change' s))
        = x.get (change s) := confined.congr (confined'.agree_change apart s) x own
      _ = x.get (change' (change s)) := (confined'.kept x (change s) foreign).symm
  · by_cases own' : x.owner = owner'
    · calc x.get (change (change' s))
          = x.get (change' s) := confined.kept x (change' s) own
        _ = x.get (change' (change s)) :=
          (confined'.congr (confined.agree_change apart.symm s) x own').symm
    · -- A setting that belongs to neither action is kept by both changes.
      rw [confined.kept x _ own, confined'.kept x _ own', confined'.kept x _ own',
        confined.kept x _ own]

end Confined

/-! ## Actions -/

namespace Action

variable {ctx : Context} {inverted : Bool} {line : Line}

theorem confined_selectDefault :
    Confined (.text .defaultSelection) fun s => (selectDefault ctx line s).value := by
  match line with
  | [_, name, start, stop] =>
    -- What the times are and whether it is between them is told without the settings.
    dsimp only [selectDefault]
    by_cases invalid : TimeOfDay.read start > TimeOfDay.lastMinute ∨
        TimeOfDay.read stop > TimeOfDay.lastMinute
    · simp only [if_pos invalid]
      exact .id
    · simp only [if_neg invalid]
      cases ctx.minuteOfDay with
      | none => exact .id
      | some now =>
        by_cases within : TimeOfDay.inRange (TimeOfDay.read start) (TimeOfDay.read stop) now = true
        · simp only [if_pos within]
          exact .put (.text .defaultSelection) fun _ => rfl
        · simp only [if_neg within]
          exact .id
  | [] | [_] | [_, _] | [_, _, _] | _ :: _ :: _ :: _ :: _ :: _ =>
    exact .put (.text .defaultSelection) fun agree =>
      congrArg (Value.text _) (agree (.text .defaultSelection) rfl)

theorem confined_scaleBanner :
    Confined .bannerScale fun s => (scaleBanner line s).value := by
  dsimp only [scaleBanner]
  cases Text.sameIgnoringCase (value line) "noscale" with
  | true => exact .put .bannerScale fun _ => rfl
  | false =>
    cases Text.sameIgnoringCase (value line) "fillscreen" ||
        Text.sameIgnoringCase (value line) "fullscreen" with
    | true => exact .put .bannerScale fun _ => rfl
    | false => exact .id

theorem confined_enablePointer (device other : Switch) (same : other.lead = device.lead) :
    Confined (.switch device.lead) (enablePointer device other line) := by
  unfold enablePointer
  cases Value.isOn line with
  | true => exact .both (.switch device) (.switch other) true false (congrArg switch same)
  | false => exact .put (.switch device) fun _ => rfl

/-- An action has to do with nothing but what belongs to it. -/
theorem confined_run (ctx : Context) (action : Action) (inverted : Bool) (line : Line) :
    Confined action.lead fun s => (action.run ctx inverted line s).value := by
  cases action with
  | signed field =>
    exact .put (.signed field) fun agree =>
      congrArg (Value.signed line) (agree (.signed field) rfl)
  | unsigned field =>
    exact .put (.unsigned field) fun agree =>
      congrArg (Value.unsigned line) (agree (.unsigned field) rfl)
  | text field =>
    exact .put (.text field) fun agree => congrArg (Value.text line) (agree (.text field) rfl)
  | paths field =>
    exact .put (.list field) fun agree =>
      congrArg (Value.texts true line) (agree (.list field) rfl)
  | switch field => exact .put (.switch field) fun _ => rfl
  | timeout =>
    have first : Confined .timeout fun s => { s with timeout := Value.signed line s.timeout } :=
      .put .timeout fun agree => congrArg (Value.signed line) (agree .timeout rfl)
    have second : Confined .timeout fun s => { s with directBoot := s.timeout < 0 } :=
      .put .directBoot fun agree => congrArg (fun n : Int32 => decide (n < 0)) (agree .timeout rfl)
    exact first.comp second
  | logLevel =>
    exact .put .logLevel fun agree =>
      congrArg (fun n => max 0 (min maxLogLevel (Value.signed line n))) (agree .logLevel rfl)
  | mouseSpeed => exact .put .mouseSpeed fun _ => rfl
  | smallIcons => exact .ite (.put .smallSize fun _ => rfl) .id
  | bigIcons => exact .ite (.both .bigSize .badgeSize _ _ rfl) .id
  | pointerSize => exact .ite (.put .pointerSize fun _ => rfl) .id
  | defaultSelection => exact confined_selectDefault
  | dontScanVolumes => exact .put (.list .dontScanVolumes) fun _ => rfl
  | csrValues =>
    exact .put .csrValues fun agree =>
      congrArg (Value.hexes Value.maxCsrValue line) (agree .csrValues rfl)
  | enableMouse => exact confined_enablePointer .enableMouse .enableTouch rfl
  | enableTouch => exact confined_enablePointer .enableTouch .enableMouse rfl
  | hideUi =>
    exact .put .hidden fun agree =>
      congrArg (fun set => (Value.hidden line set).value) (agree .hidden rfl)
  | graphicsFor =>
    exact .put .graphicsFor fun agree =>
      congrArg (Value.graphicsFor line) (agree .graphicsFor rfl)
  | bannerScale => exact confined_scaleBanner
  | scanFor => exact .put .scanFor fun _ => rfl
  | showTools => exact .both .tools .hiddenTags _ _ rfl
  | resolution =>
    dsimp only [run]
    cases Value.resolution line with
    | none => exact .id
    | some size => exact .both .width .height _ _ rfl
  | screenColour =>
    dsimp only [run]
    cases Value.colour line with
    | none => exact .id
    | some colour => exact .both .background .customBackground _ _ rfl

end Action

end BootManager.Config
