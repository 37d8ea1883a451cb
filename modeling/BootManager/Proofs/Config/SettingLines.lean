import BootManager.Proofs.Config.Splice

/-!
# The lines that settings are made of

Reading a configuration hands lines to the settings one by one: those of the primary file, and at
its includes those of the files that they name. Blocks and the includes of included files hand over
nothing. So the settings on the way are those at the start with the first of these lines applied,
and what holds at the start and is kept by every line holds all the way.
-/

namespace BootManager.Config

/-! ## Lines -/

/-- The lines for the settings that a part of a file stands for, where `included` gives those of an
include. -/
def Item.settingLines (included : Line → List Line) : Item → List Line
  | .directive line => [line]
  | .include line => included line
  | .block _ _ => []

namespace Source

/-- The lines for the settings that a file stands for. -/
def settingLines (source : Source) (included : Line → List Line) (path : String) : List Line :=
  (Item.ofLines (source.lines path)).flatMap (Item.settingLines included)

/-- The lines for the settings that an include of the primary file stands for. -/
def includedLines (source : Source) (ctx : Context) (primary : String) (line : Line) : List Line :=
  match Draft.includeTarget? line with
  | none => []
  | some target =>
    if Text.sameIgnoringCase target primary then []
    else source.settingLines (fun _ => []) (ctx.resolve target)

/-- The lines for the settings of a whole configuration, in the order in which they are read. -/
def allSettingLines (source : Source) (ctx : Context) (primary : String) : List Line :=
  source.settingLines (source.includedLines ctx primary) (ctx.resolve primary)

/-- The settings on the way through a configuration, when `count` of its lines were applied. -/
def settingsAfter (source : Source) (ctx : Context) (primary : String) (count : Nat) : Settings :=
  ((Draft.start ctx).settings.applyAll ctx
    ((source.allSettingLines ctx primary).take count)).value

end Source

/-! ## Applying lines -/

namespace Settings

variable {ctx : Context} {s : Settings}

theorem value_applyAll (lines : List Line) :
    (s.applyAll ctx lines).value =
      lines.foldl (fun s line => (s.apply ctx line).value.settings) s := by
  simp [applyAll]

@[simp] theorem value_applyAll_nil : (s.applyAll ctx []).value = s := rfl

theorem value_applyAll_cons (line : Line) (lines : List Line) :
    (s.applyAll ctx (line :: lines)).value =
      ((s.apply ctx line).value.settings.applyAll ctx lines).value := by
  rw [value_applyAll, value_applyAll, List.foldl_cons]

theorem value_applyAll_append (first rest : List Line) :
    (s.applyAll ctx (first ++ rest)).value =
      ((s.applyAll ctx first).value.applyAll ctx rest).value := by
  rw [value_applyAll, value_applyAll, value_applyAll, List.foldl_append]

/-- What every line keeps is kept by any number of lines. -/
theorem applyAll_keeps {P : Settings → Prop}
    (step : ∀ s line, P s → P (s.apply ctx line).value.settings) (start : P s) (lines : List Line) :
    P (s.applyAll ctx lines).value := by
  induction lines generalizing s with
  | nil => exact start
  | cons line lines ih =>
    rw [value_applyAll_cons]
    exact ih (step s line start)

end Settings

/-! ## Reading -/

namespace Draft

variable {source : Source} {ctx : Context} {primary : String} {draft : Draft}
  {onInclude : Line → Draft → Logged Draft} {included : Line → List Line}

/-- Parts apply the lines that they stand for, if includes do. -/
theorem settings_addItems
    (reads : ∀ line draft, (onInclude line draft).value.settings =
      (draft.settings.applyAll ctx (included line)).value) (items : List Item) :
    (draft.addItems ctx onInclude items).value.settings =
      (draft.settings.applyAll ctx (items.flatMap (Item.settingLines included))).value := by
  induction items generalizing draft with
  | nil => rfl
  | cons item items ih =>
    have first : (addItem ctx onInclude draft item).value.settings =
        (draft.settings.applyAll ctx (item.settingLines included)).value := by
      cases item with
      | directive line => rfl
      | «include» line => exact reads line draft
      | block header body => rfl
    rw [value_addItems_cons, ih, first, List.flatMap_cons, Settings.value_applyAll_append]

theorem settings_includeFile (line : Line) (draft : Draft) :
    (includeFile source ctx primary line draft).value.settings =
      (draft.settings.applyAll ctx (source.includedLines ctx primary line)).value := by
  unfold includeFile Source.includedLines
  cases includeTarget? line with
  | none => rfl
  | some target =>
    dsimp only
    split
    next => rfl
    next =>
      rw [value_addFile]
      refine settings_addItems (fun line draft => ?_) _
      rw [value_refuseInclude, Settings.value_applyAll_nil]

/-- The settings that the primary file leaves are those at the end of the way. -/
theorem settings_addFile_start :
    ((start ctx).addFile source ctx (includeFile source ctx primary) primary).value.settings =
      source.settingsAfter ctx primary (source.allSettingLines ctx primary).length := by
  rw [value_addFile, settings_addItems settings_includeFile, Source.settingsAfter, List.take_length]
  rfl

end Draft

/-- A configuration finishes the settings that all of its lines leave. -/
theorem settings_load (source : Source) (ctx : Context) (primary : String) :
    ∃ icons, (load source ctx primary).value.settings =
      ((source.settingsAfter ctx primary (source.allSettingLines ctx primary).length).finish ctx
        icons).value := by
  rw [← Draft.settings_addFile_start]
  exact ⟨_, rfl⟩

end BootManager.Config
