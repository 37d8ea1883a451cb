import BootManager.Proofs.Config.SettingLines

/-!
# The parts that are read

Reading a configuration reads the parts of the primary file in order, where an include stands for
the parts of the file that it names, but for the includes among these. Settings come from the
directives among all of these parts, and entries from the blocks (`value_load`).
-/

namespace BootManager.Config

/-- The entry of a block, if it makes one. -/
def entryOfBlock? (ctx : Context) (header : Line) (body : List Line) : Option MenuEntry :=
  let block := (Stanza.start header[1]? ctx.selfVolume).feedAll ctx.volumes body
  (block.value.commit ctx.volumes).value

namespace Item

/-- The entries that a part of a file stands for. -/
def entries (ctx : Context) : Item → List MenuEntry
  | .block header body => (entryOfBlock? ctx header body).toList
  | _ => []

/-- The path that a part of the primary file leads to, if it is an include that is followed. -/
def path? (ctx : Context) (primary : String) : Item → Option String
  | .include line =>
    ((Draft.includeTarget? line).filter fun target =>
      !Text.sameIgnoringCase target primary).map ctx.resolve
  | _ => none

end Item

namespace Source

variable (source : Source) (ctx : Context) (primary : String)

/-- The parts of a file. -/
def items (path : String) : List Item :=
  Item.ofLines (source.lines path)

/-- The parts of a file that are read where it is included. -/
def ownItems (path : String) : List Item :=
  (source.items path).filter fun item => !item.namesFile

/-- The parts that are read for a part of the primary file. -/
def expand (item : Item) : List Item :=
  if item.namesFile then ((item.path? ctx primary).map source.ownItems).getD [] else [item]

/-- All parts that are read, in order. -/
def allItems : List Item :=
  (source.items (ctx.resolve primary)).flatMap (source.expand ctx primary)

/-- The paths of the files that are read, in order. -/
def pathsRead : List String :=
  ctx.resolve primary :: (source.items (ctx.resolve primary)).filterMap (Item.path? ctx primary)

end Source

namespace Draft

variable {source : Source} {ctx : Context} {primary : String} {draft : Draft}
  {onInclude : Line → Draft → Logged Draft}

/-- A part of the primary file reads the parts that it stands for, whatever reads those. -/
theorem value_addItem_expand (onOther : Line → Draft → Logged Draft) (item : Item) :
    (draft.addItem ctx (includeFile source ctx primary) item).value =
      (draft.addItems ctx onOther (source.expand ctx primary item)).value := by
  cases item with
  | directive line => rfl
  | block header body => rfl
  | «include» line =>
    simp only [Source.expand, Item.namesFile, if_true, Item.path?, addItem, includeFile]
    cases includeTarget? line with
    | none => rfl
    | some target =>
      by_cases itself : Text.sameIgnoringCase target primary = true
      · simp [itself, Option.filter, addItems]
      · simp only [itself, Option.filter, Bool.not_false, if_true, Bool.false_eq_true, if_false,
          Option.map_some, Option.getD_some]
        rw [value_addFile]
        exact value_addItems_filter (fun line draft => value_refuseInclude target line) _

theorem value_addItems_expand (onOther : Line → Draft → Logged Draft) (items : List Item) :
    (draft.addItems ctx (includeFile source ctx primary) items).value =
      (draft.addItems ctx onOther (items.flatMap (source.expand ctx primary))).value := by
  induction items generalizing draft with
  | nil => rfl
  | cons item items ih =>
    rw [value_addItems_cons, value_addItem_expand onOther, ih, List.flatMap_cons,
      value_addItems_append]

theorem entries_addItems
    (keeps : ∀ line draft, (onInclude line draft).value.entries = draft.entries)
    (items : List Item) :
    (draft.addItems ctx onInclude items).value.entries =
      draft.entries ++ items.flatMap (Item.entries ctx) := by
  induction items generalizing draft with
  | nil => simp [addItems]
  | cons item items ih =>
    rw [value_addItems_cons, ih, List.flatMap_cons, ← List.append_assoc]
    congr 1
    cases item with
    | directive line => simp [addItem, applyLine, Item.entries]
    | «include» line => simp [addItem, keeps, Item.entries]
    | block header body => rfl

end Draft

/-- The settings before they are finished: those at the start with all directives applied. -/
def Source.settingsRead (source : Source) (ctx : Context) (primary : String) : Settings :=
  ((Draft.start ctx).settings.applyAll ctx
    ((source.allItems ctx primary).flatMap (Item.settingLines fun _ => []))).value

/-- A configuration has the settings of all directives that are read, and the entries of all
blocks. -/
theorem value_load (source : Source) (ctx : Context) (primary : String) :
    (load source ctx primary).value =
      ⟨((source.settingsRead ctx primary).finish ctx
          (hasIcons source ctx (source.settingsRead ctx primary)).value).value,
        (source.allItems ctx primary).flatMap (Item.entries ctx)⟩ := by
  let skip (_ : Line) (draft : Draft) : Logged Draft := pure draft
  let begun := Draft.start ctx
  have read : (begun.addFile source ctx (Draft.includeFile source ctx primary) primary).value =
      (begun.addItems ctx skip (source.allItems ctx primary)).value := by
    rw [Draft.value_addFile, Draft.value_addItems_expand skip]
    rfl
  have settings : (begun.addItems ctx skip (source.allItems ctx primary)).value.settings =
      source.settingsRead ctx primary :=
    Draft.settings_addItems (fun _ _ => rfl) _
  have entries : (begun.addItems ctx skip (source.allItems ctx primary)).value.entries =
      (source.allItems ctx primary).flatMap (Item.entries ctx) :=
    Draft.entries_addItems (fun _ _ => rfl) _
  rw [← settings, ← entries, ← read]
  rfl

/-- Every entry comes from a block that is read. -/
theorem exists_block_of_mem_load {source : Source} {ctx : Context} {primary : String}
    {entry : MenuEntry} (member : entry ∈ (load source ctx primary).value.entries) :
    ∃ header body, .block header body ∈ source.allItems ctx primary ∧
      entryOfBlock? ctx header body = some entry := by
  rw [value_load, List.mem_flatMap] at member
  obtain ⟨item, among, stands⟩ := member
  match item with
  | .block header body => exact ⟨header, body, among, by simpa [Item.entries] using stands⟩
  | .directive _ => cases stands
  | .include _ => cases stands

end BootManager.Config
