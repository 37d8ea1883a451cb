import BootManager.Proofs.Config.Range
import BootManager.Proofs.Config.Setting

/-!
# What finishing does to settings

Once all lines were read, a few settings are brought in line with others. The main result is
`finish_finishLaw`: it says what becomes of these and that all others stay as they are. It is about
settings that lines can lead to (`Settings.Built`), since two of the rules only hold for those:
there is always room for the manager of hidden entries, and never a mouse beside a touch screen.
-/

namespace BootManager.Config

namespace Settings

variable {s : Settings}

/-! ## Settings that are built -/

/-- Settings that can be reached from those before any line, by the defaults of primary files and by
lines, in any order and in any surroundings. -/
inductive Built : Settings → Prop where
  | default (appleFirmware : Bool) : Built (default appleFirmware)
  | withDefaults (ctx : Context) {s : Settings} (built : Built s) : Built (s.withDefaults ctx)
  | apply (ctx : Context) (line : Line) {s : Settings} (built : Built s) :
    Built (s.apply ctx line).value.settings

theorem Built.applyAll {ctx : Context} (built : s.Built) (lines : List Line) :
    (s.applyAll ctx lines).value.Built :=
  applyAll_keeps (fun _ line => .apply ctx line) built lines

theorem Built.inRange (built : s.Built) : s.InRange := by
  induction built with
  | default appleFirmware => exact inRange_default appleFirmware
  | withDefaults ctx _ ih => exact inRange_withDefaults ih ctx
  | apply ctx line _ ih => exact inRange_apply ctx _ line ih

/-- A line names one tool less than a row can hold. -/
theorem length_tools_lt (line : Line) : (Value.tools line).value.slots.length < toolLimit := by
  have named : ((line.drop 1).take (toolLimit - 1)).length ≤ toolLimit - 1 :=
    List.length_take_le _ _
  have limit : 0 < toolLimit := by decide
  rw [Value.tools, Logged.value_bind, Logged.value_mapM]
  change (List.take toolLimit _).length < toolLimit
  rw [List.length_take, List.length_map]
  omega

theorem length_tools_run_lt (room : s.tools.slots.length < toolLimit) (ctx : Context)
    (action : Action) (inverted : Bool) (line : Line) :
    (action.run ctx inverted line s).value.tools.slots.length < toolLimit := by
  by_cases shows : action = .showTools
  · subst shows
    exact length_tools_lt line
  · -- The tools belong to no other action.
    have foreign : Setting.tools.owner ≠ action.lead := by
      cases action <;> first | exact absurd rfl shows | exact nofun
    have kept : (action.run ctx inverted line s).value.tools = s.tools :=
      (Action.confined_run ctx action inverted line).kept .tools s foreign
    rw [kept]
    exact room

/-- There is room for one more tool. -/
theorem Built.room (built : s.Built) : s.tools.slots.length < toolLimit := by
  induction built with
  | default appleFirmware => decide +revert
  | withDefaults _ _ ih => exact ih
  | apply ctx line _ ih =>
    rw [settings_apply]
    cases Directive.carriedOut? line with
    | none => exact ih
    | some found => exact length_tools_run_lt ih ctx found.directive.action found.inverted line

/-! ## Tools -/

/-- One more slot shows the manager of hidden entries: the first blank one, or a new one if none is
blank. -/
inductive OneShown : List (Option Tool) → List (Option Tool) → Prop where
  | filled {left right : List (Option Tool)} (full : none ∉ left) :
    OneShown (left ++ none :: right) (left ++ some .hidden :: right)
  | appended {slots : List (Option Tool)} (full : none ∉ slots) :
    OneShown slots (slots ++ [some .hidden])

namespace OneShown

variable {slots slots' : List (Option Tool)}

theorem cons (tool : Tool) (shown : OneShown slots slots') :
    OneShown (some tool :: slots) (some tool :: slots') := by
  have more {left : List (Option Tool)} (full : none ∉ left) : none ∉ some tool :: left := by
    simpa using full
  cases shown with
  | filled full => exact .filled (more full)
  | appended full => exact .appended (more full)

theorem showHidden (slots : List (Option Tool)) : OneShown slots (showHidden slots) := by
  induction slots with
  | nil => exact .appended List.not_mem_nil
  | cons slot rest ih =>
    cases slot with
    | none => exact .filled List.not_mem_nil
    | some tool => exact ih.cons tool

theorem length_le (shown : OneShown slots slots') : slots'.length ≤ slots.length + 1 := by
  cases shown with
  | filled => simp
  | appended => simp

theorem hidden_mem (shown : OneShown slots slots') : some .hidden ∈ slots' := by
  cases shown with
  | filled => simp
  | appended => simp

theorem getElem?_eq (shown : OneShown slots slots') {place : Nat} {tool : Tool}
    (found : slots[place]? = some (some tool)) : slots'[place]? = some (some tool) := by
  cases shown with
  | @filled left right full =>
    by_cases same : place = left.length
    · subst same
      simp at found
    · rw [← found]
      grind
  | appended full =>
    rw [List.getElem?_append_left (List.getElem?_eq_some_iff.mp found).1]
    exact found

end OneShown

/-- Whether the manager of hidden entries is asked for and not shown. -/
def LacksHidden (s : Settings) : Prop :=
  s.switch.get .tagsHelp = true ∧ some .hidden ∉ s.tools.slots

/-- The manager of hidden entries gets a slot exactly if it lacks one. -/
theorem withTagsHelp_spec (room : s.tools.slots.length < toolLimit) :
    ¬s.LacksHidden ∧ s.withTagsHelp = pure s ∨
      s.LacksHidden ∧ ∃ tools : ToolRow, OneShown s.tools.slots tools.slots ∧
        s.withTagsHelp = pure { s with tools, hiddenTags := true } := by
  have missing_iff : s.tools.contains .hidden = false ↔ some .hidden ∉ s.tools.slots := by
    rw [Bool.eq_false_iff, Ne, ToolRow.contains_iff]
  unfold withTagsHelp
  split
  next lacks =>
    have shown := OneShown.showHidden s.tools.slots
    have fits : (Settings.showHidden s.tools.slots).length ≤ toolLimit :=
      Nat.le_trans shown.length_le room
    exact .inr ⟨⟨lacks.1, missing_iff.mp lacks.2⟩, ⟨_, fits⟩, shown, dif_pos fits⟩
  next given => exact .inl ⟨fun lacks => given ⟨lacks.1, missing_iff.mpr lacks.2⟩, rfl⟩

/-- Showing the manager of hidden entries changes the tools and nothing else. -/
theorem get_withTagsHelp (s : Settings) {x : Setting} (tools : x ≠ .tools)
    (hiddenTags : x ≠ .hiddenTags) : x.get s.withTagsHelp.value = x.get s := by
  unfold withTagsHelp
  split
  next =>
    dsimp only
    split
    next room =>
      exact (Setting.get_put_of_ne (Setting.put s .tools ⟨_, room⟩) (x := .hiddenTags) true
        hiddenTags).trans (Setting.get_put_of_ne s _ tools)
    next => rfl
  next => rfl

theorem list_withTagsHelp (s : Settings) (field : ListField) :
    s.withTagsHelp.value.list.get field = s.list.get field :=
  s.get_withTagsHelp (x := .list field) nofun nofun

theorem switch_withTagsHelp (s : Settings) (field : Switch) :
    s.withTagsHelp.value.switch.get field = s.switch.get field :=
  s.get_withTagsHelp (x := .switch field) nofun nofun

/-! ## Lists -/

/-- Names are added where they are missing, each once. -/
theorem union_eq (names more : List String) :
    union names more = names ++ (more.filter fun name => !names.contains name).eraseDups := by
  induction more generalizing names with
  | nil => exact (List.append_nil names).symm
  | cons name more ih =>
    rw [union, List.foldl_cons, ← union]
    cases present : names.contains name with
    | true => rw [if_pos rfl, ih, List.filter_cons_of_neg (by simpa using present)]
    | false =>
      -- A name that was added is not missing any more, so it is passed over from then on.
      have later : (more.filter fun other => !(names ++ [name]).contains other) =
          (more.filter fun other => !names.contains other).filter fun other => !other == name := by
        rw [List.filter_filter]
        refine List.filter_congr fun other _ => ?_
        rw [List.contains_append, List.contains_cons, List.contains_nil, Bool.or_false, Bool.not_or,
          Bool.and_comm]
      rw [if_neg Bool.false_ne_true, ih, later, List.append_assoc,
        List.filter_cons_of_pos (by simpa using present), List.eraseDups_cons]
      rfl

/-! ## Finishing -/

/-- Nobody is warned, since there is room. -/
theorem messages_finish (room : s.tools.slots.length < toolLimit) (ctx : Context) (icons : Bool) :
    ∀ message ∈ (s.finish ctx icons).messages, message.level = .debug := by
  have helped : s.withTagsHelp.messages = [] := by
    obtain ⟨-, same⟩ | ⟨-, tools, -, shown⟩ := withTagsHelp_spec room
    · rw [same, Logged.messages_pure]
    · rw [shown, Logged.messages_pure]
  intro message member
  unfold finish at member
  rw [Logged.messages_bind, helped, List.nil_append] at member
  dsimp only at member
  split at member
  next => rw [List.mem_singleton.mp member]
  next => exact absurd member List.not_mem_nil

theorem tools_finish (room : s.tools.slots.length < toolLimit) (ctx : Context) (icons : Bool) :
    ¬s.LacksHidden ∧ (s.finish ctx icons).value.tools = s.tools ∨
      s.LacksHidden ∧ OneShown s.tools.slots (s.finish ctx icons).value.tools.slots := by
  rw [value_finish]
  obtain ⟨given, same⟩ | ⟨lacks, tools, one, shown⟩ := withTagsHelp_spec room
  · exact .inl ⟨given, by rw [same, Logged.value_pure]⟩
  · exact .inr ⟨lacks, by rw [shown, Logged.value_pure]; exact one⟩

theorem dontScanFiles_finish (ctx : Context) (icons : Bool) (s : Settings) :
    (s.finish ctx icons).value.list.get .dontScanFiles =
      union (s.list.get .dontScanFiles) (s.list.get .windowsRecoveryFiles) := by
  rw [value_finish]
  dsimp only
  rw [Table.get_set_of_ne _ _ (by decide), Table.get_set_self, list_withTagsHelp,
    list_withTagsHelp]

theorem linuxPrefixes_finish (ctx : Context) (icons : Bool) (s : Settings) :
    (s.finish ctx icons).value.list.get .linuxPrefixes =
      if (s.list.get .linuxPrefixes).isEmpty then Defaults.linuxPrefixes
      else s.list.get .linuxPrefixes := by
  rw [value_finish]
  dsimp only
  rw [Table.get_set_self, list_withTagsHelp]

theorem textOnly_finish (ctx : Context) (icons : Bool) (s : Settings) :
    (s.finish ctx icons).value.switch.get .textOnly = (s.switch.get .textOnly || !icons) := by
  rw [value_finish]
  dsimp only
  rw [Table.get_set_of_ne _ _ (by decide), Table.get_set_of_ne _ _ (by decide),
    Table.get_set_self, switch_withTagsHelp]

theorem protectNvram_finish (ctx : Context) (icons : Bool) (s : Settings) :
    (s.finish ctx icons).value.switch.get .protectNvram =
      (s.switch.get .protectNvram && ctx.appleFirmware) := by
  rw [value_finish]
  dsimp only
  rw [Table.get_set_of_ne _ _ (by decide), Table.get_set_self, switch_withTagsHelp]

/-- The settings that finishing may change, where no mouse is on beside a touch screen. -/
def finished : List Setting :=
  [.tools, .hiddenTags, .list .dontScanFiles, .list .linuxPrefixes, .switch .textOnly,
    .switch .protectNvram]

/-- No mouse is turned off, since none is on beside a touch screen. -/
theorem enableMouse_finish (inRange : s.InRange) (ctx : Context) (icons : Bool) :
    (s.finish ctx icons).value.switch.get .enableMouse = s.switch.get .enableMouse := by
  rw [value_finish]
  dsimp only
  rw [Table.get_set_self, switch_withTagsHelp, switch_withTagsHelp]
  cases mouse : s.switch.get .enableMouse with
  | false => rfl
  | true =>
    have off : s.switch.get .enableTouch = false :=
      Bool.eq_false_iff.mpr fun touch => inRange.one_pointer ⟨mouse, touch⟩
    rw [off]
    rfl

theorem get_finish (inRange : s.InRange) (ctx : Context) (icons : Bool) {x : Setting}
    (other : x ∉ finished) : x.get (s.finish ctx icons).value = x.get s := by
  have apart {y : Setting} (member : y ∈ finished) : x ≠ y := by
    rintro rfl
    exact other member
  have helped : x.get s.withTagsHelp.value = x.get s :=
    s.get_withTagsHelp (apart (by decide)) (apart (by decide))
  -- Only the lists and the switches are kept in tables that finishing writes to.
  cases x with
  | list field =>
    have files : field ≠ .dontScanFiles := fun same =>
      apart (by decide) (congrArg Setting.list same)
    have prefixes : field ≠ .linuxPrefixes := fun same =>
      apart (by decide) (congrArg Setting.list same)
    rw [value_finish, ← helped]
    exact (Table.get_set_of_ne _ _ prefixes).trans (Table.get_set_of_ne _ _ files)
  | switch field =>
    have textOnly : field ≠ .textOnly := fun same =>
      apart (by decide) (congrArg Setting.switch same)
    have protect : field ≠ .protectNvram := fun same =>
      apart (by decide) (congrArg Setting.switch same)
    by_cases mouse : field = .enableMouse
    · rw [mouse]
      exact enableMouse_finish inRange ctx icons
    · rw [value_finish, ← helped]
      exact (Table.get_set_of_ne _ _ mouse).trans
        ((Table.get_set_of_ne _ _ protect).trans (Table.get_set_of_ne _ _ textOnly))
  | _ => rw [value_finish, ← helped]; rfl

/-- How settings are finished. -/
structure FinishLaw (ctx : Context) (icons : Bool) (s : Settings) (t : Logged Settings) :
    Prop where
  /-- There is always room for the manager of hidden entries, so nobody is warned. -/
  quiet : ∀ message ∈ t.messages, message.level = .debug
  /-- It is shown if it is asked for. -/
  asked : s.switch.get .tagsHelp = true → some .hidden ∈ t.value.tools.slots
  /-- The tools are as they were, or one more slot shows it. -/
  tools : ¬s.LacksHidden ∧ t.value.tools = s.tools ∨
    s.LacksHidden ∧ OneShown s.tools.slots t.value.tools.slots
  /-- Every tool keeps its place. -/
  places : ∀ (place : Nat) (tool : Tool), s.tools.slots[place]? = some (some tool) →
    t.value.tools.slots[place]? = some (some tool)
  hiddenTags_iff : t.value.hiddenTags = true ↔ some .hidden ∈ t.value.tools.slots
  /-- Recovery files are left out of scans, those that were already first. -/
  files : t.value.list.get .dontScanFiles = s.list.get .dontScanFiles ++
    ((s.list.get .windowsRecoveryFiles).filter fun file =>
      !(s.list.get .dontScanFiles).contains file).eraseDups
  prefixes_ne_nil : t.value.list.get .linuxPrefixes ≠ []
  prefixes_eq : s.list.get .linuxPrefixes ≠ [] →
    t.value.list.get .linuxPrefixes = s.list.get .linuxPrefixes
  textOnly_iff : t.value.switch.get .textOnly = true ↔
    s.switch.get .textOnly = true ∨ icons = false
  protectNvram_iff : t.value.switch.get .protectNvram = true ↔
    s.switch.get .protectNvram = true ∧ ctx.appleFirmware = true
  /-- All other settings stay as they are, the pointing devices among them. -/
  kept : ∀ x : Setting, x ∉ finished → x.get t.value = x.get s

/-- Finishing settles what settings have to do with each other and changes nothing else. -/
theorem finish_finishLaw (built : s.Built) (ctx : Context) (icons : Bool) :
    FinishLaw ctx icons s (s.finish ctx icons) where
  quiet := messages_finish built.room ctx icons
  asked := by
    intro asked
    obtain ⟨given, same⟩ | ⟨-, one⟩ := tools_finish built.room ctx icons
    · rw [same]
      exact Decidable.of_not_not fun missing => given ⟨asked, missing⟩
    · exact one.hidden_mem
  tools := tools_finish built.room ctx icons
  places := by
    intro place tool found
    obtain ⟨-, same⟩ | ⟨-, one⟩ := tools_finish built.room ctx icons
    · rw [same, found]
    · exact one.getElem?_eq found
  hiddenTags_iff := (inRange_finish built.inRange ctx icons).hiddenTags_iff
  files := by rw [dontScanFiles_finish, union_eq]
  prefixes_ne_nil := by
    rw [linuxPrefixes_finish]
    split
    next => decide
    next given => exact mt List.isEmpty_iff.mpr given
  prefixes_eq given := by
    rw [linuxPrefixes_finish, if_neg (mt List.isEmpty_iff.mp given)]
  textOnly_iff := by rw [textOnly_finish, Bool.or_eq_true, Bool.not_eq_true']
  protectNvram_iff := by rw [protectNvram_finish, Bool.and_eq_true]
  kept _ other := get_finish built.inRange ctx icons other

/-- A machine of which nothing is known. -/
def unknownMachine : Context where
  appleFirmware := false
  arch := .x64
  selfVolume := none
  selfDir := ""
  minuteOfDay := none
  volumes := []

/-- Settings that ask for the manager of hidden entries, with a blank slot among the tools, and with
a recovery file that is left out of scans already. -/
def blankSlot : Settings :=
  ((default false).applyAll unknownMachine [["tags_help"],
    ["showtools", "shell", "unheard_of", "about"], ["dont_scan_files", "shim.efi"],
    ["windows_recovery_files", "lrs.efi", "shim.efi", "lrs.efi"]]).value

/-- The blank slot is filled and the others are kept; every file is left out once. -/
theorem blankSlot_finish :
    blankSlot.Built ∧ blankSlot.tools.slots = [some .shell, none, some .about] ∧
      (blankSlot.finish unknownMachine false).value.tools.slots[2]? = some (some .about) ∧
      some .hidden ∈ (blankSlot.finish unknownMachine false).value.tools.slots ∧
      (blankSlot.finish unknownMachine false).value.list.get .dontScanFiles =
        ["shim.efi", "lrs.efi"] := by
  have built : blankSlot.Built := (Built.default false).applyAll _
  have law := finish_finishLaw built unknownMachine false
  have setup : blankSlot.tools.slots = [some .shell, none, some .about] ∧
      blankSlot.switch.get .tagsHelp = true ∧
      blankSlot.list.get .dontScanFiles = ["shim.efi"] ∧
      blankSlot.list.get .windowsRecoveryFiles = ["lrs.efi", "shim.efi", "lrs.efi"] := by
    decide +kernel
  obtain ⟨slots, asked, files, more⟩ := setup
  refine ⟨built, slots, law.places 2 .about ?_, law.asked asked, law.files.trans ?_⟩
  · rw [slots]
    rfl
  · rw [files, more]
    decide

end Settings

end BootManager.Config
