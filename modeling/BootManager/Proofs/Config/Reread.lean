import BootManager.Proofs.Config.Finish
import BootManager.Proofs.Config.Parts

/-!
# Reading a configuration again

A configuration is read before volumes are known, for what it says about the scan, and once more
after it. What the two readings know of volumes gets into one place of the settings only: the
identifier of the boot manager's partition stands before its own directory, at the front of the
directories that are not scanned. Every line keeps it there or drops the directory in both
readings, so all other settings are the same. The main result is `load_rereadLaw`.
-/

namespace BootManager.Config

/-- Surroundings that differ in nothing but what is known of volumes. -/
structure Context.SameStart (ctx ctx' : Context) : Prop where
  appleFirmware : ctx'.appleFirmware = ctx.appleFirmware
  arch : ctx'.arch = ctx.arch
  selfDir : ctx'.selfDir = ctx.selfDir
  minuteOfDay : ctx'.minuteOfDay = ctx.minuteOfDay

/-- How the boot manager's own directory is written where it is not scanned: cleaned, with the
identifier of its partition and a colon in front of it if that is known. -/
inductive Context.OwnDir (ctx : Context) : String → Prop where
  | plain (unknown : ctx.selfPartGuid = none) : OwnDir ctx (Path.clean ctx.selfDir)
  | qualified {place : Nat} {v : Volume} {guid : Guid} (started : ctx.selfVolume = some place)
    (present : ctx.volumes[place]? = some v) (known : v.partGuid = some guid) :
    OwnDir ctx (Text.upper guid.toText ++ ":" ++ Path.clean ctx.selfDir)

theorem Defaults.ownDir_cases (ctx : Context) :
    ctx.selfDir = "" ∧ ownDir ctx = [] ∨ ∃ dir, ownDir ctx = [dir] ∧ ctx.OwnDir dir := by
  unfold ownDir
  by_cases nowhere : ctx.selfDir = ""
  · exact .inl ⟨nowhere, if_pos nowhere⟩
  · rw [if_neg nowhere]
    refine .inr ?_
    cases known : ctx.selfPartGuid with
    | none => exact ⟨_, rfl, .plain known⟩
    | some text =>
      simp only [Context.selfPartGuid, bind, pure, Option.bind_eq_some_iff] at known
      obtain ⟨place, started, v, present, guid, stored, same⟩ := known
      obtain rfl := Option.some.inj same
      exact ⟨_, rfl, .qualified started present stored⟩

/-! ## Settings of two readings -/

/-- Settings of two readings: they differ in the boot manager's own directory at most, which stands
at the front of the directories that are not scanned. -/
structure Settings.Alike (ctx ctx' : Context) (s t : Settings) : Prop where
  others : ∀ x : Setting, x ≠ .list .dontScanDirs → x.get t = x.get s
  dirs : t.list.get .dontScanDirs = s.list.get .dontScanDirs ∨
    ∃ rest, s.list.get .dontScanDirs = Defaults.ownDir ctx ++ rest ∧
      t.list.get .dontScanDirs = Defaults.ownDir ctx' ++ rest

/-- The directories that are not scanned belong to an action of their own. -/
theorem Setting.eq_of_owner_eq {x : Setting} (own : x.owner = .paths .dontScanDirs) :
    x = .list .dontScanDirs := by
  cases x with
  | list field => exact congrArg Setting.list (Action.paths.inj own)
  | _ => cases own

theorem Action.eq_of_lead_eq {action : Action} (own : action.lead = .paths .dontScanDirs) :
    action = .paths .dontScanDirs := by
  cases action with
  | paths field => exact own
  | _ => cases own

/-- Of what surrounds a configuration, actions look at the time alone. -/
theorem Action.run_congr {ctx ctx' : Context} (same : ctx'.minuteOfDay = ctx.minuteOfDay)
    (action : Action) : action.run ctx' = action.run ctx := by
  funext inverted line s
  cases action with
  | defaultSelection =>
    unfold run selectDefault
    dsimp only
    rw [same]
  | _ => rfl

namespace Settings.Alike

variable {ctx ctx' : Context} {s t : Settings}

theorem withDefaults (same : ctx.SameStart ctx') (s : Settings) :
    Alike ctx ctx' (s.withDefaults ctx) (s.withDefaults ctx') where
  others x other := by
    cases x with
    | list field =>
      have lists : Defaults.lists ctx' field = Defaults.lists ctx field := by
        unfold Defaults.lists
        rw [same.arch]
        cases field with
        | dontScanDirs => exact absurd rfl other
        | _ => rfl
      exact congrArg (fun list => list.getD (s.list.get field)) lists
    | _ => rfl
  dirs := .inr ⟨Defaults.memtestDirs, rfl, rfl⟩

/-- An action does the same in both readings. -/
theorem run (same : ctx.SameStart ctx') (alike : Alike ctx ctx' s t) (action : Action)
    (inverted : Bool) (line : Line) :
    Alike ctx ctx' (action.run ctx inverted line s).value
      (action.run ctx' inverted line t).value := by
  rw [Action.run_congr same.minuteOfDay]
  have confined := Action.confined_run ctx action inverted line
  constructor
  · intro x other
    by_cases own : x.owner = action.lead
    · -- What the action looks at are settings that belong to it, and these agree.
      have agree : Agree action.lead t s := by
        intro y own'
        refine alike.others y ?_
        rintro rfl
        exact other (Setting.eq_of_owner_eq (own.trans own'.symm))
      exact confined.congr agree x own
    · rw [confined.kept x t own, confined.kept x s own]
      exact alike.others x other
  · by_cases own : action.lead = .paths .dontScanDirs
    · obtain rfl := Action.eq_of_lead_eq own
      simp only [Action.run, Logged.value_pure, Table.get_set_self, Value.texts, Value.extend]
      cases Value.appends line with
      | false => exact .inl rfl
      | true =>
        obtain equal | ⟨rest, first, second⟩ := alike.dirs
        · exact .inl (by rw [equal])
        · exact .inr ⟨_, by rw [first]; exact List.append_assoc _ _ _,
            by rw [second]; exact List.append_assoc _ _ _⟩
    · have kept (s : Settings) : (action.run ctx inverted line s).value.list.get .dontScanDirs =
          s.list.get .dontScanDirs :=
        confined.kept (.list .dontScanDirs) s (Ne.symm own)
      rw [kept, kept]
      exact alike.dirs

theorem apply (same : ctx.SameStart ctx') (alike : Alike ctx ctx' s t) (line : Line) :
    Alike ctx ctx' (s.apply ctx line).value.settings (t.apply ctx' line).value.settings := by
  rw [settings_apply, settings_apply]
  cases Directive.carriedOut? line with
  | none => exact alike
  | some found => exact alike.run same found.directive.action found.inverted line

theorem applyAll (same : ctx.SameStart ctx') (alike : Alike ctx ctx' s t) (lines : List Line) :
    Alike ctx ctx' (s.applyAll ctx lines).value (t.applyAll ctx' lines).value := by
  induction lines generalizing s t with
  | nil => exact alike
  | cons line lines ih =>
    rw [value_applyAll_cons, value_applyAll_cons]
    exact ih (alike.apply same line)

end Settings.Alike

/-! ## Finishing -/

namespace Settings

variable {s t : Settings}

/-- Settings that agree on all others are the same settings with one of them written. -/
theorem eq_put {y : Setting} (others : ∀ x : Setting, x ≠ y → x.get t = x.get s) :
    t = y.put s (y.get t) := by
  refine Setting.ext_get fun x => ?_
  by_cases same : x = y
  · subst same
    exact (Setting.get_put_self s x _).symm
  · rw [Setting.get_put_of_ne s _ same, others x same]

theorem value_withTagsHelp_put (s : Settings) (dirs : List String) :
    (Setting.put s (.list .dontScanDirs) dirs).withTagsHelp.value =
      Setting.put s.withTagsHelp.value (.list .dontScanDirs) dirs := by
  change { s with list := s.list.set .dontScanDirs dirs }.withTagsHelp.value = _
  unfold withTagsHelp
  dsimp only
  split
  next =>
    split
    next => rfl
    next => rfl
  next => rfl

/-- Finishing has nothing to do with the directories that are not scanned. -/
theorem value_finish_put (ctx : Context) (icons : Bool) (s : Settings) (dirs : List String) :
    ((Setting.put s (.list .dontScanDirs) dirs).finish ctx icons).value =
      Setting.put (s.finish ctx icons).value (.list .dontScanDirs) dirs := by
  rw [value_finish, value_finish, value_withTagsHelp_put]
  dsimp only [Setting.put]
  rw [Table.get_set_of_ne _ _ (by decide), Table.get_set_of_ne _ _ (by decide),
    Table.get_set_of_ne _ _ (by decide), Table.set_comm _ dirs _ (by decide),
    Table.set_comm _ dirs _ (by decide)]

theorem dontScanDirs_finish (ctx : Context) (icons : Bool) (s : Settings) :
    (s.finish ctx icons).value.list.get .dontScanDirs = s.list.get .dontScanDirs := by
  rw [value_finish]
  dsimp only
  rw [Table.get_set_of_ne _ _ (by decide), Table.get_set_of_ne _ _ (by decide),
    list_withTagsHelp]

theorem Alike.finish {ctx ctx' : Context} (same : ctx.SameStart ctx') (alike : Alike ctx ctx' s t)
    (icons : Bool) : Alike ctx ctx' (s.finish ctx icons).value (t.finish ctx' icons).value := by
  have firmware : t.finish ctx' icons = t.finish ctx icons := by
    unfold Settings.finish
    rw [same.appleFirmware]
  have written : (t.finish ctx icons).value =
      Setting.put (s.finish ctx icons).value (.list .dontScanDirs)
        (t.list.get .dontScanDirs) := by
    conv => lhs; rw [eq_put alike.others]
    exact value_finish_put ctx icons s (t.list.get .dontScanDirs)
  rw [firmware]
  constructor
  · intro x other
    rw [written, Setting.get_put_of_ne _ _ other]
  · rw [dontScanDirs_finish, dontScanDirs_finish]
    exact alike.dirs

end Settings

/-! ## Both readings -/

section

variable {ctx ctx' : Context} (same : ctx.SameStart ctx')

include same

theorem Context.SameStart.resolve_eq : ctx'.resolve = ctx.resolve := by
  funext file
  rw [resolve, resolve, same.selfDir]

/-- The same lines are read for the settings. -/
theorem Context.SameStart.allItems_eq (source : Source) (primary : String) :
    source.allItems ctx' primary = source.allItems ctx primary := by
  have leads : Item.path? ctx' primary = Item.path? ctx primary := by
    funext item
    cases item with
    | «include» line => rw [Item.path?, Item.path?, same.resolve_eq]
    | directive | block => rfl
  have expands : source.expand ctx' primary = source.expand ctx primary := by
    funext item
    rw [Source.expand, Source.expand, leads]
  rw [Source.allItems, Source.allItems, expands, same.resolve_eq]

theorem alike_settingsRead (source : Source) (primary : String) :
    Settings.Alike ctx ctx' (source.settingsRead ctx primary)
      (source.settingsRead ctx' primary) := by
  unfold Source.settingsRead
  rw [same.allItems_eq, Draft.start, Draft.start, same.appleFirmware]
  exact (Settings.Alike.withDefaults same _).applyAll same _

theorem alike_load (source : Source) (primary : String) :
    Settings.Alike ctx ctx' (load source ctx primary).value.settings
      (load source ctx' primary).value.settings := by
  have read := alike_settingsRead same source primary
  have iconsDir : (source.settingsRead ctx' primary).text.get .iconsDir =
      (source.settingsRead ctx primary).text.get .iconsDir := read.others (.text .iconsDir) nofun
  have icons : hasIcons source ctx' (source.settingsRead ctx' primary) =
      hasIcons source ctx (source.settingsRead ctx primary) := by
    rw [hasIcons, hasIcons, same.resolve_eq, iconsDir]
  rw [value_load, value_load, icons]
  exact read.finish same _

end

/-- What two readings of a configuration have in common, which know different volumes. -/
structure RereadLaw (ctx ctx' : Context) (s t : Settings) : Prop where
  /-- All settings are the same but for the directories that are not scanned. -/
  others : ∀ x : Setting, x ≠ .list .dontScanDirs → x.get t = x.get s
  /-- These are the same as well, or differ in the first one at most, which is the boot manager's
  own directory in both readings. -/
  dirs : t.list.get .dontScanDirs = s.list.get .dontScanDirs ∨
    ∃ own own' rest, s.list.get .dontScanDirs = own :: rest ∧
      t.list.get .dontScanDirs = own' :: rest ∧ ctx.OwnDir own ∧ ctx'.OwnDir own'

/-- Reading a configuration again with other volumes gives the same settings, but for the identifier
of a partition in front of the boot manager's own directory. -/
theorem load_rereadLaw {ctx ctx' : Context} (same : ctx.SameStart ctx') (source : Source)
    (primary : String) :
    RereadLaw ctx ctx' (load source ctx primary).value.settings
      (load source ctx' primary).value.settings := by
  have alike := alike_load same source primary
  refine ⟨alike.others, ?_⟩
  obtain equal | ⟨rest, first, second⟩ := alike.dirs
  · exact .inl equal
  · obtain ⟨nowhere, none⟩ | ⟨own, one, isOwn⟩ := Defaults.ownDir_cases ctx
    · -- Without a directory of its own, nothing stands in front of the others.
      have none' : Defaults.ownDir ctx' = [] := if_pos (same.selfDir.trans nowhere)
      rw [none] at first
      rw [none'] at second
      exact .inl (second.trans first.symm)
    · obtain ⟨nowhere, -⟩ | ⟨own', one', isOwn'⟩ := Defaults.ownDir_cases ctx'
      · rw [same.selfDir] at nowhere
        rw [Defaults.ownDir, if_pos nowhere] at one
        cases one
      · rw [one] at first
        rw [one'] at second
        exact .inr ⟨own, own', rest, first, second, isOwn, isOwn'⟩

/-- What is known of a machine before its volumes are scanned. -/
def unscanned : Context :=
  { Settings.unknownMachine with selfDir := "\\EFI\\refind" }

/-- What is known once the partition was found that the boot manager was started from. -/
def scanned : Context :=
  { unscanned with
    selfVolume := some 0
    volumes := [{ partGuid := some ⟨0x3C3F1B4C9D2B4E0E8A5E1D6C4F0A2B11#128⟩ }] }

/-- A configuration that adds a directory to those that are not scanned. -/
def oneMoreDir : Source :=
  (MemoryFiles.empty.insert "\\EFI\\refind\\refind.conf"
    (Buffer.ascii "timeout 5\ndont_scan_dirs + EFI/old\n")).source

/-- The identifier of the partition is all that the second reading adds. -/
theorem oneMoreDir_rereadLaw : unscanned.SameStart scanned ∧
    ((load oneMoreDir unscanned "refind.conf").value.settings.list.get .dontScanDirs =
      ["EFI\\refind"] ++ Defaults.memtestDirs ++ ["EFI\\old"]) ∧
    ((load oneMoreDir scanned "refind.conf").value.settings.list.get .dontScanDirs =
      ["3C3F1B4C-9D2B-4E0E-8A5E-1D6C4F0A2B11:EFI\\refind"] ++ Defaults.memtestDirs ++
        ["EFI\\old"]) ∧
    RereadLaw unscanned scanned (load oneMoreDir unscanned "refind.conf").value.settings
      (load oneMoreDir scanned "refind.conf").value.settings := by
  have same : unscanned.SameStart scanned := ⟨rfl, rfl, rfl, rfl⟩
  exact ⟨same, by decide +kernel, by decide +kernel, load_rereadLaw same oneMoreDir "refind.conf"⟩

end BootManager.Config
