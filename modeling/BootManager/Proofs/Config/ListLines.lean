import Mathlib.Data.List.DropRight
import BootManager.Proofs.Config.Apply
import BootManager.Proofs.Config.SettingLines

/-!
# Lines that name lists

A line of a directive that sets a list is documented to replace the list by its values, or to append
them if a lone plus sign stands before them. `ListSetting.documented` is the list that many lines
leave then. The main result is `applyAll_appendLaw`: all lists are as documented but that of the
volumes that are not scanned, which is replaced by every line, plus sign included.
-/

namespace BootManager.Config

/-- A setting that is a list, with the type of its members. -/
inductive ListSetting : Type → Type where
  | texts (field : ListField) : ListSetting String
  | masks : ListSetting UInt32

namespace ListSetting

variable {α : Type}

/-- The list of the volumes that are not scanned. -/
def volumes : ListSetting String := texts .dontScanVolumes

/-- Whether it is the list of the volumes that are not scanned. -/
def isVolumes : ListSetting α → Bool
  | texts field => field == .dontScanVolumes
  | masks => false

/-- What the directive of a list does. -/
def action : ListSetting α → Action
  | texts field => if field = .dontScanVolumes then .dontScanVolumes else .paths field
  | masks => .csrValues

/-- The list in settings. -/
def get (s : Settings) : ListSetting α → List α
  | texts field => s.list.get field
  | masks => s.csrValues

/-- The accepted values among words. Separators of paths are cleaned up, but names of volumes may
hold slashes; numbers that are no masks are dropped. -/
def accept (words : List String) : ListSetting α → List α
  | texts field => if field = .dontScanVolumes then words else words.map Path.clean
  | masks => (words.filterMap Text.readHex?).filter fun mask => mask ≤ Value.maxCsrValue

/-- The values that a line gives. -/
def given (setting : ListSetting α) (line : Line) : List α :=
  setting.accept (Value.items line)

/-- Whether a line is one of the directive of a list. -/
def isSetBy (setting : ListSetting α) (line : Line) : Bool :=
  (line.head?.bind Directive.lookup).any fun found => found.directive.action == setting.action

/-- The lines of the directive of a list. -/
def linesFor (setting : ListSetting α) (lines : List Line) : List Line :=
  lines.filter setting.isSetBy

/-- The list that lines of its directive are documented to leave: the values of the last line that
replaces the list, or the old list, followed by the values of the lines after it. -/
def documented (setting : ListSetting α) (lines : List Line) (old : List α) : List α :=
  (lines.rdropWhile Value.appends).getLast?.elim old setting.given ++
    (lines.rtakeWhile Value.appends).flatMap setting.given

@[simp] theorem documented_nil (setting : ListSetting α) (old : List α) :
    setting.documented [] old = old := by
  simp [documented]

theorem documented_concat (setting : ListSetting α) (lines : List Line) (line : Line)
    (old : List α) :
    setting.documented (lines ++ [line]) old =
      (if Value.appends line then setting.documented lines old else []) ++ setting.given line := by
  cases appends : Value.appends line with
  | true => simp [documented, appends]
  | false => simp [documented, appends]

/-! ## Directives -/

/-- Directives of lists take any number of values. -/
theorem arity_of_mem_table (setting : ListSetting α) {d : Directive}
    (member : d ∈ Directive.table) (acts : d.action = setting.action) : d.arity = none := by
  have all : ∀ d ∈ Directive.table, d.action = setting.action → d.arity = none := by
    cases setting with
    | texts field => cases field <;> decide
    | masks => decide
  exact all d member acts

theorem action_ne_of_mem_table {d : Directive} (member : d ∈ Directive.table) :
    d.action ≠ .paths .dontScanVolumes := by
  have all : ∀ d ∈ Directive.table, d.action ≠ .paths .dontScanVolumes := by decide
  exact all d member

/-! ## One line -/

variable {setting : ListSetting α} {ctx : Context} {s : Settings}

/-- The list after one line of its directive. -/
def write (setting : ListSetting α) (line : Line) (old : List α) : List α :=
  if setting.isVolumes then setting.accept (line.drop 1)
  else (if Value.appends line then old else []) ++ setting.given line

theorem get_run_self (setting : ListSetting α) (inverted : Bool) (line : Line) :
    setting.get (setting.action.run ctx inverted line s).value =
      setting.write line (setting.get s) := by
  cases setting with
  | masks => rfl
  | texts field =>
    by_cases volumes : field = .dontScanVolumes
    · subst volumes
      exact Table.get_set_self s.list .dontScanVolumes (line.drop 1)
    · have paths : (texts field).action = .paths field := if_neg volumes
      have cleans (words : List String) : (texts field).accept words = words.map Path.clean :=
        if_neg volumes
      have notVolumes : (texts field).isVolumes = false := beq_eq_false_iff_ne.mpr volumes
      rw [paths, write, notVolumes, if_neg Bool.false_ne_true, given, cleans]
      exact Table.get_set_self s.list field (Value.texts true line (s.list.get field))

/-- Other actions leave a list as it is. -/
theorem get_run_of_ne {action : Action} (other : action ≠ setting.action)
    (plain : action ≠ .paths .dontScanVolumes) (inverted : Bool) (line : Line) :
    setting.get (action.run ctx inverted line s).value = setting.get s := by
  -- An action that writes neither the texts nor the masks keeps every list.
  have kept {t : Settings} (list : t.list = s.list) (masks : t.csrValues = s.csrValues) :
      setting.get t = setting.get s := by
    cases setting with
    | texts field => exact congrArg (fun list => list.get field) list
    | masks => exact masks
  cases action with
  | paths field =>
    cases setting with
    | masks => rfl
    | texts own =>
      refine Table.get_set_of_ne _ _ ?_
      rintro rfl
      have volumes : own ≠ .dontScanVolumes := by
        rintro rfl
        exact plain rfl
      exact other (if_neg volumes).symm
  | dontScanVolumes =>
    cases setting with
    | masks => rfl
    | texts own => exact Table.get_set_of_ne _ _ fun volumes => other (if_pos volumes).symm
  | csrValues =>
    cases setting with
    | masks => exact absurd rfl other
    | texts own => rfl
  | smallIcons | bigIcons | pointerSize =>
    dsimp only [Action.run, Logged.value_pure]
    split
    next => exact kept rfl rfl
    next => rfl
  | defaultSelection =>
    obtain ⟨text, changed⟩ := s.exists_text_selectDefault ctx line
    change setting.get (Action.selectDefault ctx line s).value = setting.get s
    rw [changed]
    exact kept rfl rfl
  | bannerScale =>
    obtain ⟨scale, changed⟩ := s.exists_scale_scaleBanner line
    change setting.get (Action.scaleBanner line s).value = setting.get s
    rw [changed]
    exact kept rfl rfl
  | resolution =>
    dsimp only [Action.run]
    cases Value.resolution line with
    | none => rfl
    | some size => exact kept rfl rfl
  | screenColour =>
    dsimp only [Action.run]
    cases Value.colour line with
    | none => rfl
    | some colour => exact kept rfl rfl
  | mouseSpeed =>
    dsimp only [Action.run, Logged.value_pure]
    exact kept rfl rfl
  | _ => exact kept rfl rfl

/-- A line of its directive writes a list, and other lines leave it as it is. -/
theorem get_apply (line : Line) :
    setting.get (s.apply ctx line).value.settings =
      if setting.isSetBy line then setting.write line (setting.get s) else setting.get s := by
  rw [Settings.settings_apply, Directive.carriedOut?, isSetBy]
  cases named : line.head?.bind Directive.lookup with
  | none => rfl
  | some found =>
    have member : found.directive ∈ Directive.table := by
      obtain ⟨keyword, -, known⟩ := Option.bind_eq_some_iff.mp named
      exact Directive.mem_table_of_lookup known
    rw [Option.filter_some, Option.any_some]
    by_cases acts : found.directive.action = setting.action
    · rw [setting.arity_of_mem_table member acts, Option.all_none, if_pos rfl, Option.elim_some,
        acts, beq_self_eq_true, if_pos rfl]
      exact setting.get_run_self found.inverted line
    · rw [beq_eq_false_iff_ne.mpr acts]
      have plain := action_ne_of_mem_table member
      split
      next => exact get_run_of_ne acts plain found.inverted line
      next => rfl

/-! ## Many lines -/

/-- Only the lines of its directive count for a list. -/
theorem get_applyAll (setting : ListSetting α) (lines : List Line) :
    setting.get (s.applyAll ctx lines).value =
      (setting.linesFor lines).foldl (fun old line => setting.write line old) (setting.get s) := by
  induction lines generalizing s with
  | nil => rfl
  | cons line lines ih =>
    rw [Settings.value_applyAll_cons, ih, get_apply]
    cases own : setting.isSetBy line with
    | false => simp [linesFor, own]
    | true => simp [linesFor, own]

theorem foldl_write (appended : setting.isVolumes = false) (lines : List Line) (old : List α) :
    lines.foldl (fun old line => setting.write line old) old = setting.documented lines old := by
  induction lines using List.reverseRecOn with
  | nil => simp
  | append_singleton lines line ih =>
    rw [List.foldl_concat, ih, documented_concat, write, appended]
    rfl

theorem foldl_write_volumes (replaced : setting.isVolumes = true) (lines : List Line)
    (old : List α) :
    lines.foldl (fun old line => setting.write line old) old =
      lines.getLast?.elim old fun line => setting.accept (line.drop 1) := by
  induction lines using List.reverseRecOn with
  | nil => rfl
  | append_singleton lines line ih =>
    rw [List.foldl_concat, write, replaced, List.getLast?_concat]
    rfl

theorem drop_one_of_appends {line : Line} (appends : Value.appends line = true) :
    line.drop 1 = ["+"] ++ Value.items line := by
  rw [Value.items, appends]
  unfold Value.appends at appends
  split at appends
  next => rw [eq_of_beq appends]; rfl
  next => exact absurd appends Bool.false_ne_true

theorem items_of_not_appends {line : Line} (replaces : Value.appends line = false) :
    Value.items line = line.drop 1 := by
  rw [Value.items, replaces]
  rfl

/-- Every line for the volumes replaces their list by all of its values. -/
theorem get_applyAll_volumes (lines : List Line) :
    volumes.get (s.applyAll ctx lines).value =
      (volumes.linesFor lines).getLast?.elim (volumes.get s) fun line => line.drop 1 := by
  rw [get_applyAll, foldl_write_volumes rfl]
  rfl

/-- The values of the last line are the documented list exactly if that line appends nothing, or if
it appends to a lone plus sign. -/
theorem elim_getLast?_eq_documented_iff (lines : List Line) (old : List String) :
    (lines.getLast?.elim old fun line => line.drop 1) = volumes.documented lines old ↔
      ∀ earlier last, lines = earlier ++ [last] → Value.appends last = true →
        volumes.documented earlier old = ["+"] := by
  obtain rfl | ⟨earlier, last, rfl⟩ := lines.eq_nil_or_concat
  · simp
  · have accepted : volumes.given last = Value.items last := rfl
    rw [List.concat_eq_append, List.getLast?_concat, Option.elim_some, documented_concat, accepted]
    constructor
    · intro same earlier' last' split appends
      obtain ⟨rfl, rfl⟩ := List.append_singleton_inj.mp split
      rw [if_pos appends, drop_one_of_appends appends] at same
      exact (List.append_cancel_right same).symm
    · intro lone
      cases appends : Value.appends last with
      | false => rw [items_of_not_appends appends]; rfl
      | true => rw [drop_one_of_appends appends, lone earlier last rfl appends]; rfl

/-- What lines do to lists. -/
structure AppendLaw (ctx : Context) (lines : List Line) (s : Settings) : Prop where
  /-- Every list but that of volumes is the documented one. -/
  appended : ∀ {α : Type} (setting : ListSetting α), setting.isVolumes = false →
    setting.get (s.applyAll ctx lines).value =
      setting.documented (setting.linesFor lines) (setting.get s)
  /-- The list of volumes holds all values of its last line. -/
  replaced : volumes.get (s.applyAll ctx lines).value =
    (volumes.linesFor lines).getLast?.elim (volumes.get s) fun line => line.drop 1
  /-- That is the documented list unless the last line appends to anything but a lone plus sign. -/
  replaced_iff : volumes.get (s.applyAll ctx lines).value =
      volumes.documented (volumes.linesFor lines) (volumes.get s) ↔
    ∀ earlier last, volumes.linesFor lines = earlier ++ [last] → Value.appends last = true →
      volumes.documented earlier (volumes.get s) = ["+"]

/-- Lists are as documented after any lines, but for the list of volumes. -/
theorem applyAll_appendLaw (ctx : Context) (lines : List Line) (s : Settings) :
    AppendLaw ctx lines s where
  appended setting appended := by rw [get_applyAll, foldl_write appended]
  replaced := get_applyAll_volumes lines
  replaced_iff := by rw [get_applyAll_volumes, elim_getLast?_eq_documented_iff]

/-- A volume, and another one that is to be added to it. -/
def twoVolumes : List Line :=
  [["dont_scan_volumes", "A"], ["dont_scan_volumes", "+", "B"]]

/-- A boot manager that knows nothing about where it was started from. -/
def nowhere : Context where
  appleFirmware := false
  arch := .x64
  selfVolume := none
  selfDir := ""
  minuteOfDay := none
  volumes := []

/-- The first volume is lost, and a plus sign stands in its place. -/
theorem twoVolumes_not_documented :
    volumes.linesFor twoVolumes = twoVolumes ∧
      volumes.documented twoVolumes (volumes.get (Settings.default false)) = ["A", "B"] ∧
      volumes.get ((Settings.default false).applyAll nowhere twoVolumes).value = ["+", "B"] := by
  decide

end ListSetting

end BootManager.Config
