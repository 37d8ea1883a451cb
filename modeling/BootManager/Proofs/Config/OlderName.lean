import BootManager.Config.Field
import BootManager.Proofs.Config.Spelling

/-!
# Older names of directives

A directive is carried out under an older name as under its own, whatever values follow. A name that
turns the meaning of a switch around leaves the opposite value in that switch, and nothing else is
different. The main result is `Settings.apply_olderNameLaw`.
-/

namespace BootManager.Config

/-! ## Finding directives -/

namespace Directive

variable {d : Directive} {older : Alias}

/-- A directive with an older name is the one found under either name. -/
theorem lookup_names (member : d ∈ table) (listed : older ∈ d.aliases) :
    lookup d.word = some ⟨d, false, false⟩ ∧
      lookup older.word = some ⟨d, older.inverted, true⟩ := by
  have all : ∀ d ∈ table, ∀ older ∈ d.aliases,
      lookup older.word = some ⟨d, older.inverted, true⟩ := by
    decide +kernel
  exact ⟨lookup_of_word member (Text.sameIgnoringCase_refl d.word), all d member older listed⟩

/-- A directive with an older name takes any number of values, and reads nothing else. -/
theorem takesAny_of_alias (member : d ∈ table) (listed : older ∈ d.aliases) :
    d.arity = none ∧ d.action ≠ .scanFor := by
  have all : ∀ d ∈ table, ∀ older ∈ d.aliases, d.arity = none ∧ d.action ≠ .scanFor := by decide
  exact all d member older listed

/-- Only switches can be turned around. -/
theorem exists_switch_of_inverted (member : d ∈ table) (listed : older ∈ d.aliases)
    (inverted : older.inverted = true) : ∃ field, d.action = .switch field := by
  have all : ∀ d ∈ table, ∀ older ∈ d.aliases, older.inverted = true →
      ∃ field ∈ Switch.all, d.action = .switch field := by
    decide
  obtain ⟨field, -, turns⟩ := all d member older listed inverted
  exact ⟨field, turns⟩

end Directive

namespace Settings

/-- The settings with one switch turned around. -/
def turned (field : Switch) (s : Settings) : Settings :=
  { s with switch := s.switch.set field (!s.switch.get field) }

/-- How a line under an older name compares with one under the name of the directive. -/
structure OlderNameLaw (ctx : Context) (s : Settings) (d : Directive) (older : Alias)
    (values : List String) : Prop where
  /-- Both names are known. -/
  known : (s.apply ctx (older.word :: values)).value.known = true ∧
    (s.apply ctx (d.word :: values)).value.known = true
  /-- They leave the same settings. -/
  same : older.inverted = false → (s.apply ctx (older.word :: values)).value.settings =
    (s.apply ctx (d.word :: values)).value.settings
  /-- A name that turns the meaning around leaves the same but for the switch of the directive. -/
  turned : older.inverted = true → ∃ field, d.action = .switch field ∧
    (s.apply ctx (older.word :: values)).value.settings =
      (s.apply ctx (d.word :: values)).value.settings.turned field

/-- Turning the meaning of a switch around leaves the opposite value in it. -/
theorem value_run_switch_inverted (ctx : Context) (field : Switch) (line : Line) (s : Settings) :
    ((Action.switch field).run ctx true line s).value =
      ((Action.switch field).run ctx false line s).value.turned field := by
  have switch : s.switch.set field (Value.isOn line != true) =
      (s.switch.set field (Value.isOn line != false)).set field
        (!(s.switch.set field (Value.isOn line != false)).get field) := by
    ext key
    by_cases own : key = field
    · simp [own]
    · simp [Table.get_set_of_ne, own]
  exact congrArg (fun switch => ({ s with switch } : Settings)) switch

/-- A line means the same under an older name, but for switches that the name turns around. -/
theorem apply_olderNameLaw (ctx : Context) (s : Settings) {d : Directive} {older : Alias}
    (member : d ∈ Directive.table) (listed : older ∈ d.aliases) (values : List String) :
    OlderNameLaw ctx s d older values := by
  obtain ⟨any, plain⟩ := Directive.takesAny_of_alias member listed
  obtain ⟨own, renamed⟩ := Directive.lookup_names member listed
  have blind (inverted : Bool) :
      ((d.action.run ctx inverted (older.word :: values) s).value : Settings) =
        (d.action.run ctx inverted (d.word :: values) s).value :=
    congrArg Logged.value (Action.blind_run plain inverted older.word d.word values)
  have ownCarried := Directive.carriedOut?_of_lookup own any values
  have carried := Directive.carriedOut?_of_lookup renamed any values
  refine ⟨⟨?known, ?knownOwn⟩, fun same => ?same, fun inverted => ?turned⟩
  case known =>
    rw [known_apply, List.head?_cons, Option.bind_some, renamed]
    rfl
  case knownOwn =>
    rw [known_apply, List.head?_cons, Option.bind_some, own]
    rfl
  case same =>
    rw [settings_apply, settings_apply, carried, ownCarried, same]
    exact blind false
  case turned =>
    obtain ⟨field, turns⟩ := Directive.exists_switch_of_inverted member listed inverted
    refine ⟨field, turns, ?_⟩
    rw [settings_apply, settings_apply, carried, ownCarried, inverted]
    refine (blind true).trans ?_
    rw [Option.elim_some, turns]
    exact value_run_switch_inverted ctx field (d.word :: values) s

/-- An older name that turns a switch around, and one that does not. -/
theorem olderNames_olderNameLaw :
    let protect := Directive.declined "protect_nvram" "decline_nvramprotect" .protectNvram
    let volumes := Directive.renamed "dont_scan_volumes" "don't_scan_volumes" .dontScanVolumes
    (protect ∈ Directive.table ∧ ⟨"decline_nvramprotect", true⟩ ∈ protect.aliases ∧
        OlderNameLaw ListSetting.nowhere (default false) protect ⟨"decline_nvramprotect", true⟩
          []) ∧
      volumes ∈ Directive.table ∧ ⟨"don't_scan_volumes", false⟩ ∈ volumes.aliases ∧
        OlderNameLaw ListSetting.nowhere (default false) volumes ⟨"don't_scan_volumes", false⟩
          ["+", "Data/Backup"] := by
  intro protect volumes
  have listed : protect ∈ Directive.table ∧ ⟨"decline_nvramprotect", true⟩ ∈ protect.aliases ∧
      volumes ∈ Directive.table ∧ ⟨"don't_scan_volumes", false⟩ ∈ volumes.aliases := by
    decide
  obtain ⟨protects, declines, scans, renames⟩ := listed
  exact ⟨⟨protects, declines, apply_olderNameLaw _ _ protects declines _⟩,
    scans, renames, apply_olderNameLaw _ _ scans renames _⟩

end Settings

end BootManager.Config
