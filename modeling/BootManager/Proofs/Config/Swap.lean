import BootManager.Proofs.Config.Setting
import BootManager.Proofs.Config.SettingLines

/-!
# The order of lines

Lines of different directives can be swapped, since the settings of one directive are not those of
another. Only the lines of the two pointing devices share settings, and their order matters if both
turn their device on: the later one turns the other off. The main result is `applyAll_swapLaw`.
-/

namespace BootManager.Config

/-! ## Directives -/

/-- The directive that the keyword of a line names. -/
def Directive.named? (line : Line) : Option Directive :=
  (line.head?.bind lookup).map Found.directive

namespace Line

/-- The keywords of two lines do not name the same directive. -/
def Apart (first second : Line) : Prop :=
  Directive.named? first = none ∨ Directive.named? first ≠ Directive.named? second

/-- A line is one of a directive with a given action. -/
def IsFor (action : Action) (line : Line) : Prop :=
  (Directive.named? line).map Directive.action = some action

/-- Two lines are those of the mouse and of the touch screen, in either order. -/
def ArePointers (first second : Line) : Prop :=
  IsFor .enableMouse first ∧ IsFor .enableTouch second ∨
    IsFor .enableTouch first ∧ IsFor .enableMouse second

/-- Two lines have no settings in common. -/
def Independent (first second : Line) : Prop :=
  first.Apart second ∧ ¬first.ArePointers second

instance (first second : Line) : Decidable (Apart first second) :=
  inferInstanceAs (Decidable (_ ∨ _))

instance (action : Action) (line : Line) : Decidable (IsFor action line) :=
  inferInstanceAs (Decidable (_ = _))

instance (first second : Line) : Decidable (ArePointers first second) :=
  inferInstanceAs (Decidable (_ ∨ _))

end Line

namespace Directive

theorem named?_of_carriedOut? {line : Line} {found : Found}
    (carried : carriedOut? line = some found) : named? line = some found.directive := by
  obtain ⟨named, -⟩ := Option.filter_eq_some_iff.mp carried
  rw [named?, named]
  rfl

/-- Directives that write the same settings are one, or those of the two pointing devices. -/
theorem eq_or_pointers_of_lead_eq {d d' : Directive} (member : d ∈ table) (member' : d' ∈ table)
    (same : d.action.lead = d'.action.lead) :
    d = d' ∨ (d.action = .enableMouse ∧ d'.action = .enableTouch) ∨
      (d.action = .enableTouch ∧ d'.action = .enableMouse) := by
  have all : ∀ d ∈ table, ∀ d' ∈ table, d.action.lead = d'.action.lead →
      d = d' ∨ (d.action = .enableMouse ∧ d'.action = .enableTouch) ∨
        (d.action = .enableTouch ∧ d'.action = .enableMouse) := by
    decide +kernel
  exact all d member d' member' same

theorem arity_of_pointer {d : Directive} (member : d ∈ table)
    (pointer : d.action = .enableMouse ∨ d.action = .enableTouch) : d.arity = none := by
  have all : ∀ d ∈ table, d.action = .enableMouse ∨ d.action = .enableTouch → d.arity = none := by
    decide
  exact all d member pointer

/-- Lines without settings in common carry out actions without settings in common. -/
theorem lead_ne_of_independent {first second : Line} (independent : first.Independent second)
    {found found' : Found} (carried : carriedOut? first = some found)
    (carried' : carriedOut? second = some found') :
    found.directive.action.lead ≠ found'.directive.action.lead := by
  have named := named?_of_carriedOut? carried
  have named' := named?_of_carriedOut? carried'
  obtain ⟨unnamed | ne, plain⟩ := independent
  · exact absurd (named.symm.trans unnamed) (Option.some_ne_none _)
  · intro same
    rcases eq_or_pointers_of_lead_eq (mem_table_of_carriedOut? carried)
      (mem_table_of_carriedOut? carried') same with equal | ⟨mouse, touch⟩ | ⟨touch, mouse⟩
    · exact ne (by rw [named, named', equal])
    · refine plain (.inl ⟨?_, ?_⟩)
      · rw [Line.IsFor, named, ← mouse]; rfl
      · rw [Line.IsFor, named', ← touch]; rfl
    · refine plain (.inr ⟨?_, ?_⟩)
      · rw [Line.IsFor, named, ← touch]; rfl
      · rw [Line.IsFor, named', ← mouse]; rfl

end Directive

namespace Settings

variable {ctx : Context} {s : Settings} {first second : Line}

/-! ## Independent lines -/

theorem value_applyAll_swap (independent : first.Independent second) :
    (s.applyAll ctx [first, second]).value = (s.applyAll ctx [second, first]).value := by
  rw [value_applyAll, value_applyAll]
  simp only [List.foldl_cons, List.foldl_nil, settings_apply]
  cases carried : Directive.carriedOut? first with
  | none => rfl
  | some found =>
    cases carried' : Directive.carriedOut? second with
    | none => rfl
    | some found' =>
      have apart := Directive.lead_ne_of_independent independent carried carried'
      have confined := found.directive.action.confined_run ctx found.inverted first
      have confined' := found'.directive.action.confined_run ctx found'.inverted second
      exact confined'.comm confined apart.symm s

/-! ## Pointing devices -/

theorem settings_apply_pointer {action : Action} (own : first.IsFor action)
    (pointer : action = .enableMouse ∨ action = .enableTouch) :
    ∃ inverted, (s.apply ctx first).value.settings = (action.run ctx inverted first s).value := by
  obtain ⟨d, named, rfl⟩ := Option.map_eq_some_iff.mp own
  obtain ⟨found, looked, rfl⟩ := Option.map_eq_some_iff.mp named
  have member : found.directive ∈ Directive.table := by
    obtain ⟨keyword, -, known⟩ := Option.bind_eq_some_iff.mp looked
    exact Directive.mem_table_of_lookup known
  refine ⟨found.inverted, ?_⟩
  rw [settings_apply, Directive.carriedOut?, looked, Option.filter_some,
    Directive.arity_of_pointer member pointer]
  rfl

/-- The order of two pointing devices matters exactly if both are turned on. -/
theorem enablePointer_comm_iff {device other : Switch} (ne : device ≠ other) :
    Action.enablePointer other device second (Action.enablePointer device other first s) =
        Action.enablePointer device other first (Action.enablePointer other device second s) ↔
      ¬(Value.isOn first = true ∧ Value.isOn second = true) := by
  constructor
  · rintro same ⟨on, on'⟩
    have later := congrArg (fun s : Settings => s.switch.get other) same
    simp [Action.enablePointer, on, on', Table.get_set, ne.symm] at later
  · intro once
    have switch : (Action.enablePointer other device second
          (Action.enablePointer device other first s)).switch =
        (Action.enablePointer device other first
          (Action.enablePointer other device second s)).switch := by
      ext key
      cases on : Value.isOn first with
      | false => cases on' : Value.isOn second <;> grind [Action.enablePointer, Table.get_set]
      | true =>
        have off : Value.isOn second = false := by simpa [on] using once
        grind [Action.enablePointer, Table.get_set]
    exact congrArg (fun switch => ({ s with switch } : Settings)) switch

theorem value_applyAll_pointers_iff (pointers : first.ArePointers second) :
    (s.applyAll ctx [first, second]).value = (s.applyAll ctx [second, first]).value ↔
      ¬(Value.isOn first = true ∧ Value.isOn second = true) := by
  have turned {line : Line} (own : line.IsFor .enableMouse) (s : Settings) :
      (s.apply ctx line).value.settings = Action.enablePointer .enableMouse .enableTouch line s :=
    (settings_apply_pointer own (.inl rfl)).elim fun _ applied => applied
  have turned' {line : Line} (own : line.IsFor .enableTouch) (s : Settings) :
      (s.apply ctx line).value.settings = Action.enablePointer .enableTouch .enableMouse line s :=
    (settings_apply_pointer own (.inr rfl)).elim fun _ applied => applied
  rw [value_applyAll, value_applyAll]
  simp only [List.foldl_cons, List.foldl_nil]
  rcases pointers with ⟨mouse, touch⟩ | ⟨touch, mouse⟩
  · rw [turned mouse, turned' touch, turned' touch, turned mouse]
    exact enablePointer_comm_iff (by decide)
  · rw [turned' touch, turned mouse, turned mouse, turned' touch]
    exact enablePointer_comm_iff (by decide)

/-! ## The law -/

/-- When two lines can be swapped. -/
structure SwapLaw (ctx : Context) (s : Settings) (first second : Line) : Prop where
  /-- Lines other than those of the two pointing devices always can. -/
  swapped : ¬first.ArePointers second →
    (s.applyAll ctx [first, second]).value = (s.applyAll ctx [second, first]).value
  /-- Those can, unless both turn their device on. -/
  pointers : first.ArePointers second →
    ((s.applyAll ctx [first, second]).value = (s.applyAll ctx [second, first]).value ↔
      ¬(Value.isOn first = true ∧ Value.isOn second = true))

/-- Lines of different directives can be swapped, but for those of the two pointing devices. -/
theorem applyAll_swapLaw (ctx : Context) (s : Settings) {first second : Line}
    (apart : first.Apart second) : SwapLaw ctx s first second where
  swapped plain := value_applyAll_swap ⟨apart, plain⟩
  pointers := value_applyAll_pointers_iff

/-- A selection for the hour around midnight. -/
def nightSelection : Line :=
  ["Default_Selection", "Linux", "23:30", "0:30"]

/-- An older name of a switch, with the opposite meaning. -/
def hiddenTools : Line :=
  ["decline_tagshelp"]

/-- The surroundings at midnight. -/
def midnight : Context where
  appleFirmware := true
  arch := .x64
  selfVolume := none
  selfDir := "\\EFI\\boot"
  minuteOfDay := some 0
  volumes := []

/-- Both lines take effect, in either order. -/
theorem nightSelection_hiddenTools_swap :
    nightSelection.Apart hiddenTools ∧ ¬nightSelection.ArePointers hiddenTools ∧
      ((default true).applyAll midnight [nightSelection, hiddenTools]).value =
        ((default true).applyAll midnight [hiddenTools, nightSelection]).value ∧
      (((default true).applyAll midnight [nightSelection, hiddenTools]).value.text.get
        .defaultSelection = some "Linux") := by
  have setup : nightSelection.Apart hiddenTools ∧ ¬nightSelection.ArePointers hiddenTools ∧
      ((default true).applyAll midnight [nightSelection, hiddenTools]).value.text.get
        .defaultSelection = some "Linux" := by
    decide +kernel
  obtain ⟨apart, plain, selected⟩ := setup
  exact ⟨apart, plain, (applyAll_swapLaw midnight (default true) apart).swapped plain, selected⟩

end Settings

end BootManager.Config
