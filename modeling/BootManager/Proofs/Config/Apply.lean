import BootManager.Config.Directive

/-!
# What one line does to the settings

A line carries out the action of its directive, or does nothing: if its keyword is not known, or if
it has another number of words than the directive asks for. What lines do is told from this equation
and from what single actions do.
-/

namespace BootManager.Config

namespace Directive

/-- The directive that a line carries out, if there is one. -/
def carriedOut? (line : Line) : Option Found :=
  (line.head?.bind lookup).filter fun found => found.directive.arity.all (· == line.length)

theorem mem_table_of_lookup {keyword : String} {found : Found}
    (known : lookup keyword = some found) : found.directive ∈ table := by
  obtain ⟨d, member, matched⟩ := List.exists_of_findSome?_eq_some known
  have same : found.directive = d := by
    unfold match? at matched
    split at matched
    · rw [← Option.some.inj matched]
    · obtain ⟨older, -, rfl⟩ := Option.map_eq_some_iff.mp matched
      rfl
  exact same ▸ member

theorem mem_table_of_carriedOut? {line : Line} {found : Found}
    (carried : carriedOut? line = some found) : found.directive ∈ table := by
  obtain ⟨named, -⟩ := Option.filter_eq_some_iff.mp carried
  obtain ⟨keyword, -, known⟩ := Option.bind_eq_some_iff.mp named
  exact mem_table_of_lookup known

/-- A directive is found by its keyword or an older one. -/
theorem exists_word_of_lookup {keyword : String} {found : Found}
    (known : lookup keyword = some found) :
    ∃ word ∈ found.directive.word :: found.directive.aliases.map Alias.word,
      Text.sameIgnoringCase word keyword = true := by
  obtain ⟨d, -, matched⟩ := List.exists_of_findSome?_eq_some known
  unfold match? at matched
  split at matched
  next same =>
    rw [← Option.some.inj matched]
    exact ⟨d.word, List.mem_cons_self, same⟩
  next =>
    obtain ⟨older, first, rfl⟩ := Option.map_eq_some_iff.mp matched
    have listed : older.word ∈ d.aliases.map Alias.word :=
      List.mem_map_of_mem (List.mem_of_find?_eq_some first)
    have same := List.find?_some first
    exact ⟨older.word, List.mem_cons_of_mem _ listed, same⟩

theorem carriedOut?_of_lookup {keyword : String} {found : Found}
    (known : lookup keyword = some found) (any : found.directive.arity = none)
    (values : List String) : carriedOut? (keyword :: values) = some found := by
  rw [carriedOut?, List.head?_cons, Option.bind_some, known, Option.filter_some, any]
  rfl

/-- Pointing devices have actions of their own. -/
theorem action_ne_pointer_of_mem {d : Directive} (member : d ∈ table) :
    d.action ≠ .switch .enableMouse ∧ d.action ≠ .switch .enableTouch := by
  have all : ∀ d ∈ table, d.action ≠ .switch .enableMouse ∧ d.action ≠ .switch .enableTouch := by
    decide
  exact all d member

end Directive

namespace Settings

/-! ## Actions -/

/-- Selecting a default entry changes a text and nothing else. -/
theorem exists_text_selectDefault (ctx : Context) (line : Line) (s : Settings) :
    ∃ text, (Action.selectDefault ctx line s).value = { s with text } := by
  unfold Action.selectDefault
  split
  next =>
    dsimp only
    split
    next => exact ⟨s.text, rfl⟩
    next =>
      cases ctx.minuteOfDay with
      | none => exact ⟨s.text, rfl⟩
      | some now =>
        dsimp only
        split
        next => exact ⟨_, rfl⟩
        next => exact ⟨s.text, rfl⟩
  next => exact ⟨_, rfl⟩

/-- Scaling the banner changes how it is drawn and nothing else. -/
theorem exists_scale_scaleBanner (line : Line) (s : Settings) :
    ∃ bannerScale, (Action.scaleBanner line s).value = { s with bannerScale } := by
  unfold Action.scaleBanner
  dsimp only
  split
  next => exact ⟨_, rfl⟩
  next =>
    split
    next => exact ⟨_, rfl⟩
    next => exact ⟨s.bannerScale, rfl⟩

/-- Of two pointing devices, at most one is on after one of them was turned on or off. -/
theorem one_enablePointer {device other : Switch} {line : Line} {s : Settings} :
    ¬((Action.enablePointer device other line s).switch.get device = true ∧
      (Action.enablePointer device other line s).switch.get other = true) := by
  rintro ⟨first, second⟩
  cases on : Value.isOn line with
  | false =>
    have off : (Action.enablePointer device other line s).switch.get device = false := by
      simp [Action.enablePointer, on]
    exact Bool.false_ne_true (off.symm.trans first)
  | true =>
    have off : (Action.enablePointer device other line s).switch.get other = false := by
      simp [Action.enablePointer, on]
    exact Bool.false_ne_true (off.symm.trans second)

/-! ## Lines -/

/-- A line does what its directive does, or nothing, and its keyword is known if there is a
directive for it. -/
theorem value_apply (ctx : Context) (line : Line) (s : Settings) :
    (s.apply ctx line).value =
      ⟨(line.head?.bind Directive.lookup).isSome,
        (Directive.carriedOut? line).elim s fun found =>
          (found.directive.action.run ctx found.inverted line s).value⟩ := by
  cases line with
  | nil => rfl
  | cons keyword values =>
    rw [apply, Directive.carriedOut?, List.head?_cons, Option.bind_some]
    cases Directive.lookup keyword with
    | none => rfl
    | some found =>
      dsimp only
      rw [Option.filter_some]
      cases found.directive.arity with
      | none => cases found.deprecated <;> rfl
      | some arity =>
        by_cases fits : (keyword :: values).length = arity
        · have kept : (some arity).all (· == (keyword :: values).length) = true :=
            beq_iff_eq.mpr fits.symm
          rw [kept, if_pos rfl]
          simp only [fits]
          cases found.deprecated <;> rfl
        · have dropped : (some arity).all (· == (keyword :: values).length) = false :=
            beq_eq_false_iff_ne.mpr (Ne.symm fits)
          rw [dropped]
          simp only [fits]
          cases found.deprecated <;> rfl

theorem settings_apply (ctx : Context) (line : Line) (s : Settings) :
    (s.apply ctx line).value.settings =
      (Directive.carriedOut? line).elim s fun found =>
        (found.directive.action.run ctx found.inverted line s).value :=
  congrArg Applied.settings (value_apply ctx line s)

theorem known_apply (ctx : Context) (line : Line) (s : Settings) :
    (s.apply ctx line).value.known = (line.head?.bind Directive.lookup).isSome :=
  congrArg Applied.known (value_apply ctx line s)

/-- A directive that takes any number of values is carried out by every line of its keyword. -/
theorem value_apply_of_lookup {keyword : String} {found : Directive.Found}
    (known : Directive.lookup keyword = some found) (any : found.directive.arity = none)
    (ctx : Context) (values : List String) (s : Settings) :
    (s.apply ctx (keyword :: values)).value =
      ⟨true, (found.directive.action.run ctx found.inverted (keyword :: values) s).value⟩ := by
  rw [value_apply, Directive.carriedOut?_of_lookup known any, List.head?_cons, Option.bind_some,
    known]
  rfl

end Settings

end BootManager.Config
