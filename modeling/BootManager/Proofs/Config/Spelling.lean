import BootManager.Proofs.Config.ListLines

/-!
# How keywords are spelled

A keyword names its directive in capital and small letters alike, and what a directive does is told
from the values of its line, with one exception: `scanfor` takes the first character of every word
of the line, the keyword included. The main result is `apply_spellingLaw`.
-/

namespace BootManager.Config

open Text

/-! ## Reading without the keyword -/

/-- What is read of a line does not depend on its keyword. -/
def Line.Blind {α : Type} (read : Line → α) : Prop :=
  ∀ (keyword other : String) (values : List String),
    read (keyword :: values) = read (other :: values)

namespace Line.Blind

variable {α β γ : Type} {read : Line → α} {read' : Line → β}

theorem map (blind : Blind read) (f : α → β) : Blind fun line => f (read line) :=
  fun keyword other values => congrArg f (blind keyword other values)

theorem map₂ (blind : Blind read) (blind' : Blind read') (f : α → β → γ) :
    Blind fun line => f (read line) (read' line) := by
  intro keyword other values
  simp only [blind keyword other values, blind' keyword other values]

end Line.Blind

namespace Value

open Line (Blind)

theorem blind_signed (old : Int32) : Blind fun line => signed line old := by
  intro keyword other values
  match values with
  | [] | [_] | _ :: _ :: _ => rfl

theorem blind_unsigned (old : UInt32) : Blind fun line => unsigned line old := by
  intro keyword other values
  match values with
  | [] | [_] | _ :: _ :: _ => rfl

theorem blind_text (old : Option String) : Blind fun line => text line old := by
  intro keyword other values
  match values with
  | [] | [_] | _ :: _ :: _ => rfl

theorem blind_values : Blind fun line => line.drop 1 :=
  fun _ _ _ => rfl

theorem blind_appends : Blind appends := by
  intro keyword other values
  match values with
  | [] | [_] | _ :: _ :: _ => rfl

theorem blind_items : Blind items := by
  intro keyword other values
  rw [items, items, blind_appends keyword other values]
  split <;> rfl

theorem blind_extend {α : Type} (accepted : List String → List α) (old : List α) :
    Blind fun line => extend accepted line old :=
  blind_appends.map₂ blind_items fun appends items =>
    (if appends then old else []) ++ accepted items

theorem blind_texts (clean : Bool) (old : List String) : Blind fun line => texts clean line old :=
  blind_extend _ old

theorem blind_hexes (limit : UInt32) (old : List UInt32) :
    Blind fun line => hexes limit line old :=
  blind_extend _ old

theorem blind_isOn : Blind isOn := by
  intro keyword other values
  match values with
  | [] | _ :: _ => rfl

theorem blind_graphicsFor (old : LoaderSet) : Blind fun line => graphicsFor line old :=
  blind_appends.map₂ blind_values fun appends values =>
    (values.filterMap LoaderFamily.ofWord?).foldl LoaderSet.insert (if appends then old else .empty)

theorem blind_resolution : Blind resolution := by
  intro keyword other values
  match values with
  | [] | [_] | [_, _] | _ :: _ :: _ :: _ => rfl

theorem blind_colour : Blind colour := by
  intro keyword other values
  match values with
  | [] | [_] | [_, _] | [_, _, _] | _ :: _ :: _ :: _ :: _ => rfl

end Value

namespace Action

open Line (Blind)

variable {ctx : Context} {s : Settings}

theorem blind_selectDefault : Blind fun line => selectDefault ctx line s := by
  intro keyword other values
  match values with
  | [] | [_] | [_, _] | [_, _, _] | _ :: _ :: _ :: _ :: _ => rfl

theorem blind_enablePointer (device pointer : Switch) :
    Blind fun line => enablePointer device pointer line s :=
  Value.blind_isOn.map fun on =>
    let switch := s.switch.set device on
    { s with switch := if on then switch.set pointer false else switch }

/-- Every action but that of `scanfor` reads the values of a line only. -/
theorem blind_run {action : Action} (plain : action ≠ .scanFor) (inverted : Bool) :
    Blind fun line => action.run ctx inverted line s := by
  cases action with
  | signed field =>
    exact (Value.blind_signed _).map fun n =>
      (pure { s with signed := s.signed.set field n } : Logged Settings)
  | unsigned field =>
    exact (Value.blind_unsigned _).map fun n =>
      (pure { s with unsigned := s.unsigned.set field n } : Logged Settings)
  | text field =>
    exact (Value.blind_text _).map fun text =>
      (pure { s with text := s.text.set field text } : Logged Settings)
  | paths field =>
    exact (Value.blind_texts true _).map fun list =>
      (pure { s with list := s.list.set field list } : Logged Settings)
  | switch field =>
    exact Value.blind_isOn.map fun on =>
      (pure { s with switch := s.switch.set field (on != inverted) } : Logged Settings)
  | timeout =>
    exact (Value.blind_signed _).map fun timeout =>
      (pure { s with timeout, directBoot := timeout < 0 } : Logged Settings)
  | logLevel =>
    exact (Value.blind_signed _).map fun n =>
      (pure { s with logLevel := max 0 (min maxLogLevel n) } : Logged Settings)
  | defaultSelection => exact blind_selectDefault
  | csrValues =>
    exact (Value.blind_hexes Value.maxCsrValue _).map fun csrValues =>
      (pure { s with csrValues } : Logged Settings)
  | enableMouse => exact (blind_enablePointer .enableMouse .enableTouch).map pure
  | enableTouch => exact (blind_enablePointer .enableTouch .enableMouse).map pure
  | graphicsFor =>
    exact (Value.blind_graphicsFor _).map fun graphicsFor =>
      (pure { s with graphicsFor } : Logged Settings)
  | resolution =>
    intro keyword other values
    simp only [run, Value.blind_resolution keyword other values]
  | screenColour =>
    intro keyword other values
    simp only [run, Value.blind_colour keyword other values]
  | scanFor => exact absurd rfl plain
  | _ => exact fun _ _ _ => rfl

end Action

/-! ## Finding directives -/

namespace Directive

variable {keyword other : String}

theorem lookup_congr (same : sameIgnoringCase keyword other = true) :
    lookup keyword = lookup other := by
  have letters : lower keyword = lower other := sameIgnoringCase_iff.mp same
  have spelled (word : String) : sameIgnoringCase word keyword = sameIgnoringCase word other := by
    rw [sameIgnoringCase, sameIgnoringCase, letters]
  simp only [lookup, match?, spelled]

/-- Every directive is found by its own keyword, however that is spelled. -/
theorem lookup_of_word {d : Directive} (member : d ∈ table)
    (same : sameIgnoringCase keyword d.word = true) : lookup keyword = some ⟨d, false, false⟩ := by
  have all : ∀ d ∈ table, lookup d.word = some ⟨d, false, false⟩ := by decide +kernel
  rw [lookup_congr same, all d member]

theorem carriedOut?_congr (same : sameIgnoringCase keyword other = true) (values : List String) :
    carriedOut? (keyword :: values) = carriedOut? (other :: values) := by
  simp only [carriedOut?, List.head?_cons, Option.bind_some, lookup_congr same, List.length_cons]

/-- The directive of the scan targets. -/
def scanFor : Found :=
  ⟨many "scanfor" .scanFor, false, false⟩

theorem lookup_scanFor (same : sameIgnoringCase keyword "scanfor" = true) :
    lookup keyword = some scanFor :=
  lookup_of_word (d := many "scanfor" .scanFor) (by decide) same

theorem action_ne_scanFor {found : Found} (known : lookup keyword = some found)
    (apart : sameIgnoringCase keyword "scanfor" = false) : found.directive.action ≠ .scanFor := by
  intro acts
  have words : ∀ d ∈ table, d.action = .scanFor →
      d.word :: d.aliases.map Alias.word = ["scanfor"] := by decide
  obtain ⟨word, named, same⟩ := exists_word_of_lookup known
  rw [words _ (mem_table_of_lookup known) acts, List.mem_singleton] at named
  have same' : sameIgnoringCase keyword "scanfor" = true := by
    rw [sameIgnoringCase_iff, ← sameIgnoringCase_iff.mp same, named]
  exact Bool.false_ne_true (apart.symm.trans same')

end Directive

/-! ## The first slot -/

namespace ScanSlots

theorem ofChars_cons (first other : Char) (rest : List Char) :
    ofChars (other :: rest) = (ofChars (first :: rest)).set 0 other (by decide) := by
  ext i inRange
  cases i <;> simp [ofChars]

theorem ofChars_cons_inj {first other : Char} {rest : List Char} :
    ofChars (first :: rest) = ofChars (other :: rest) ↔ first = other := by
  constructor
  · intro same
    have inRange : 0 < scanSlotCount := by decide
    have slot := congrArg (fun slots : ScanSlots => slots[0]) same
    simpa [ofChars] using slot
  · rintro rfl
    rfl

end ScanSlots

namespace Settings

variable {ctx : Context} {s : Settings} {keyword other : String}

theorem settings_apply_congr (same : sameIgnoringCase keyword other = true)
    (apart : sameIgnoringCase keyword "scanfor" = false) (values : List String) :
    (s.apply ctx (keyword :: values)).value.settings =
      (s.apply ctx (other :: values)).value.settings := by
  rw [settings_apply, settings_apply, ← Directive.carriedOut?_congr same]
  cases carried : Directive.carriedOut? (keyword :: values) with
  | none => rfl
  | some found =>
    obtain ⟨looked, -⟩ := Option.filter_eq_some_iff.mp carried
    have plain : found.directive.action ≠ .scanFor := Directive.action_ne_scanFor looked apart
    exact congrArg Logged.value (Action.blind_run plain found.inverted keyword other values)

/-- A spelling of `scanfor` has a first character, which goes into the first slot. -/
theorem settings_apply_scanFor (ctx : Context) (s : Settings)
    (scans : sameIgnoringCase keyword "scanfor" = true) (values : List String) :
    ∃ first, keyword.toList.head? = some first ∧
      (s.apply ctx (keyword :: values)).value.settings =
        { s with scanFor := .ofChars (first :: values.map fun word => word.toList.headD ' ') } := by
  have letters := congrArg String.toList (sameIgnoringCase_iff.mp scans)
  rw [toList_lower, toList_lower] at letters
  obtain ⟨first, rest, begins⟩ : ∃ first rest, keyword.toList = first :: rest := by
    rw [← List.ne_nil_iff_exists_cons]
    intro blank
    rw [blank] at letters
    exact absurd letters (by decide)
  refine ⟨first, by rw [begins, List.head?_cons], ?_⟩
  have slots : Value.scanSlots (keyword :: values) =
      .ofChars (first :: values.map fun word => word.toList.headD ' ') := by
    rw [Value.scanSlots, List.map_cons, begins, List.headD_cons]
  rw [settings_apply, Directive.carriedOut?, List.head?_cons, Option.bind_some,
    Directive.lookup_scanFor scans, ← slots]
  rfl

/-! ## The law -/

/-- How two spellings of a keyword compare, on lines with the same values. -/
structure SpellingLaw (ctx : Context) (s : Settings) (keyword other : String)
    (values : List String) : Prop where
  /-- Both are known, or neither is. -/
  known_eq : (s.apply ctx (keyword :: values)).value.known =
    (s.apply ctx (other :: values)).value.known
  /-- They leave the same settings, unless they are spellings of `scanfor` that begin with different
  characters. -/
  settings_eq_iff : (s.apply ctx (keyword :: values)).value.settings =
      (s.apply ctx (other :: values)).value.settings ↔
    (sameIgnoringCase keyword "scanfor" = true → keyword.toList.head? = other.toList.head?)
  /-- Spellings of `scanfor` leave the same settings but for the first slot of the scan targets,
  which is the first character of each. -/
  scanFor_eq : sameIgnoringCase keyword "scanfor" = true →
    ∃ t : Settings, ∀ spelling ∈ [keyword, other], ∃ first, spelling.toList.head? = some first ∧
      (s.apply ctx (spelling :: values)).value.settings =
        { t with scanFor := t.scanFor.set 0 first (by decide) }

/-- Two spellings that differ in the case of letters only mean the same, but for the character that
`scanfor` takes from its keyword. -/
theorem apply_spellingLaw (ctx : Context) (s : Settings) {keyword other : String}
    (same : sameIgnoringCase keyword other = true) (values : List String) :
    SpellingLaw ctx s keyword other values := by
  have scans_other (scans : sameIgnoringCase keyword "scanfor" = true) :
      sameIgnoringCase other "scanfor" = true := by
    rw [sameIgnoringCase_iff, ← sameIgnoringCase_iff.mp same, sameIgnoringCase_iff.mp scans]
  refine ⟨?_, ?_, fun scans => ?_⟩
  · rw [known_apply, known_apply, List.head?_cons, List.head?_cons, Option.bind_some,
      Option.bind_some, Directive.lookup_congr same]
  · cases scans : sameIgnoringCase keyword "scanfor" with
    | false => simp [settings_apply_congr same scans]
    | true =>
      obtain ⟨first, begins, left⟩ := settings_apply_scanFor ctx s scans values
      obtain ⟨first', begins', left'⟩ := settings_apply_scanFor ctx s (scans_other scans) values
      rw [left, left', begins, begins']
      constructor
      · intro equal _
        exact congrArg some (ScanSlots.ofChars_cons_inj.mp (congrArg Settings.scanFor equal))
      · intro equal
        rw [Option.some.inj (equal rfl)]
  · let blank : Settings :=
      { s with scanFor := .ofChars (' ' :: values.map fun word => word.toList.headD ' ') }
    refine ⟨blank, fun spelling listed => ?_⟩
    have own : sameIgnoringCase spelling "scanfor" = true := by
      rcases List.mem_pair.mp listed with rfl | rfl
      · exact scans
      · exact scans_other scans
    obtain ⟨first, begins, left⟩ := settings_apply_scanFor ctx s own values
    exact ⟨first, begins, left.trans (by rw [ScanSlots.ofChars_cons ' ' first])⟩

/-- An older keyword with the opposite meaning, in small and in mixed letters. -/
theorem declinedHelp_spellingLaw :
    sameIgnoringCase "decline_tagshelp" "Decline_TagsHelp" = true ∧
      SpellingLaw ListSetting.nowhere (default false) "decline_tagshelp" "Decline_TagsHelp"
        ["Off"] ∧
      (((default false).apply ListSetting.nowhere ["Decline_TagsHelp", "Off"]).value.settings.switch
        .tagsHelp = true) := by
  have same : sameIgnoringCase "decline_tagshelp" "Decline_TagsHelp" = true := by decide
  exact ⟨same, apply_spellingLaw ListSetting.nowhere (default false) same ["Off"],
    by decide +kernel⟩

/-- A capital letter goes into the first slot of the scan targets. -/
theorem capitalScanFor_differs :
    sameIgnoringCase "scanfor" "Scanfor" = true ∧
      ((default false).apply ListSetting.nowhere ["scanfor", "internal"]).value.settings ≠
        ((default false).apply ListSetting.nowhere ["Scanfor", "internal"]).value.settings := by
  refine ⟨by decide, fun same => ?_⟩
  have scans : sameIgnoringCase "scanfor" "scanfor" = true ∧
      sameIgnoringCase "Scanfor" "scanfor" = true := by decide
  obtain ⟨small, begins, left⟩ :=
    settings_apply_scanFor ListSetting.nowhere (default false) scans.1 ["internal"]
  obtain ⟨capital, begins', left'⟩ :=
    settings_apply_scanFor ListSetting.nowhere (default false) scans.2 ["internal"]
  rw [left, left'] at same
  have letters : small = capital :=
    ScanSlots.ofChars_cons_inj.mp (congrArg Settings.scanFor same)
  rw [letters, ← begins'] at begins
  exact absurd begins (by decide)

end Settings

end BootManager.Config
