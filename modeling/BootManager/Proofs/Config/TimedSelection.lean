import BootManager.Proofs.Config.Spelling
import BootManager.Proofs.Text.Decimal

/-!
# Selections for a time of the day

A line that selects a default entry for a time takes effect from the first minute of its range up to
the last one, past midnight if need be, and at no other time. So it does nothing if the time is not
known or the range has an end that is no time of a day. The main result is
`Settings.apply_timedSelectionLaw`.
-/

namespace BootManager.Config

open Text

/-- A range that starts before its end lies between the two, any other one outside. -/
theorem TimeOfDay.inRange_iff_toNat {start stop now : UInt32} :
    inRange start stop now = true ↔
      start.toNat < stop.toNat ∧ start.toNat ≤ now.toNat ∧ now.toNat ≤ stop.toNat ∨
        stop.toNat ≤ start.toNat ∧ (start.toNat ≤ now.toNat ∨ now.toNat ≤ stop.toNat) := by
  unfold inRange
  split
  next before =>
    rw [UInt32.lt_iff_toNat_lt] at before
    simp only [Bool.and_eq_true, decide_eq_true_iff, UInt32.le_iff_toNat_le]
    omega
  next after =>
    rw [UInt32.lt_iff_toNat_lt] at after
    simp only [Bool.or_eq_true, decide_eq_true_iff, UInt32.le_iff_toNat_le]
    omega

/-! ## Written times -/

/-- A time written as an hour and a minute, with any number of digits for each. -/
structure WrittenTime where
  hour : List Char
  minute : List Char
  hourDigits : ∀ c ∈ hour, c.isDigit = true
  minuteDigits : ∀ c ∈ minute, c.isDigit = true

namespace WrittenTime

/-- The text of a time, with a colon after the hour. -/
def text (t : WrittenTime) : String :=
  String.ofList (t.hour ++ ':' :: t.minute)

/-- The minutes past midnight that a time stands for. They may be more than a day has. -/
def minutes (t : WrittenTime) : Nat :=
  60 * Nat.ofDigitChars 10 t.hour 0 + Nat.ofDigitChars 10 t.minute 0

theorem foldl_next {digits : List Char} (digit : ∀ c ∈ digits, c.isDigit = true) (hour : UInt32)
    (n : Nat) :
    digits.foldl TimeOfDay.Reading.next ⟨hour, saturate n⟩ =
      ⟨hour, saturate (Nat.ofDigitChars 10 digits n)⟩ := by
  induction digits generalizing n with
  | nil => rfl
  | cons c digits ih =>
    have first : c.isDigit = true := digit c List.mem_cons_self
    have other : c ≠ ':' := by
      rintro rfl
      exact absurd first (by decide)
    have step : TimeOfDay.Reading.next ⟨hour, saturate n⟩ c =
        ⟨hour, saturate (10 * n + (c.toNat - '0'.toNat))⟩ := by
      rw [TimeOfDay.Reading.next, if_neg other, digitValue?_of_isDigit first]
      simp only [appendDigit_saturate]
    rw [List.foldl_cons, step, ih fun d member => digit d (List.mem_cons_of_mem c member),
      Nat.ofDigitChars_cons]

/-- A written time is read as its minutes, up to the largest number there is. -/
theorem read_text (t : WrittenTime) : TimeOfDay.read t.text = saturate t.minutes := by
  have start : (⟨0, 0⟩ : TimeOfDay.Reading) = ⟨0, saturate 0⟩ := rfl
  have colon (hour : UInt32) : TimeOfDay.Reading.next ⟨0, hour⟩ ':' = ⟨hour, saturate 0⟩ := rfl
  rw [TimeOfDay.read, text, String.toList_ofList, List.foldl_append, List.foldl_cons, start,
    foldl_next t.hourDigits, colon, foldl_next t.minuteDigits]
  dsimp only
  rw [saturate_eq_iff, toNat_saturate, toNat_saturate, toNat_saturate, minutes]
  omega

theorem lastMinute_lt_read_iff (t : WrittenTime) :
    TimeOfDay.read t.text > TimeOfDay.lastMinute ↔ 1439 < t.minutes := by
  have last : TimeOfDay.lastMinute.toNat = 1439 := rfl
  rw [read_text, gt_iff_lt, UInt32.lt_iff_toNat_lt, toNat_saturate, last]
  omega

/-- A time lies in a range if it comes no later after the start than the end does, around the
clock. -/
theorem inRange_iff {start stop : WrittenTime} (startDay : start.minutes ≤ 1439)
    (stopDay : stop.minutes ≤ 1439) (apart : start.minutes ≠ stop.minutes) {now : UInt32}
    (nowDay : now.toNat ≤ 1439) :
    TimeOfDay.inRange (TimeOfDay.read start.text) (TimeOfDay.read stop.text) now = true ↔
      ((now.toNat : Int) - start.minutes) % 1440 ≤
        ((stop.minutes : Int) - start.minutes) % 1440 := by
  have startRead : (TimeOfDay.read start.text).toNat = start.minutes := by
    rw [read_text, toNat_saturate]
    omega
  have stopRead : (TimeOfDay.read stop.text).toNat = stop.minutes := by
    rw [read_text, toNat_saturate]
    omega
  rw [TimeOfDay.inRange_iff_toNat, startRead, stopRead]
  omega

end WrittenTime

/-! ## Selecting -/

namespace Settings

/-- The settings with another entry selected by default. -/
def selecting (name : String) (s : Settings) : Settings :=
  { s with text := s.text.set .defaultSelection (some name) }

variable {ctx : Context} {s : Settings} {keyword name : String} {start stop : WrittenTime}

/-- Nothing is selected for a range that does not lie in a day, or if the time is not known. -/
theorem value_selectDefault_of_lost (lost : 1439 < start.minutes ∨ 1439 < stop.minutes ∨
      ctx.minuteOfDay = none) :
    (Action.selectDefault ctx [keyword, name, start.text, stop.text] s).value = s := by
  rw [Action.selectDefault]
  split
  next => rfl
  next valid =>
    rw [start.lastMinute_lt_read_iff, stop.lastMinute_lt_read_iff] at valid
    rcases lost with early | late | unknown
    · exact absurd (.inl early) valid
    · exact absurd (.inr late) valid
    · rw [unknown]
      rfl

/-- A range that lies in a day selects while it lasts. -/
theorem value_selectDefault_of_known (startDay : start.minutes ≤ 1439)
    (stopDay : stop.minutes ≤ 1439) {now : UInt32} (known : ctx.minuteOfDay = some now) :
    (Action.selectDefault ctx [keyword, name, start.text, stop.text] s).value =
      if TimeOfDay.inRange (TimeOfDay.read start.text) (TimeOfDay.read stop.text) now then
        s.selecting name
      else s := by
  have valid : ¬(TimeOfDay.read start.text > TimeOfDay.lastMinute ∨
      TimeOfDay.read stop.text > TimeOfDay.lastMinute) := by
    rw [start.lastMinute_lt_read_iff, stop.lastMinute_lt_read_iff]
    omega
  rw [Action.selectDefault, if_neg valid, known]
  dsimp only
  split
  next => rfl
  next => rfl

/-- What a line does that selects an entry for a time of the day. -/
structure TimedSelectionLaw (ctx : Context) (s : Settings) (keyword name : String)
    (start stop : WrittenTime) : Prop where
  /-- A range with an end that is no time of a day does nothing, and neither does any range while
  the time is not known. -/
  lost : 1439 < start.minutes ∨ 1439 < stop.minutes ∨ ctx.minuteOfDay = none →
    (s.apply ctx [keyword, name, start.text, stop.text]).value = ⟨true, s⟩
  /-- Otherwise the entry is selected exactly if the time comes no later after the start than the
  end does, around the clock. Nothing else is changed. -/
  timed : start.minutes ≤ 1439 → stop.minutes ≤ 1439 → start.minutes ≠ stop.minutes →
    ∀ now, ctx.minuteOfDay = some now → now.toNat ≤ 1439 →
      (s.apply ctx [keyword, name, start.text, stop.text]).value =
        ⟨true,
          if ((now.toNat : Int) - start.minutes) % 1440 ≤
              ((stop.minutes : Int) - start.minutes) % 1440 then
            s.selecting name
          else s⟩

/-- A timed selection takes effect in its range around the clock and nowhere else. -/
theorem apply_timedSelectionLaw (ctx : Context) (s : Settings) {keyword : String}
    (named : sameIgnoringCase keyword "default_selection" = true) (name : String)
    (start stop : WrittenTime) : TimedSelectionLaw ctx s keyword name start stop := by
  have applied : (s.apply ctx [keyword, name, start.text, stop.text]).value =
      ⟨true, (Action.selectDefault ctx [keyword, name, start.text, stop.text] s).value⟩ := by
    have found := Directive.lookup_of_word (d := .many "default_selection" .defaultSelection)
      (by decide) named
    exact value_apply_of_lookup found rfl ctx _ s
  refine ⟨fun lost => ?lost, fun startDay stopDay apart now known nowDay => ?timed⟩
  case lost => rw [applied, value_selectDefault_of_lost lost]
  case timed =>
    rw [applied, value_selectDefault_of_known startDay stopDay known]
    simp only [WrittenTime.inRange_iff startDay stopDay apart nowDay]

/-- Half past eleven at night, with zeros in front. -/
def lateEvening : WrittenTime where
  hour := ['0', '0', '0', '2', '3']
  minute := ['3', '0']
  hourDigits := by simp
  minuteDigits := by simp

/-- Half an hour past midnight. -/
def pastMidnight : WrittenTime where
  hour := []
  minute := ['3', '0']
  hourDigits := by simp
  minuteDigits := by simp

/-- A range past midnight, looked at in its last minute. -/
theorem lateEvening_timedSelectionLaw :
    let ctx : Context := { ListSetting.nowhere with minuteOfDay := some 30 }
    sameIgnoringCase "Default_Selection" "default_selection" = true ∧
      TimedSelectionLaw ctx (default false) "Default_Selection" "Linux" lateEvening pastMidnight ∧
      ((default false).apply ctx ["Default_Selection", "Linux", lateEvening.text,
        pastMidnight.text]).value.settings.text.get .defaultSelection = some "Linux" := by
  intro ctx
  have named : sameIgnoringCase "Default_Selection" "default_selection" = true := by decide
  exact ⟨named, apply_timedSelectionLaw ctx (default false) named "Linux" lateEvening pastMidnight,
    by decide +kernel⟩

end Settings

end BootManager.Config
