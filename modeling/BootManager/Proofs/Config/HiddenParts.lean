import BootManager.Proofs.Config.Spelling

/-!
# Hiding parts of the interface

A line that hides parts of the interface is a set of names: it adds the parts that its values name,
in any order and however often, or shows everything again if one value is `none`. The words that
sets are kept in may have bits that stand for no part; these are told apart from the parts, so that
the laws say everything about a word. The main result is `hidden_hideLaw`.
-/

namespace BootManager.Config

open Text

/-! ## Parts and bits -/

namespace HidePart

/-- The place of the bit of a part. -/
def place (part : HidePart) : Nat :=
  all.idxOf part

theorem mem_all (part : HidePart) : part ∈ all := by
  cases part <;> decide

theorem place_inj {part other : HidePart} : part.place = other.place ↔ part = other :=
  List.idxOf_inj part.mem_all

theorem place_lt (part : HidePart) : part.place < 9 :=
  List.idxOf_lt_length_of_mem part.mem_all

/-- The lowest bits are those of the parts. -/
theorem exists_place {i : Nat} (low : i < 9) : ∃ part : HidePart, part.place = i := by
  have each : ∀ i < 9, ∃ part ∈ all, part.place = i := by decide
  obtain ⟨part, -, here⟩ := each i low
  exact ⟨part, here⟩

theorem toBitVec_bit (part : HidePart) : part.bit.toBitVec = BitVec.twoPow 32 part.place := by
  cases part <;> rfl

end HidePart

namespace HideSet

variable {set other : HideSet} {part : HidePart}

/-- The bits of a word that stand for no part. -/
def stray (set : HideSet) : UInt32 :=
  set.bits &&& ~~~full.bits

theorem contains_eq_getLsbD (set : HideSet) (part : HidePart) :
    set.contains part = set.bits.toBitVec.getLsbD part.place := by
  have alone : set.bits &&& part.bit = 0 ↔ set.bits.toBitVec.getLsbD part.place = false := by
    rw [← UInt32.toBitVec_inj, UInt32.toBitVec_and, part.toBitVec_bit, BitVec.and_twoPow]
    cases set.bits.toBitVec.getLsbD part.place with
    | false => simp
    | true =>
      have bit : BitVec.twoPow 32 part.place ≠ 0 := by
        rw [← part.toBitVec_bit]
        cases part <;> decide
      simpa using bit
  rw [contains]
  grind

theorem getLsbD_stray {i : Nat} (inside : i < 32) :
    set.stray.toBitVec.getLsbD i = (set.bits.toBitVec.getLsbD i && !decide (i < 9)) := by
  have full : ∀ i < 32, (~~~full.bits).toBitVec.getLsbD i = !decide (i < 9) := by decide
  rw [stray, UInt32.toBitVec_and, BitVec.getLsbD_and, full i inside]

/-- A word is told by the parts in it and by its other bits. -/
theorem eq_of_contains_eq (parts : ∀ part, set.contains part = other.contains part)
    (others : set.stray = other.stray) : set = other := by
  have bits : set.bits.toBitVec = other.bits.toBitVec := by
    apply BitVec.eq_of_getLsbD_eq
    intro i inside
    by_cases low : i < 9
    · obtain ⟨part, rfl⟩ := HidePart.exists_place low
      rw [← contains_eq_getLsbD, ← contains_eq_getLsbD, parts]
    · have high := congrArg (fun word => word.toBitVec.getLsbD i) others
      simpa [getLsbD_stray inside, low] using high
  cases set
  cases other
  exact congrArg HideSet.mk (UInt32.toBitVec_inj.mp bits)

@[simp] theorem contains_full (part : HidePart) : full.contains part = true := by
  cases part <;> decide

@[simp] theorem stray_full : full.stray = 0 := by
  decide

theorem contains_insert (set : HideSet) (part other : HidePart) :
    (set.insert part).contains other = (set.contains other || decide (part = other)) := by
  have inside : part.place < 32 := part.place_lt.trans (by decide)
  rw [contains_eq_getLsbD, contains_eq_getLsbD, insert, UInt32.toBitVec_or, BitVec.getLsbD_or,
    part.toBitVec_bit, BitVec.getLsbD_twoPow, decide_eq_true inside, Bool.true_and]
  simp only [HidePart.place_inj]

@[simp] theorem stray_insert (set : HideSet) (part : HidePart) :
    (set.insert part).stray = set.stray := by
  have low : part.bit &&& ~~~full.bits = 0 := by cases part <;> decide
  have bits : (set.bits ||| part.bit) &&& ~~~full.bits =
      set.bits &&& ~~~full.bits ||| part.bit &&& ~~~full.bits := by
    rw [← UInt32.toBitVec_inj]
    exact BitVec.and_or_distrib_right
  rw [stray, insert, bits, low, UInt32.or_zero]
  rfl

end HideSet

/-! ## What values name -/

/-- A value stands for all parts. -/
def NamesAll (value : String) : Prop :=
  lower value ∈ ["all", "every", "everything"]

instance (value : String) : Decidable (NamesAll value) :=
  inferInstanceAs (Decidable (_ ∈ _))

/-- A value names a part, by its own word or with all others. -/
def NamesPart (value : String) (part : HidePart) : Prop :=
  NamesAll value ∨ lower value = part.word

/-- A value means nothing. -/
def NamesNothing (value : String) : Prop :=
  lower value ≠ "none" ∧ ∀ part, ¬NamesPart value part

/-- One of the values asks for nothing to be hidden. -/
def AsksForNone (values : List String) : Prop :=
  ∃ value ∈ values, lower value = "none"

theorem ofWord?_eq_some_iff {value : String} {part : HidePart} :
    HidePart.ofWord? value = some part ↔ lower value = part.word := by
  constructor
  · intro found
    have word := List.find?_some found
    exact (eq_of_beq word).symm
  · intro word
    have own : HidePart.all.find? (fun other => other.word == part.word) = some part := by
      cases part <;> decide
    rw [HidePart.ofWord?, word, own]

namespace Value

theorem namesAll_iff {value : String} : namesAll value = true ↔ NamesAll value := by
  have letters : lower "all" = "all" ∧ lower "every" = "every" ∧
      lower "everything" = "everything" := by decide
  simp [namesAll, NamesAll, sameIgnoringCase_iff, letters]

theorem asksForNone_iff {values : List String} :
    (values.any fun value => sameIgnoringCase value "none") = true ↔ AsksForNone values := by
  have letters : lower "none" = "none" := by decide
  simp [AsksForNone, sameIgnoringCase_iff, letters]

/-- The set after one value that is not `none`. -/
theorem contains_hide (set : HideSet) (value : String) (part : HidePart) :
    (hide set value).value.contains part = true ↔
      set.contains part = true ∨ NamesPart value part := by
  rw [hide, NamesPart, ← namesAll_iff, ← ofWord?_eq_some_iff]
  split
  next all => simp [all]
  next one =>
    cases named : HidePart.ofWord? value with
    | none => simp [one]
    | some other => simp [one, HideSet.contains_insert]

theorem stray_hide (set : HideSet) (value : String) :
    (hide set value).value.stray = if NamesAll value then 0 else set.stray := by
  rw [hide]
  by_cases all : NamesAll value
  · rw [if_pos all, if_pos (namesAll_iff.mpr all)]
    exact HideSet.stray_full
  · rw [if_neg all, if_neg (mt namesAll_iff.mp all)]
    cases HidePart.ofWord? value with
    | none => rfl
    | some part => exact set.stray_insert part

end Value

/-! ## Lines -/

/-- What is hidden after a line with these values. -/
def hiddenAfter (values : List String) (old : HideSet) : HideSet :=
  (Value.hidden ("hideui" :: values) old).value

variable {values : List String} {old : HideSet}

theorem hiddenAfter_of_asksForNone (asks : AsksForNone values) :
    hiddenAfter values old = .empty := by
  have found := Value.asksForNone_iff.mpr asks
  rw [hiddenAfter, Value.hidden, List.drop_one, List.tail_cons, if_pos found]
  rfl

theorem hiddenAfter_of_not_asksForNone (plain : ¬AsksForNone values) :
    hiddenAfter values old = values.foldl (fun set value => (Value.hide set value).value) old := by
  have absent := mt Value.asksForNone_iff.mp plain
  rw [hiddenAfter, Value.hidden, List.drop_one, List.tail_cons, if_neg absent,
    Logged.value_foldlM]

theorem contains_hiddenAfter (plain : ¬AsksForNone values) (part : HidePart) :
    (hiddenAfter values old).contains part = true ↔
      old.contains part = true ∨ ∃ value ∈ values, NamesPart value part := by
  rw [hiddenAfter_of_not_asksForNone plain]
  -- Value by value from any set, for which it does not matter that no value is `none`.
  clear plain
  induction values generalizing old with
  | nil => simp
  | cons value values ih =>
    rw [List.foldl_cons, ih, Value.contains_hide, or_assoc]
    simp only [List.mem_cons, exists_eq_or_imp]

theorem stray_hiddenAfter (plain : ¬AsksForNone values) :
    (hiddenAfter values old).stray = if ∃ value ∈ values, NamesAll value then 0 else old.stray := by
  rw [hiddenAfter_of_not_asksForNone plain]
  clear plain
  induction values generalizing old with
  | nil => simp
  | cons value values ih =>
    rw [List.foldl_cons, ih, Value.stray_hide]
    simp only [List.mem_cons, exists_eq_or_imp]
    by_cases later : ∃ value ∈ values, NamesAll value
    · simp [later]
    · simp [later]

/-- Lines leave the same if they name the same parts, and none of them or both all of them. -/
theorem hiddenAfter_congr {others : List String} (plain : ¬AsksForNone values)
    (plain' : ¬AsksForNone others)
    (parts : ∀ part, (∃ value ∈ others, NamesPart value part) ↔
      ∃ value ∈ values, NamesPart value part)
    (every : (∃ value ∈ others, NamesAll value) ↔ ∃ value ∈ values, NamesAll value) :
    hiddenAfter others old = hiddenAfter values old := by
  refine HideSet.eq_of_contains_eq (fun part => ?_) ?_
  · rw [Bool.eq_iff_iff, contains_hiddenAfter plain', contains_hiddenAfter plain, parts]
  · simp only [stray_hiddenAfter plain', stray_hiddenAfter plain, every]

/-- What a line hides. -/
structure HideLaw (values : List String) (old : HideSet) : Prop where
  /-- A line sets what is hidden and nothing else. -/
  line : ∀ (ctx : Context) (s : Settings) (keyword : String),
    sameIgnoringCase keyword "hideui" = true →
      (s.apply ctx (keyword :: values)).value =
        ⟨true, { s with hidden := hiddenAfter values s.hidden }⟩
  /-- A value `none` shows everything, wherever it stands. -/
  cleared : AsksForNone values → hiddenAfter values old = .empty
  /-- Otherwise the parts that are named are hidden besides those that were. -/
  union : ¬AsksForNone values → ∀ part, (hiddenAfter values old).contains part = true ↔
    old.contains part = true ∨ ∃ value ∈ values, NamesPart value part
  /-- Bits that stand for no part do not come in, and stay until all parts are named at once. -/
  stray : ¬AsksForNone values →
    (hiddenAfter values old).stray = if ∃ value ∈ values, NamesAll value then 0 else old.stray
  /-- So the order of the values does not matter, nor how often one is given. -/
  reordered : ∀ others : List String, (∀ value, value ∈ others ↔ value ∈ values) →
    hiddenAfter others old = hiddenAfter values old
  /-- A value that means nothing changes nothing. -/
  unknown : ∀ before value after, values = before ++ value :: after → NamesNothing value →
    hiddenAfter values old = hiddenAfter (before ++ after) old
  /-- A part that was hidden stays so, unless everything is shown. -/
  kept : ¬AsksForNone values → ∀ part, old.contains part = true →
    (hiddenAfter values old).contains part = true
  /-- A line can be cut in two. -/
  append : ∀ more, ¬AsksForNone values → ¬AsksForNone more →
    hiddenAfter (values ++ more) old = hiddenAfter more (hiddenAfter values old)

/-- A line adds what its values name to what was hidden, or shows everything. -/
theorem hidden_hideLaw (values : List String) (old : HideSet) : HideLaw values old where
  line ctx s keyword named := by
    have found := Directive.lookup_of_word (d := .many "hideui" .hideUi) (by decide) named
    exact Settings.value_apply_of_lookup found rfl ctx values s
  cleared := hiddenAfter_of_asksForNone
  union := contains_hiddenAfter
  stray := stray_hiddenAfter
  reordered others same := by
    have asks : AsksForNone others ↔ AsksForNone values := by simp only [AsksForNone, same]
    by_cases asked : AsksForNone values
    · rw [hiddenAfter_of_asksForNone asked, hiddenAfter_of_asksForNone (asks.mpr asked)]
    · refine hiddenAfter_congr asked (mt asks.mp asked) (fun part => ?_) ?_
      · simp only [same]
      · simp only [same]
  unknown before value after whole nothing := by
    obtain ⟨notNone, noPart⟩ := nothing
    have notAll : ¬NamesAll value := fun all => noPart .banner (.inl all)
    have asks : AsksForNone values ↔ AsksForNone (before ++ after) := by
      simp [AsksForNone, whole, or_and_right, exists_or, notNone]
    by_cases asked : AsksForNone values
    · rw [hiddenAfter_of_asksForNone asked, hiddenAfter_of_asksForNone (asks.mp asked)]
    · refine hiddenAfter_congr (mt asks.mpr asked) asked (fun part => ?_) ?_
      · simp [whole, or_and_right, exists_or, noPart]
      · simp [whole, or_and_right, exists_or, notAll]
  kept plain part was := (contains_hiddenAfter plain part).mpr (.inl was)
  append more plain plain' := by
    have both : ¬AsksForNone (values ++ more) := by
      rintro ⟨value, member, asks⟩
      rcases List.mem_append.mp member with first | second
      · exact plain ⟨value, first, asks⟩
      · exact plain' ⟨value, second, asks⟩
    rw [hiddenAfter_of_not_asksForNone both, hiddenAfter_of_not_asksForNone plain,
      hiddenAfter_of_not_asksForNone plain', List.foldl_append]

end BootManager.Config
