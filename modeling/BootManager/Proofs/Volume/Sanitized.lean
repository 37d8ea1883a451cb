import BootManager.Proofs.Text.Trim
import BootManager.Volume.Name

/-!
# Sanitized names

A name is trimmed first, and its control characters are dropped afterwards. Trimming stops at a
control character that is no blank, so blanks behind one come to the end of the name when it is
dropped. The name is then not clean, and only sanitizing it again makes it so. The main result is
`sanitize_sanitizeLaw`.
-/

namespace BootManager.Volume

open Text

/-! ## The characters of a sanitized name -/

/-- The characters that are left of a name. -/
def sanitizedChars (cs : List Char) : List Char :=
  (trim cs).filter fun c => !isControl c

/-- Neither a blank nor a control character. -/
def shows (c : Char) : Bool :=
  !isBlank c && !isControl c

variable {cs : List Char} {c : Char}

theorem toList_sanitize (name : String) : (sanitize name).toList = sanitizedChars name.toList := by
  rw [sanitize, String.toList_ofList, sanitizedChars]

theorem isControl_of_mem_sanitizedChars (member : c ∈ sanitizedChars cs) : isControl c = false := by
  simpa using (List.mem_filter.mp member).2

theorem sanitizedChars_sublist (cs : List Char) : (sanitizedChars cs).Sublist cs :=
  List.filter_sublist.trans (trim_sublist cs)

theorem sanitizedChars_reverse (cs : List Char) :
    sanitizedChars cs.reverse = (sanitizedChars cs).reverse := by
  rw [sanitizedChars, trim_reverse, List.filter_reverse, sanitizedChars]

/-- What shows is neither at an end that is trimmed nor a control character. -/
theorem filter_shows_sanitizedChars (cs : List Char) :
    (sanitizedChars cs).filter shows = cs.filter shows := by
  have none {ds : List Char} (blank : ∀ c ∈ ds, isBlank c = true) : ds.filter shows = [] := by
    refine List.filter_eq_nil_iff.mpr fun c member => ?_
    simp [shows, blank c member]
  obtain ⟨lead, tail, whole, leading, trailing⟩ := exists_trim cs
  calc (sanitizedChars cs).filter shows
    _ = (trim cs).filter shows := by
      rw [sanitizedChars, List.filter_filter]
      refine List.filter_congr fun c _ => ?_
      simp [shows]
    _ = (lead ++ (trim cs ++ tail)).filter shows := by
      rw [List.filter_append, List.filter_append, none leading, none trailing, List.append_nil,
        List.nil_append]
    _ = cs.filter shows := by rw [← whole]

/-- Without control characters, sanitizing only trims. -/
theorem sanitizedChars_sanitizedChars (cs : List Char) :
    sanitizedChars (sanitizedChars cs) = trim (sanitizedChars cs) := by
  rw [sanitizedChars, List.filter_eq_self]
  intro c member
  simp [isControl_of_mem_sanitizedChars ((trim_sublist _).subset member)]

theorem sanitizedChars_third (cs : List Char) :
    sanitizedChars (sanitizedChars (sanitizedChars cs)) = sanitizedChars (sanitizedChars cs) := by
  rw [sanitizedChars_sanitizedChars (sanitizedChars cs), sanitizedChars_sanitizedChars cs,
    trim_trim]

/-! ## Covered blanks -/

/-- A blank has no character that shows on its outer side, but is not trimmed, since there is
something else than blanks on either side. Some blanks are control characters themselves. -/
structure IsCovered (outer : List Char) (c : Char) (inner : List Char) : Prop where
  blank : isBlank c = true
  notControl : isControl c = false
  hidden : ∀ d ∈ outer, isBlank d = true ∨ isControl d = true
  cover : ∃ d ∈ outer, isBlank d = false
  base : ∃ d ∈ inner, isBlank d = false

/-- Before all that shows, a text has a covered blank. -/
def StartsCovered (cs : List Char) : Prop :=
  ∃ outer c inner, cs = outer ++ c :: inner ∧ IsCovered outer c inner

/-- A blank at the start of what is left was covered. -/
theorem startsCovered_of_blank (first : c ∈ (sanitizedChars cs).head?) (blank : isBlank c = true) :
    StartsCovered cs := by
  obtain ⟨lead, tail, whole, leading, trailing⟩ := exists_trim cs
  rw [sanitizedChars, List.head?_filter, Option.mem_def, List.find?_eq_some_iff_append] at first
  obtain ⟨stays, controls, rest, split, dropped⟩ := first
  have trimmed := isTrimmed_trim cs
  rw [split] at trimmed
  obtain ⟨d, inControls, solid⟩ := trimmed.exists_before blank
  obtain ⟨e, inRest, solid'⟩ := trimmed.exists_after blank
  refine ⟨lead ++ controls, c, rest ++ tail, ?_, ?_⟩
  · rw [split] at whole
    rw [whole]
    simp only [List.append_assoc, List.cons_append]
  · constructor
    case blank => exact blank
    case notControl => simpa using stays
    case hidden =>
      intro d member
      rcases List.mem_append.mp member with inLead | inControls
      · exact .inl (leading d inLead)
      · exact .inr (by simpa using dropped d inControls)
    case cover => exact ⟨d, List.mem_append_right lead inControls, solid⟩
    case base => exact ⟨e, List.mem_append_left tail inRest, solid'⟩

/-- A covered blank, or one before it, is the first of what is left. -/
theorem blank_of_startsCovered (covered : StartsCovered cs) :
    ∃ c ∈ (sanitizedChars cs).head?, isBlank c = true := by
  obtain ⟨outer, c, inner, rfl, blank, notControl, hidden, cover, base⟩ := covered
  rw [sanitizedChars, trim_append_cons c cover base, List.filter_append,
    List.filter_cons_of_pos (by simp [notControl])]
  cases left : (outer.dropWhile isBlank).filter fun c => !isControl c with
  | nil => exact ⟨c, rfl, blank⟩
  | cons d more =>
    refine ⟨d, rfl, ?_⟩
    have member : d ∈ (outer.dropWhile isBlank).filter fun c => !isControl c := by simp [left]
    obtain ⟨inOuter, stays⟩ := List.mem_filter.mp member
    rcases hidden d ((List.dropWhile_sublist isBlank).subset inOuter) with blank | control
    · exact blank
    · simp [control] at stays

theorem blank_head?_iff :
    (∃ c ∈ (sanitizedChars cs).head?, isBlank c = true) ↔ StartsCovered cs :=
  ⟨fun ⟨_, first, blank⟩ => startsCovered_of_blank first blank, blank_of_startsCovered⟩

theorem blank_getLast?_iff :
    (∃ c ∈ (sanitizedChars cs).getLast?, isBlank c = true) ↔ StartsCovered cs.reverse := by
  rw [← blank_head?_iff, sanitizedChars_reverse, List.head?_reverse]

theorem isTrimmed_sanitizedChars_iff :
    IsTrimmed (sanitizedChars cs) ↔ ¬StartsCovered cs ∧ ¬StartsCovered cs.reverse := by
  rw [isTrimmed_iff, blank_head?_iff, blank_getLast?_iff]

/-! ## The law -/

/-- What sanitizing makes of a name. -/
structure SanitizeLaw (name : String) : Prop where
  noControl : ∀ c ∈ (sanitize name).toList, isControl c = false
  sublist : (sanitize name).toList.Sublist name.toList
  /-- Whatever shows is kept, in order. -/
  kept : (sanitize name).toList.filter shows = name.toList.filter shows
  /-- A blank at the start is one that control characters covered. -/
  start_iff : (∃ c ∈ (sanitize name).toList.head?, isBlank c = true) ↔ StartsCovered name.toList
  /-- So is one at the end, read from there. -/
  stop_iff : (∃ c ∈ (sanitize name).toList.getLast?, isBlank c = true) ↔
    StartsCovered name.toList.reverse
  /-- Without covered blanks, sanitizing again changes nothing. -/
  again_iff : sanitize (sanitize name) = sanitize name ↔
    ¬StartsCovered name.toList ∧ ¬StartsCovered name.toList.reverse
  /-- In any case, once more is enough. -/
  third : sanitize (sanitize (sanitize name)) = sanitize (sanitize name)

/-- Sanitizing leaves what shows and no control character, but also the blanks that control
characters covered. -/
theorem sanitize_sanitizeLaw (name : String) : SanitizeLaw name where
  noControl c member := by
    rw [toList_sanitize] at member
    exact isControl_of_mem_sanitizedChars member
  sublist := by
    rw [toList_sanitize]
    exact sanitizedChars_sublist name.toList
  kept := by
    rw [toList_sanitize, filter_shows_sanitizedChars]
  start_iff := by
    rw [toList_sanitize, blank_head?_iff]
  stop_iff := by
    rw [toList_sanitize, blank_getLast?_iff]
  again_iff := by
    rw [← String.toList_inj, toList_sanitize, toList_sanitize, sanitizedChars_sanitizedChars,
      trim_eq_self_iff, isTrimmed_sanitizedChars_iff]
  third := by
    rw [← String.toList_inj]
    simp only [toList_sanitize, sanitizedChars_third]

/-- A name with a blank behind a null character. -/
def nullBeforeBlank : String := "\x00 a"

/-- The blank comes to its start, and stays there until it is sanitized again. -/
theorem nullBeforeBlank_not_clean :
    (∃ c ∈ (sanitize nullBeforeBlank).toList.head?, isBlank c = true) ∧
      sanitize (sanitize nullBeforeBlank) ≠ sanitize nullBeforeBlank :=
  ⟨⟨' ', by decide, by decide⟩, by decide⟩

end BootManager.Volume
