import Mathlib.Data.List.DropRight
import BootManager.Text.Blank

/-!
# Trimmed texts

Trimming takes a text apart into blanks, a middle part that neither starts nor ends with a blank,
and blanks. There is one such middle part only, so it does not matter at which end one begins.
-/

namespace BootManager.Text

/-! ## Dropping from a list -/

theorem dropWhile_append_of_stop {α : Type} {p : α → Bool} {first rest : List α}
    (all : ∀ a ∈ first, p a = true) (stop : ∀ a ∈ rest.head?, p a = false) :
    (first ++ rest).dropWhile p = rest := by
  rw [List.dropWhile_append_of_pos all]
  cases rest with
  | nil => rfl
  | cons a rest => rw [List.dropWhile_cons_of_neg (by simp [stop a rfl])]

theorem stop_dropWhile {α : Type} (p : α → Bool) (l : List α) :
    ∀ a ∈ (l.dropWhile p).head?, p a = false := by
  intro a first
  have stops := List.head?_dropWhile_not p l
  rw [Option.mem_def.mp first] at stops
  exact stops

theorem dropTrailing_eq_rdropWhile {α : Type} (p : α → Bool) (l : List α) :
    dropTrailing p l = l.rdropWhile p :=
  rfl

/-! ## Trimming -/

/-- A text has no blank at its ends. -/
structure IsTrimmed (cs : List Char) : Prop where
  start : ∀ c ∈ cs.head?, isBlank c = false
  stop : ∀ c ∈ cs.getLast?, isBlank c = false

variable {cs lead core tail : List Char}

theorem isTrimmed_iff : IsTrimmed cs ↔
    (¬∃ c ∈ cs.head?, isBlank c = true) ∧ ¬∃ c ∈ cs.getLast?, isBlank c = true := by
  simp only [not_exists, not_and, Bool.not_eq_true]
  exact ⟨fun trimmed => ⟨trimmed.start, trimmed.stop⟩, fun ⟨start, stop⟩ => ⟨start, stop⟩⟩

theorem IsTrimmed.reverse (trimmed : IsTrimmed cs) : IsTrimmed cs.reverse where
  start := by
    rw [List.head?_reverse]
    exact trimmed.stop
  stop := by
    rw [List.getLast?_reverse]
    exact trimmed.start

theorem isTrimmed_of_no_blank (solid : ∀ c ∈ cs, isBlank c = false) : IsTrimmed cs where
  start c first := solid c (List.mem_of_mem_head? first)
  stop c last := solid c (List.mem_of_mem_getLast? last)

/-- A blank within a trimmed text has something else before it. -/
theorem IsTrimmed.exists_before {before after : List Char} {c : Char} (blank : isBlank c = true)
    (trimmed : IsTrimmed (before ++ c :: after)) : ∃ d ∈ before, isBlank d = false := by
  cases before with
  | nil => exact absurd (trimmed.start c rfl) (by simp [blank])
  | cons d before => exact ⟨d, List.mem_cons_self, trimmed.start d rfl⟩

theorem IsTrimmed.exists_after {before after : List Char} {c : Char} (blank : isBlank c = true)
    (trimmed : IsTrimmed (before ++ c :: after)) : ∃ d ∈ after, isBlank d = false := by
  have mirrored := trimmed.reverse
  rw [List.reverse_append, List.reverse_cons, List.append_assoc, List.singleton_append] at mirrored
  obtain ⟨d, member, solid⟩ := mirrored.exists_before blank
  exact ⟨d, List.mem_reverse.mp member, solid⟩

/-- The middle part is what trimming leaves, however a text was taken apart. -/
theorem trim_append (leading : ∀ c ∈ lead, isBlank c = true) (trimmed : IsTrimmed core)
    (trailing : ∀ c ∈ tail, isBlank c = true) : trim (lead ++ (core ++ tail)) = core := by
  by_cases empty : core = []
  · subst empty
    rw [trim, List.dropWhile_append_of_pos leading, List.nil_append,
      List.dropWhile_eq_nil_iff.mpr trailing]
    rfl
  · have start : ∀ c ∈ (core ++ tail).head?, isBlank c = false := by
      rw [List.head?_append_of_ne_nil core empty]
      exact trimmed.start
    have trailing' : ∀ c ∈ tail.reverse, isBlank c = true := fun c member =>
      trailing c (List.mem_reverse.mp member)
    rw [trim, dropWhile_append_of_stop leading start, dropTrailing, List.reverse_append,
      dropWhile_append_of_stop trailing' trimmed.reverse.start, List.reverse_reverse]

theorem exists_trim (cs : List Char) :
    ∃ lead tail, cs = lead ++ (trim cs ++ tail) ∧ (∀ c ∈ lead, isBlank c = true) ∧
      ∀ c ∈ tail, isBlank c = true := by
  refine ⟨cs.takeWhile isBlank, (cs.dropWhile isBlank).rtakeWhile isBlank, ?_, ?_, ?_⟩
  · rw [trim, dropTrailing_eq_rdropWhile, List.rdropWhile_append_rtakeWhile,
      List.takeWhile_append_dropWhile]
  · exact List.all_eq_true.mp List.all_takeWhile
  · exact fun c => List.mem_rtakeWhile_imp

theorem trim_isPrefix (cs : List Char) : trim cs <+: cs.dropWhile isBlank :=
  List.rdropWhile_prefix _ _

theorem trim_sublist (cs : List Char) : (trim cs).Sublist cs :=
  (trim_isPrefix cs).sublist.trans (List.dropWhile_sublist isBlank)

theorem isTrimmed_trim (cs : List Char) : IsTrimmed (trim cs) where
  start c first := by
    obtain ⟨tail, whole⟩ := trim_isPrefix cs
    refine stop_dropWhile isBlank cs c ?_
    rw [← whole]
    exact List.mem_head?_append_of_mem_head? first
  stop c last := by
    rw [trim, dropTrailing, List.getLast?_reverse] at last
    exact stop_dropWhile isBlank _ c last

theorem trim_of_isTrimmed (trimmed : IsTrimmed cs) : trim cs = cs := by
  have apart := @trim_append [] cs [] (by simp) trimmed (by simp)
  rwa [List.nil_append, List.append_nil] at apart

theorem trim_eq_self_iff : trim cs = cs ↔ IsTrimmed cs := by
  refine ⟨fun same => ?_, trim_of_isTrimmed⟩
  rw [← same]
  exact isTrimmed_trim cs

@[simp] theorem trim_trim (cs : List Char) : trim (trim cs) = trim cs :=
  trim_of_isTrimmed (isTrimmed_trim cs)

/-- A text without blanks has none at its ends. -/
theorem trim_of_no_blank (solid : ∀ c ∈ cs, isBlank c = false) : trim cs = cs :=
  trim_of_isTrimmed (isTrimmed_of_no_blank solid)

theorem trim_reverse (cs : List Char) : trim cs.reverse = (trim cs).reverse := by
  obtain ⟨lead, tail, whole, leading, trailing⟩ := exists_trim cs
  have mirrored : cs.reverse = tail.reverse ++ ((trim cs).reverse ++ lead.reverse) := by
    rw [← List.reverse_append, ← List.reverse_append, List.append_assoc, ← whole]
  rw [mirrored]
  refine trim_append ?_ (isTrimmed_trim cs).reverse ?_
  · exact fun c member => trailing c (List.mem_reverse.mp member)
  · exact fun c member => leading c (List.mem_reverse.mp member)

/-- Trimming does not reach what has something else than blanks on both sides of it. -/
theorem trim_append_cons {before after : List Char} (c : Char)
    (opened : ∃ d ∈ before, isBlank d = false) (closed : ∃ d ∈ after, isBlank d = false) :
    trim (before ++ c :: after) =
      before.dropWhile isBlank ++ c :: dropTrailing isBlank after := by
  have kept : before.dropWhile isBlank ≠ [] := by
    rw [ne_eq, List.dropWhile_eq_nil_iff]
    simpa using opened
  have kept' : after.reverse.dropWhile isBlank ≠ [] := by
    rw [ne_eq, List.dropWhile_eq_nil_iff]
    simpa using closed
  rw [trim, List.dropWhile_append, if_neg (by simpa using kept), dropTrailing,
    List.reverse_append, List.reverse_cons, List.append_assoc, List.dropWhile_append,
    if_neg (by simpa using kept')]
  simp [dropTrailing]

end BootManager.Text
