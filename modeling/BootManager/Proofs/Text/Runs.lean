import BootManager.Text.Blank

/-!
# Runs between cuts

What cutting a list does to parts of it. A list can be cut apart at any cut, and everything else
about its runs follows: a part that starts with a cut has runs of its own.
-/

namespace BootManager.Text

variable {α : Type} {p : α → Bool}

theorem pieces_ne_nil (p : α → Bool) (cs : List α) : pieces p cs ≠ [] := by
  cases cs with
  | nil => exact List.cons_ne_nil _ _
  | cons c rest =>
    rw [pieces]
    split
    · exact List.cons_ne_nil _ _
    · split
      · exact List.cons_ne_nil _ _
      · exact List.cons_ne_nil _ _

/-- What is no cut belongs to the first piece. -/
theorem pieces_cons_of_not_cut {c : α} {cs first : List α} {more : List (List α)}
    (inside : p c = false) (cut : pieces p cs = first :: more) :
    pieces p (c :: cs) = (c :: first) :: more := by
  rw [pieces, inside, cut]
  rfl

theorem pieces_append_cut {c : α} (cut : p c = true) (first rest : List α) :
    pieces p (first ++ c :: rest) = pieces p first ++ pieces p rest := by
  induction first with
  | nil => simp [pieces, cut]
  | cons d first ih =>
    obtain ⟨piece, more, cutFirst⟩ := List.exists_cons_of_ne_nil (pieces_ne_nil p first)
    rw [List.cons_append, pieces, pieces, ih, cutFirst]
    split
    · rfl
    · rfl

theorem pieces_of_no_cut {cs : List α} (inside : ∀ c ∈ cs, p c = false) : pieces p cs = [cs] := by
  induction cs with
  | nil => rfl
  | cons c cs ih =>
    rw [pieces, ih fun d member => inside d (List.mem_cons_of_mem c member),
      inside c List.mem_cons_self]
    rfl

@[simp] theorem runs_nil : runs p [] = [] := rfl

theorem runs_append_cut {c : α} (cut : p c = true) (first rest : List α) :
    runs p (first ++ c :: rest) = runs p first ++ runs p rest := by
  rw [runs, pieces_append_cut cut, List.filter_append]
  rfl

theorem runs_cons_cut {c : α} (cut : p c = true) (rest : List α) :
    runs p (c :: rest) = runs p rest :=
  runs_append_cut cut [] rest

theorem runs_append_of_cuts {first : List α} (cuts : ∀ c ∈ first, p c = true) (rest : List α) :
    runs p (first ++ rest) = runs p rest := by
  induction first with
  | nil => rfl
  | cons c first ih =>
    rw [List.cons_append, runs_cons_cut (cuts c List.mem_cons_self)]
    exact ih fun d member => cuts d (List.mem_cons_of_mem c member)

theorem runs_of_no_cut {cs : List α} (nonempty : cs ≠ []) (inside : ∀ c ∈ cs, p c = false) :
    runs p cs = [cs] := by
  rw [runs, pieces_of_no_cut inside]
  simpa using nonempty

/-- A part that starts with a cut shares no run with what is before it. -/
theorem runs_append (first : List α) {rest : List α} (stop : ∀ c ∈ rest.head?, p c = true) :
    runs p (first ++ rest) = runs p first ++ runs p rest := by
  cases rest with
  | nil => simp
  | cons c rest =>
    have cut : p c = true := stop c rfl
    rw [runs_append_cut cut, runs_cons_cut cut]

/-! ## Joining runs -/

theorem of_mem_pieces {cs piece : List α} (member : piece ∈ pieces p cs) :
    ∀ c ∈ piece, p c = false := by
  induction cs generalizing piece with
  | nil => simp_all [pieces]
  | cons c cs ih =>
    obtain ⟨first, more, cut⟩ := List.exists_cons_of_ne_nil (pieces_ne_nil p cs)
    cases stop : p c with
    | true =>
      have here : pieces p (c :: cs) = [] :: pieces p cs := if_pos stop
      rw [here] at member
      rcases List.mem_cons.mp member with rfl | later
      · simp
      · exact ih later
    | false =>
      rw [pieces_cons_of_not_cut stop cut] at member
      rw [cut] at ih
      rcases List.mem_cons.mp member with rfl | later
      · rw [List.forall_mem_cons]
        exact ⟨stop, ih List.mem_cons_self⟩
      · exact ih (List.mem_cons_of_mem first later)

theorem of_mem_runs {cs run : List α} (member : run ∈ runs p cs) :
    run ≠ [] ∧ ∀ c ∈ run, p c = false := by
  obtain ⟨piece, nonempty⟩ := List.mem_filter.mp member
  exact ⟨by simpa using nonempty, of_mem_pieces piece⟩

/-- Runs that are joined by single cuts are found again. -/
theorem runs_intercalate {sep : α} (cut : p sep = true) {parts : List (List α)}
    (solid : ∀ part ∈ parts, part ≠ [] ∧ ∀ c ∈ part, p c = false) :
    runs p ([sep].intercalate parts) = parts := by
  induction parts with
  | nil => rfl
  | cons part parts ih =>
    rw [List.forall_mem_cons] at solid
    obtain ⟨⟨nonempty, inside⟩, others⟩ := solid
    have own : runs p part = [part] := runs_of_no_cut nonempty inside
    cases parts with
    | nil => rw [List.intercalate_singleton, own]
    | cons next parts =>
      rw [List.intercalate_cons_cons, List.append_assoc, List.singleton_append,
        runs_append_cut cut, own, ih others, List.singleton_append]

end BootManager.Text
