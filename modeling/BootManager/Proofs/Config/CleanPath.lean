import Mathlib.Data.List.Chain
import BootManager.Config.Path
import BootManager.Proofs.Text.Runs

/-!
# Clean paths

Cleaning a path keeps the parts between its separators, in order, and joins them by single
backslashes. So a path is clean after it was cleaned once. The main result is `Path.clean_cleanLaw`.
-/

namespace BootManager.Config.Path

open Text (pieces runs pieces_ne_nil pieces_cons_of_not_cut runs_cons_cut of_mem_runs
  runs_intercalate)

/-! ## Parts -/

theorem isSeparator_iff {c : Char} : isSeparator c = true ↔ c = '/' ∨ c = '\\' := by
  simp [isSeparator]

/-- Parts with a backslash before each. -/
def following (parts : List (List Char)) : List Char :=
  parts.flatMap fun part => '\\' :: part

theorem intercalate_cons_eq (part : List Char) (parts : List (List Char)) :
    ['\\'].intercalate (part :: parts) = part ++ following parts := by
  induction parts generalizing part with
  | nil => simp [following]
  | cons next parts ih =>
    rw [List.intercalate_cons_cons, ih, List.append_assoc, List.singleton_append, following,
      following, List.flatMap_cons, List.cons_append]

/-- The runs that come after a first piece. -/
def laterRuns (more : List (List Char)) : List (List Char) :=
  more.filter fun piece => !piece.isEmpty

theorem runs_cons_of_not_isSeparator {c : Char} {cs first : List Char}
    {more : List (List Char)} (part : isSeparator c = false)
    (cut : pieces isSeparator cs = first :: more) :
    runs isSeparator (c :: cs) = (c :: first) :: laterRuns more := by
  rw [runs, pieces_cons_of_not_cut part cut]
  rfl

/-! ## Squeezing -/

/-- Within a part, the rest of it is written on, and then every other part after a backslash. Once
a separator is due, all parts are written so. -/
theorem squeeze_started {cs first : List Char} {more : List (List Char)}
    (cut : pieces isSeparator cs = first :: more) :
    squeeze true false cs = first ++ following (laterRuns more) ∧
      squeeze true true cs = following (runs isSeparator cs) := by
  -- Both states at once, since a separator leads from the first to the second and a part back.
  induction cs generalizing first more with
  | nil =>
    obtain ⟨rfl, rfl⟩ := List.cons.inj cut
    exact ⟨rfl, rfl⟩
  | cons c cs ih =>
    obtain ⟨next, others, later⟩ := List.exists_cons_of_ne_nil (pieces_ne_nil isSeparator cs)
    obtain ⟨within, due⟩ := ih later
    cases sep : isSeparator c with
    | true =>
      have cutHere : pieces isSeparator (c :: cs) = [] :: pieces isSeparator cs := if_pos sep
      rw [cutHere] at cut
      obtain ⟨rfl, rfl⟩ := List.cons.inj cut
      rw [squeeze, squeeze, sep, runs_cons_cut sep]
      exact ⟨due, due⟩
    | false =>
      rw [pieces_cons_of_not_cut sep later] at cut
      obtain ⟨rfl, rfl⟩ := List.cons.inj cut
      rw [squeeze, squeeze, sep, runs_cons_of_not_isSeparator sep later, within]
      exact ⟨rfl, rfl⟩

/-- Before the first part nothing is written, so the parts are joined by backslashes. -/
theorem squeeze_eq_intercalate (cs : List Char) :
    squeeze false false cs = ['\\'].intercalate (runs isSeparator cs) := by
  induction cs with
  | nil => rfl
  | cons c cs ih =>
    cases sep : isSeparator c with
    | true =>
      rw [squeeze, sep, runs_cons_cut sep]
      exact ih
    | false =>
      obtain ⟨first, more, cut⟩ := List.exists_cons_of_ne_nil (pieces_ne_nil isSeparator cs)
      obtain ⟨within, -⟩ := squeeze_started cut
      rw [squeeze, sep, runs_cons_of_not_isSeparator sep cut, intercalate_cons_eq, within]
      rfl

theorem squeeze_eq_nil_iff {cs : List Char} :
    squeeze false false cs = [] ↔ ∀ c ∈ cs, isSeparator c = true := by
  induction cs with
  | nil => simp [squeeze]
  | cons c cs ih =>
    rw [List.forall_mem_cons, squeeze]
    cases sep : isSeparator c with
    | true => simpa using ih
    | false => simp

/-! ## Clean paths -/

/-- A path has single backslashes between its parts and nowhere else, or is the root. -/
structure IsClean (cs : List Char) : Prop where
  noSlash : '/' ∉ cs
  single : ¬['\\', '\\'] <:+: cs
  start : cs ≠ ['\\'] → ∀ c ∈ cs.head?, c ≠ '\\'
  stop : cs ≠ ['\\'] → ∀ c ∈ cs.getLast?, c ≠ '\\'

variable {started pending : Bool} {cs : List Char}

theorem ne_backslash {c : Char} (part : ¬isSeparator c = true) : c ≠ '\\' :=
  fun same => part (isSeparator_iff.mpr (.inr same))

theorem notMem_squeeze : '/' ∉ squeeze started pending cs := by
  have other {c : Char} (part : ¬isSeparator c = true) : '/' ≠ c :=
    fun same => part (isSeparator_iff.mpr (.inl same.symm))
  fun_induction squeeze started pending cs with
  | case1 => simp
  | case2 started pending c rest sep ih => exact ih
  | case3 started c rest part ih => simp [ih, other part]
  | case4 started pending c rest part _ ih => simp [ih, other part]

/-- No two neighbours are backslashes. -/
theorem isChain_squeeze :
    (squeeze started pending cs).IsChain fun c d => c = '\\' → d ≠ '\\' := by
  fun_induction squeeze started pending cs with
  | case1 => exact .nil
  | case2 started pending c rest sep ih => exact ih
  | case3 started c rest part ih =>
    rw [List.isChain_cons_cons]
    refine ⟨fun _ => ne_backslash part, ih.cons fun d _ same => ?_⟩
    exact absurd same (ne_backslash part)
  | case4 started pending c rest part _ ih =>
    refine ih.cons fun d _ same => ?_
    exact absurd same (ne_backslash part)

theorem head?_squeeze : ∀ c ∈ (squeeze false false cs).head?, c ≠ '\\' := by
  induction cs with
  | nil => simp [squeeze]
  | cons c cs ih =>
    rw [squeeze]
    split
    next => exact ih
    next part => simpa using ne_backslash part

theorem getLast?_squeeze : ∀ c ∈ (squeeze started pending cs).getLast?, c ≠ '\\' := by
  fun_induction squeeze started pending cs with
  | case1 => simp
  | case2 started pending c rest sep ih => exact ih
  | case3 started c rest part ih =>
    rw [List.getLast?_cons_cons, List.getLast?_cons]
    cases last : (squeeze true false rest).getLast? with
    | none => simpa using ne_backslash part
    | some d => simpa using ih d last
  | case4 started pending c rest part _ ih =>
    rw [List.getLast?_cons]
    cases last : (squeeze true false rest).getLast? with
    | none => simpa using ne_backslash part
    | some d => simpa using ih d last

theorem isClean_squeeze (cs : List Char) : IsClean (squeeze false false cs) where
  noSlash := notMem_squeeze
  single double := by
    have both := isChain_squeeze.infix double
    rw [List.isChain_pair] at both
    exact both rfl rfl
  start _ := head?_squeeze
  stop _ := getLast?_squeeze

theorem isClean_root : IsClean ['\\'] where
  noSlash := by decide
  single double := absurd double.length_le (by decide)
  start other := absurd rfl other
  stop other := absurd rfl other

/-! ## Cleaning -/

theorem cleanChars_of_separators (nonempty : cs ≠ []) (seps : ∀ c ∈ cs, isSeparator c = true) :
    cleanChars cs = ['\\'] := by
  rw [cleanChars, if_neg (by simpa using nonempty), squeeze_eq_nil_iff.mpr seps]

theorem cleanChars_of_part (part : ∃ c ∈ cs, isSeparator c = false) :
    cleanChars cs = squeeze false false cs := by
  have nonempty : cs ≠ [] := by
    rintro rfl
    simp at part
  have written : squeeze false false cs ≠ [] := by
    rw [ne_eq, squeeze_eq_nil_iff]
    simpa using part
  rw [cleanChars, if_neg (by simpa using nonempty)]
  split
  next unwritten => exact absurd unwritten written
  next => rfl

/-- Either nothing is written, or the root, or the parts of the path. -/
theorem cleanChars_cases (cs : List Char) :
    cleanChars cs = [] ∨ cleanChars cs = ['\\'] ∨ cleanChars cs = squeeze false false cs := by
  by_cases seps : ∀ c ∈ cs, isSeparator c = true
  · by_cases nonempty : cs = []
    · subst nonempty
      exact .inl rfl
    · exact .inr (.inl (cleanChars_of_separators nonempty seps))
  · exact .inr (.inr (cleanChars_of_part (by simpa using seps)))

theorem isClean_cleanChars (cs : List Char) : IsClean (cleanChars cs) := by
  rcases cleanChars_cases cs with nothing | root | parts
  · rw [nothing]
    exact isClean_squeeze []
  · rw [root]
    exact isClean_root
  · rw [parts]
    exact isClean_squeeze cs

/-- The parts of a cleaned path are those of the path. -/
theorem squeeze_squeeze (cs : List Char) :
    squeeze false false (squeeze false false cs) = squeeze false false cs := by
  have backslash : isSeparator '\\' = true := by decide
  rw [squeeze_eq_intercalate, squeeze_eq_intercalate cs,
    runs_intercalate backslash fun _ => of_mem_runs]

theorem cleanChars_cleanChars (cs : List Char) : cleanChars (cleanChars cs) = cleanChars cs := by
  have kept {cs : List Char} (fixed : squeeze false false cs = cs) : cleanChars cs = cs := by
    rw [cleanChars, fixed]
    cases cs <;> rfl
  rcases cleanChars_cases cs with nothing | root | parts
  · rw [nothing]
    rfl
  · rw [root]
    rfl
  · rw [parts]
    exact kept (squeeze_squeeze cs)

/-- What cleaning makes of a path. -/
structure CleanLaw (path : String) : Prop where
  empty : path = "" → clean path = ""
  /-- Separators alone are the root. -/
  root : path ≠ "" → (∀ c ∈ path.toList, c = '/' ∨ c = '\\') → clean path = "\\"
  /-- Otherwise the runs of other characters are kept, in order, with a backslash between them. -/
  parts : (∃ c ∈ path.toList, ¬(c = '/' ∨ c = '\\')) →
    clean path = String.ofList (['\\'].intercalate (runs isSeparator path.toList))
  /-- So no separator is left that is not needed. -/
  isClean : IsClean (clean path).toList
  clean_clean : clean (clean path) = clean path

/-- Cleaning normalizes paths, and a second time changes nothing. -/
theorem clean_cleanLaw (path : String) : CleanLaw path where
  empty none := by
    rw [none]
    rfl
  root nonempty seps := by
    have chars : path.toList ≠ [] := by simpa using nonempty
    rw [clean, cleanChars_of_separators chars fun c member => isSeparator_iff.mpr (seps c member)]
  parts part := by
    have some : ∃ c ∈ path.toList, isSeparator c = false := by
      obtain ⟨c, member, other⟩ := part
      exact ⟨c, member, Bool.eq_false_iff.mpr (mt isSeparator_iff.mp other)⟩
    rw [clean, cleanChars_of_part some, squeeze_eq_intercalate]
  isClean := by
    rw [clean, String.toList_ofList]
    exact isClean_cleanChars path.toList
  clean_clean := by
    rw [clean, clean, String.toList_ofList, cleanChars_cleanChars]

end BootManager.Config.Path
