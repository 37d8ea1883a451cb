/-!
# ASCII letters

Keywords, names and paths are compared without regard to the case of ASCII letters; every other
character stands for itself only.
-/

namespace BootManager.Text

/-- The text with every ASCII capital letter made small. -/
def lower (s : String) : String :=
  String.ofList (s.toList.map Char.toLower)

/-- The text with every ASCII small letter made a capital. -/
def upper (s : String) : String :=
  String.ofList (s.toList.map Char.toUpper)

/-- Whether two texts differ at most in the case of ASCII letters. -/
def sameIgnoringCase (a b : String) : Bool :=
  lower a == lower b

/-- Whether `pattern` occurs in a list as a run of neighbours. -/
def containsRun {α : Type} [BEq α] (pattern : List α) : List α → Bool
  | [] => pattern.isEmpty
  | x :: rest => pattern.isPrefixOf (x :: rest) || containsRun pattern rest

/-- Whether `part` occurs somewhere in `whole`, ignoring the case of ASCII letters. -/
def containsIgnoringCase (whole part : String) : Bool :=
  containsRun (lower part).toList (lower whole).toList

theorem containsRun_iff {α : Type} [BEq α] [LawfulBEq α] {pattern whole : List α} :
    containsRun pattern whole = true ↔ pattern <:+: whole := by
  induction whole with
  | nil => simp [containsRun]
  | cons x rest ih =>
    rw [containsRun, Bool.or_eq_true, List.isPrefixOf_iff_prefix, ih, List.infix_cons_iff]

@[simp] theorem toList_lower (s : String) : (lower s).toList = s.toList.map Char.toLower := by
  simp [lower]

theorem sameIgnoringCase_iff {a b : String} : sameIgnoringCase a b = true ↔ lower a = lower b := by
  simp [sameIgnoringCase]

@[simp] theorem sameIgnoringCase_refl (a : String) : sameIgnoringCase a a = true := by
  simp [sameIgnoringCase]

end BootManager.Text
