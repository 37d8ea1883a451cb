import BootManager.Config.Value
import BootManager.Proofs.Text.Hexadecimal

/-!
# Lists of hexadecimal numbers

A line that lists hexadecimal numbers is documented to keep those up to a limit, in order. Whether a
word is kept, and as what, is told by its first eight digits alone. So the numbers kept are the
documented ones unless a longer word begins with digits that pass for a number up to the limit. The
main result is `Value.hexes_hexListLaw`.
-/

namespace BootManager.Config

open Text

/-! ## Picking numbers from words -/

/-- Numbers that words stand for, in the order of the words. Words that stand for none are left
out. -/
inductive Picked (stands : String → Nat → Prop) : List String → List Nat → Prop where
  | nil : Picked stands [] []
  | keep {word : String} {n : Nat} {words : List String} {numbers : List Nat}
      (some : stands word n) (rest : Picked stands words numbers) :
      Picked stands (word :: words) (n :: numbers)
  | drop {word : String} {words : List String} {numbers : List Nat}
      (none : ∀ n, ¬stands word n) (rest : Picked stands words numbers) :
      Picked stands (word :: words) numbers

theorem picked_iff {stands : String → Nat → Prop} {f : String → Option Nat}
    (tells : ∀ word n, f word = some n ↔ stands word n) {words : List String}
    {numbers : List Nat} : Picked stands words numbers ↔ words.filterMap f = numbers := by
  constructor
  · intro picked
    induction picked with
    | nil => rfl
    | keep stands _ ih => rw [List.filterMap_cons_some ((tells _ _).mpr stands), ih]
    | drop stands _ ih =>
      have none := Option.eq_none_iff_forall_ne_some.mpr fun n told =>
        stands n ((tells _ n).mp told)
      rw [List.filterMap_cons_none none, ih]
  · rintro rfl
    induction words with
    | nil => exact .nil
    | cons word words ih =>
      cases told : f word with
      | none =>
        rw [List.filterMap_cons_none told]
        refine .drop (fun n stands => ?_) ih
        rw [(tells word n).mpr stands] at told
        cases told
      | some n =>
        rw [List.filterMap_cons_some told]
        exact .keep ((tells word n).mp told) ih

theorem length_filterMap_le_of_none {α β : Type} {f g : α → Option β}
    (fewer : ∀ a, f a = none → g a = none) (l : List α) :
    (l.filterMap g).length ≤ (l.filterMap f).length := by
  induction l with
  | nil => exact Nat.le_refl 0
  | cons a l ih =>
    cases first : f a with
    | none => rwa [List.filterMap_cons_none first, List.filterMap_cons_none (fewer a first)]
    | some b =>
      rw [List.filterMap_cons_some first, List.length_cons]
      cases second : g a with
      | none => rw [List.filterMap_cons_none second]; omega
      | some c => rw [List.filterMap_cons_some second, List.length_cons]; omega

/-- If `g` picks nothing where `f` does not, both pick the same list only by picking the same from
every element. -/
theorem filterMap_eq_iff {α β : Type} {f g : α → Option β}
    (fewer : ∀ a, f a = none → g a = none) {l : List α} :
    l.filterMap f = l.filterMap g ↔ ∀ a ∈ l, f a = g a := by
  refine ⟨fun same => ?_, List.filterMap_congr⟩
  induction l with
  | nil => simp
  | cons a l ih =>
    rw [List.forall_mem_cons]
    cases first : f a with
    | none =>
      have second := fewer a first
      rw [List.filterMap_cons_none first, List.filterMap_cons_none second] at same
      exact ⟨second.symm, ih same⟩
    | some b =>
      rw [List.filterMap_cons_some first] at same
      cases second : g a with
      | none =>
        rw [List.filterMap_cons_none second] at same
        have shorter := length_filterMap_le_of_none fewer l
        have longer := congrArg List.length same
        rw [List.length_cons] at longer
        omega
      | some c =>
        rw [List.filterMap_cons_some second, List.cons.injEq] at same
        exact ⟨congrArg some same.1, ih same.2⟩

/-! ## Hexadecimal words -/

/-- A word is a hexadecimal one whose digits `show` a number up to a limit. -/
def ShowsUpTo (limit : Nat) (shown : List Nat → Nat) (word : String) (n : Nat) : Prop :=
  n ≤ limit ∧ ∃ digits, HexWord word digits ∧ shown digits = n

/-- The number of the digits that are read. -/
def readNumber (digits : List Nat) : Nat :=
  hexNumber (digits.take hexDigitsRead)

/-- A word is taken for a number up to a limit that is not its own: it has more digits than are
read, the others pass for such a number, and not all of its digits are zero. -/
def IsMisread (limit : Nat) (word : String) : Prop :=
  ∃ digits, HexWord word digits ∧ hexDigitsRead < digits.length ∧ readNumber digits ≤ limit ∧
    hexNumber digits ≠ 0

/-- The number up to a limit that the digits of a hexadecimal word show. -/
def shownUpTo? (limit : Nat) (shown : List Nat → Nat) (word : String) : Option Nat :=
  ((hexDigits? word).map shown).filter fun n => n ≤ limit

variable {limit : Nat} {word : String}

theorem shownUpTo?_eq_some_iff {shown : List Nat → Nat} (word : String) (n : Nat) :
    shownUpTo? limit shown word = some n ↔ ShowsUpTo limit shown word n := by
  rw [shownUpTo?, Option.filter_eq_some_iff, Option.map_eq_some_iff, decide_eq_true_iff, and_comm]
  simp only [ShowsUpTo, hexDigits?_eq_some_iff]

theorem shownUpTo?_of_none (shown : List Nat → Nat) (none : hexDigits? word = none) :
    shownUpTo? limit shown word = .none := by
  rw [shownUpTo?, none]
  rfl

theorem shownUpTo?_of_some (shown : List Nat → Nat) {digits : List Nat}
    (writes : hexDigits? word = some digits) :
    shownUpTo? limit shown word = if shown digits ≤ limit then some (shown digits) else none := by
  rw [shownUpTo?, writes, Option.map_some, Option.filter_some]
  simp only [decide_eq_true_iff]

/-- A word whose first digits are over the limit is over it itself. -/
theorem shownUpTo?_eq_none (beyond : shownUpTo? limit readNumber word = none) :
    shownUpTo? limit hexNumber word = none := by
  cases writes : hexDigits? word with
  | none => exact shownUpTo?_of_none hexNumber writes
  | some digits =>
    have le : readNumber digits ≤ hexNumber digits := hexNumber_take_le hexDigitsRead digits
    rw [shownUpTo?_of_some readNumber writes, ite_eq_right_iff] at beyond
    rw [shownUpTo?_of_some hexNumber writes, if_neg fun legal => ?_]
    exact Option.some_ne_none _ (beyond (le.trans legal))

theorem isMisread_iff {digits : List Nat} (writes : hexDigits? word = some digits) :
    IsMisread limit word ↔ hexDigitsRead < digits.length ∧ readNumber digits ≤ limit ∧
      hexNumber digits ≠ 0 := by
  constructor
  · rintro ⟨digits', writes', misread⟩
    rw [← hexDigits?_eq_some_iff, writes, Option.some_inj] at writes'
    rwa [writes']
  · intro misread
    exact ⟨digits, hexDigits?_eq_some_iff.mp writes, misread⟩

/-- A word stands for its own number unless it is misread. -/
theorem shownUpTo?_eq_iff :
    shownUpTo? limit readNumber word = shownUpTo? limit hexNumber word ↔
      ¬IsMisread limit word := by
  cases writes : hexDigits? word with
  | none =>
    have never : ¬IsMisread limit word := by
      rintro ⟨digits, writes', -⟩
      rw [hexDigits?_eq_some_iff.mpr writes'] at writes
      cases writes
    rw [shownUpTo?_of_none readNumber writes, shownUpTo?_of_none hexNumber writes]
    exact iff_of_true rfl never
  | some digits =>
    rw [shownUpTo?_of_some readNumber writes, shownUpTo?_of_some hexNumber writes,
      isMisread_iff writes]
    have le : readNumber digits ≤ hexNumber digits := hexNumber_take_le hexDigitsRead digits
    by_cases more : hexDigitsRead < digits.length
    · have same : readNumber digits = hexNumber digits ↔ hexNumber digits = 0 :=
        hexNumber_take_eq_iff more
      grind
    · have whole : readNumber digits = hexNumber digits := by
        rw [readNumber, List.take_of_length_le (Nat.le_of_not_lt more)]
      rw [whole]
      exact iff_of_true rfl fun misread => more misread.1

namespace Value

/-- The numbers that a line keeps of its values. -/
def accepted (limit : UInt32) (line : Line) : List UInt32 :=
  ((items line).filterMap readHex?).filter fun n => n ≤ limit

theorem map_toNat_accepted (limit : UInt32) (line : Line) :
    (accepted limit line).map UInt32.toNat =
      (items line).filterMap (shownUpTo? limit.toNat readNumber) := by
  rw [accepted, List.filter_filterMap, List.map_filterMap]
  refine List.filterMap_congr fun word _ => ?_
  have shown : (hexDigits? word).map readNumber = (readHex? word).map UInt32.toNat :=
    (map_toNat_readHex? word).symm
  rw [shownUpTo?, shown]
  cases readHex? word with
  | none => rfl
  | some n => simp [Option.filter_some, UInt32.le_iff_toNat_le]

/-- What a line with hexadecimal numbers adds to a list, or puts in its place. -/
structure HexListLaw (limit : UInt32) (line : Line) (old added : List UInt32) : Prop where
  hexes_eq : hexes limit line old = (if appends line then old else []) ++ added
  /-- They are, in order, the numbers up to the limit that the first digits of its values show. -/
  picked : Picked (ShowsUpTo limit.toNat readNumber) (items line) (added.map UInt32.toNat)
  /-- They are, in order, the numbers up to the limit among its values exactly if no value is
  misread. -/
  picked_iff : Picked (ShowsUpTo limit.toNat hexNumber) (items line) (added.map UInt32.toNat) ↔
    ∀ word ∈ items line, ¬IsMisread limit.toNat word

theorem hexes_hexListLaw (limit : UInt32) (line : Line) (old : List UInt32) :
    ∃ added, HexListLaw limit line old added := by
  refine ⟨accepted limit line, rfl, ?_, ?_⟩
  · rw [Config.picked_iff shownUpTo?_eq_some_iff, map_toNat_accepted]
  · rw [Config.picked_iff shownUpTo?_eq_some_iff, map_toNat_accepted, eq_comm,
      filterMap_eq_iff fun word => shownUpTo?_eq_none]
    simp only [shownUpTo?_eq_iff]

/-- A protection mask beyond the largest, with zeros in front. -/
def longMask : Line :=
  ["csr_values", "0x00000000FFFF"]

/-- It is kept as the mask zero, though it is no number up to the largest. -/
theorem longMask_kept :
    hexes maxCsrValue longMask [] = [0] ∧
      ¬Picked (ShowsUpTo maxCsrValue.toNat hexNumber) (items longMask) [0] := by
  refine ⟨by decide +kernel, ?_⟩
  rw [Config.picked_iff shownUpTo?_eq_some_iff]
  decide +kernel

end Value

end BootManager.Config
