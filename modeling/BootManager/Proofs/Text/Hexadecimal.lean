import Mathlib.Data.Nat.Digits.Lemmas
import BootManager.Proofs.Text.LetterCase
import BootManager.Text.Hexadecimal

/-!
# Hexadecimal words

A hexadecimal word writes digits after an optional mark, and so stands for a number of any size.
What is read of it is the number of its first eight digits (`map_toNat_readHex?`), which is its own
number exactly if it has no more digits than these, or if all of them are zero.
-/

namespace BootManager.Text

/-! ## Digits -/

/-- The small digits, and the capital ones, in the order of their values. -/
def hexAlphabets : List (List Char) :=
  ["0123456789abcdef".toList, "0123456789ABCDEF".toList]

/-- A character is the hexadecimal digit of a value. -/
def IsHexDigit (c : Char) (value : Nat) : Prop :=
  ∃ alphabet ∈ hexAlphabets, alphabet[value]? = some c

theorem IsHexDigit.lt {c : Char} {value : Nat} (digit : IsHexDigit c value) : value < 16 := by
  obtain ⟨alphabet, member, stands⟩ := digit
  have sixteen : ∀ alphabet ∈ hexAlphabets, alphabet.length = 16 := by decide
  rw [← sixteen alphabet member]
  exact (List.getElem?_eq_some_iff.mp stands).1

theorem lt_of_isHexDigit {cs : List Char} {digits : List Nat}
    (written : List.Forall₂ IsHexDigit cs digits) : ∀ value ∈ digits, value < 16 := by
  induction written with
  | nil => simp
  | cons digit rest ih => exact List.forall_mem_cons.mpr ⟨digit.lt, ih⟩

theorem toNat_lt_of_hexValue? {c : Char} {value : Nat} (digit : hexValue? c = some value) :
    c.toNat < 128 := by
  have ascii {first last : Char} (inside : (first ≤ c && c ≤ last) = true)
      (small : last.toNat < 128) : c.toNat < 128 := by
    have le : c ≤ last := of_decide_eq_true (Bool.and_eq_true_iff.mp inside).2
    exact Nat.lt_of_le_of_lt le small
  unfold hexValue? at digit
  split at digit
  next inside => exact ascii inside (by decide)
  next =>
    split at digit
    next inside => exact ascii inside (by decide)
    next =>
      split at digit
      next inside => exact ascii inside (by decide)
      next => cases digit

theorem hexValue?_eq_some_iff {c : Char} {value : Nat} :
    hexValue? c = some value ↔ IsHexDigit c value := by
  constructor
  · intro digit
    have all : ∀ n < 128, ∀ value ∈ hexValue? (Char.ofNat n),
        ∃ alphabet ∈ hexAlphabets, alphabet[value]? = some (Char.ofNat n) := by
      decide +kernel
    have listed := all c.toNat (toNat_lt_of_hexValue? digit)
    rw [Char.ofNat_toNat] at listed
    exact listed value digit
  · rintro ⟨alphabet, member, stands⟩
    have all : ∀ alphabet ∈ hexAlphabets, ∀ value < 16,
        (alphabet[value]?).bind hexValue? = some value := by
      decide +kernel
    have reads := all alphabet member value (IsHexDigit.lt ⟨alphabet, member, stands⟩)
    rwa [stands] at reads

theorem hexValues?_eq_some_iff {cs : List Char} {digits : List Nat} :
    hexValues? cs = some digits ↔ List.Forall₂ IsHexDigit cs digits := by
  induction cs generalizing digits with
  | nil =>
    rw [List.forall₂_nil_left_iff]
    exact Option.some_inj.trans eq_comm
  | cons c cs ih =>
    rw [hexValues?, List.mapM_cons, List.forall₂_cons_left_iff]
    simp only [Option.bind_eq_bind, Option.bind_eq_some_iff, Option.pure_def, Option.some_inj]
    constructor
    · rintro ⟨value, digit, values, rest, rfl⟩
      exact ⟨value, values, hexValue?_eq_some_iff.mp digit, ih.mp rest, rfl⟩
    · rintro ⟨value, values, digit, rest, rfl⟩
      exact ⟨value, hexValue?_eq_some_iff.mpr digit, values, ih.mpr rest, rfl⟩

/-! ## Words -/

/-- What may stand before the digits of a hexadecimal word. -/
def hexMarks : List (List Char) :=
  [[], ['0', 'x'], ['0', 'X']]

/-- A word writes hexadecimal digits, and at least one. -/
structure HexWord (word : String) (digits : List Nat) : Prop where
  digits_ne_nil : digits ≠ []
  written : ∃ mark ∈ hexMarks, ∃ cs, word.toList = mark ++ cs ∧ List.Forall₂ IsHexDigit cs digits

/-- The digits that a hexadecimal word writes. -/
def hexDigits? (word : String) : Option (List Nat) :=
  match dropHexMark word.toList with
  | [] => none
  | cs => hexValues? cs

/-- Digits do not begin with a mark. -/
theorem dropHexMark_of_digits {cs : List Char} {digits : List Nat}
    (written : List.Forall₂ IsHexDigit cs digits) : dropHexMark cs = cs := by
  have second {c : Char} {rest : List Char} (begins : cs = '0' :: c :: rest) :
      hexValue? c ≠ none := by
    rw [begins, ← hexValues?_eq_some_iff] at written
    intro none
    simp [hexValues?, none] at written
  unfold dropHexMark
  split
  · exact absurd rfl (second rfl)
  · exact absurd rfl (second rfl)
  · rfl

theorem exists_mark (cs : List Char) : ∃ mark ∈ hexMarks, cs = mark ++ dropHexMark cs := by
  unfold dropHexMark
  split
  · exact ⟨['0', 'x'], by decide, rfl⟩
  · exact ⟨['0', 'X'], by decide, rfl⟩
  · exact ⟨[], by decide, rfl⟩

theorem dropHexMark_append {mark cs : List Char} {digits : List Nat} (member : mark ∈ hexMarks)
    (written : List.Forall₂ IsHexDigit cs digits) : dropHexMark (mark ++ cs) = cs := by
  simp only [hexMarks, List.mem_cons, List.not_mem_nil, or_false] at member
  rcases member with rfl | rfl | rfl
  · exact dropHexMark_of_digits written
  · rfl
  · rfl

theorem hexDigits?_eq_some_iff {word : String} {digits : List Nat} :
    hexDigits? word = some digits ↔ HexWord word digits := by
  constructor
  · intro read
    obtain ⟨mark, member, whole⟩ := exists_mark word.toList
    rw [hexDigits?] at read
    split at read
    next => cases read
    next some =>
      have written := hexValues?_eq_some_iff.mp read
      refine ⟨?_, mark, member, _, whole, written⟩
      rintro rfl
      exact some (List.forall₂_nil_right_iff.mp written)
  · rintro ⟨some, mark, member, cs, whole, written⟩
    rw [hexDigits?, whole, dropHexMark_append member written]
    match cs, written with
    | [], .nil => exact absurd rfl some
    | _ :: _, written => exact hexValues?_eq_some_iff.mpr written

theorem HexWord.digit_lt {word : String} {digits : List Nat} (writes : HexWord word digits) :
    ∀ value ∈ digits, value < 16 := by
  obtain ⟨-, mark, -, cs, -, written⟩ := writes
  exact lt_of_isHexDigit written

/-! ## Numbers -/

/-- The number that hexadecimal digits stand for, the first of them the highest. -/
def hexNumber (digits : List Nat) : Nat :=
  Nat.ofDigits 16 digits.reverse

theorem ofHexDigits_eq (digits : List Nat) : ofHexDigits digits = hexNumber digits := by
  rw [hexNumber, Nat.ofDigits_eq_foldr, List.foldr_reverse, ofHexDigits]
  simp only [Nat.cast_id, Nat.add_comm, Nat.mul_comm]

theorem hexNumber_append (first rest : List Nat) :
    hexNumber (first ++ rest) = hexNumber first * 16 ^ rest.length + hexNumber rest := by
  rw [hexNumber, List.reverse_append, Nat.ofDigits_append, List.length_reverse, Nat.add_comm,
    Nat.mul_comm]
  rfl

theorem hexNumber_take_le (count : Nat) (digits : List Nat) :
    hexNumber (digits.take count) ≤ hexNumber digits := by
  have whole := hexNumber_append (digits.take count) (digits.drop count)
  rw [List.take_append_drop] at whole
  have : 0 < 16 ^ (digits.drop count).length := Nat.pow_pos (by decide)
  calc hexNumber (digits.take count)
      ≤ hexNumber (digits.take count) * 16 ^ (digits.drop count).length :=
        Nat.le_mul_of_pos_right _ this
    _ ≤ hexNumber digits := by omega

/-- Without its last digits, a number is the same exactly if it is zero. -/
theorem hexNumber_take_eq_iff {count : Nat} {digits : List Nat} (more : count < digits.length) :
    hexNumber (digits.take count) = hexNumber digits ↔ hexNumber digits = 0 := by
  constructor
  · intro same
    have whole := hexNumber_append (digits.take count) (digits.drop count)
    rw [List.take_append_drop, same] at whole
    have some : (digits.drop count).length ≠ 0 := by rw [List.length_drop]; omega
    have sixteen : 16 ≤ 16 ^ (digits.drop count).length := Nat.le_self_pow some 16
    have := Nat.mul_le_mul_left (hexNumber digits) sixteen
    omega
  · intro zero
    have := hexNumber_take_le count digits
    omega

theorem hexNumber_lt {digits : List Nat} (small : ∀ value ∈ digits, value < 16) :
    hexNumber digits < 16 ^ digits.length := by
  have bound := Nat.ofDigits_lt_base_pow_length (b := 16) (l := digits.reverse) (by decide)
    fun value member => small value (List.mem_reverse.mp member)
  rwa [List.length_reverse] at bound

/-- What is read of a word is the number of its first digits. -/
theorem map_toNat_readHex? (word : String) :
    (readHex? word).map UInt32.toNat =
      (hexDigits? word).map fun digits => hexNumber (digits.take hexDigitsRead) := by
  have read : readHex? word =
      (hexDigits? word).map fun digits =>
        UInt32.ofNat (ofHexDigits (digits.take hexDigitsRead)) := by
    rw [readHex?, hexDigits?]
    cases dropHexMark word.toList <;> rfl
  rw [read, Option.map_map]
  refine Option.map_congr fun digits writes => ?_
  have small := (hexDigits?_eq_some_iff.mp writes).digit_lt
  have fits : hexNumber (digits.take hexDigitsRead) < 2 ^ 32 :=
    calc hexNumber (digits.take hexDigitsRead)
        < 16 ^ (digits.take hexDigitsRead).length :=
          hexNumber_lt fun value member => small value (List.mem_of_mem_take member)
      _ ≤ 16 ^ hexDigitsRead := Nat.pow_le_pow_right (by decide) (List.length_take_le _ _)
  rw [Function.comp_apply, ofHexDigits_eq, UInt32.toNat_ofNat_of_lt' fits]

/-! ## Writing digits -/

theorem toHexDigits_succ (count n : Nat) :
    toHexDigits (count + 1) n = toHexDigits count (n / 16) ++ [hexDigit (n % 16)] := by
  rw [toHexDigits, toHexDigits, List.range_succ, List.map_append]
  congr 1
  · refine List.map_congr_left fun i inside => ?_
    have before : i < count := List.mem_range.mp inside
    have place : 4 * (count + 1 - 1 - i) = 4 + 4 * (count - 1 - i) := by omega
    rw [place, Nat.shiftRight_add, Nat.shiftRight_eq_div_pow n 4]
  · simp

theorem hexNumber_concat (digits : List Nat) (last : Nat) :
    hexNumber (digits ++ [last]) = hexNumber digits * 16 + last := by
  have one : hexNumber [last] = last := Nat.ofDigits_singleton
  rw [hexNumber_append, one, List.length_singleton, Nat.pow_one]

/-- The digits of a number are written as they are, in small letters. -/
theorem toHexDigits_hexNumber {digits : List Nat} (small : ∀ value ∈ digits, value < 16) :
    toHexDigits digits.length (hexNumber digits) = digits.map hexDigit := by
  induction digits using List.reverseRecOn with
  | nil => rfl
  | append_singleton digits last ih =>
    have lastSmall : last < 16 := small last (by simp)
    have others := ih fun value member => small value (List.mem_append_left _ member)
    have number := hexNumber_concat digits last
    have front : hexNumber (digits ++ [last]) / 16 = hexNumber digits := by omega
    have rest : hexNumber (digits ++ [last]) % 16 = last := by omega
    rw [List.length_append, List.length_singleton, toHexDigits_succ, front, rest, others,
      List.map_append, List.map_singleton]

/-- Every number that is small enough has digits, as many as are asked for. -/
theorem exists_hexNumber {count n : Nat} (small : n < 16 ^ count) :
    ∃ digits, digits.length = count ∧ (∀ value ∈ digits, value < 16) ∧ hexNumber digits = n := by
  induction count generalizing n with
  | zero => exact ⟨[], rfl, by simp, (Nat.lt_one_iff.mp small).symm⟩
  | succ count ih =>
    have front : n / 16 < 16 ^ count := by rw [Nat.pow_succ] at small; omega
    obtain ⟨digits, length, inside, number⟩ := ih front
    refine ⟨digits ++ [n % 16], by simp [length], fun value member => ?_, ?_⟩
    · rcases List.mem_append.mp member with before | last
      · exact inside value before
      · rw [List.mem_singleton.mp last]
        exact Nat.mod_lt n (by decide)
    · rw [hexNumber_concat, number]
      omega

/-! ## The case of digits -/

theorem toLower_of_isHexDigit {c : Char} {value : Nat} (digit : IsHexDigit c value) :
    c.toLower = hexDigit value := by
  have all : ∀ alphabet ∈ hexAlphabets, ∀ value < 16,
      (alphabet[value]?).map Char.toLower = some (hexDigit value) := by
    decide +kernel
  obtain ⟨alphabet, member, stands⟩ := id digit
  have lowered := all alphabet member value digit.lt
  rw [stands] at lowered
  exact Option.some.inj lowered

theorem isHexDigit_hexDigit {value : Nat} (small : value < 16) :
    IsHexDigit (hexDigit value) value := by
  have all : ∀ value < 16, hexValue? (hexDigit value) = some value := by decide
  exact hexValue?_eq_some_iff.mp (all value small)

/-- Digits are read in either case. -/
theorem hexValue?_toLower (c : Char) : hexValue? c.toLower = hexValue? c := by
  have all : ∀ n < 128, hexValue? (Char.ofNat n).toLower = hexValue? (Char.ofNat n) := by
    decide +kernel
  exact letterCase_cases all (fun _ _ same => congrArg hexValue? same) c

theorem hexValues?_map_toLower (cs : List Char) :
    hexValues? (cs.map Char.toLower) = hexValues? cs := by
  induction cs with
  | nil => rfl
  | cons c cs ih =>
    rw [hexValues?] at ih
    rw [hexValues?, hexValues?, List.map_cons, List.mapM_cons, List.mapM_cons, hexValue?_toLower,
      ih, hexValues?]

theorem map_toLower_of_isHexDigit {cs : List Char} {digits : List Nat}
    (written : List.Forall₂ IsHexDigit cs digits) :
    cs.map Char.toLower = digits.map hexDigit := by
  induction written with
  | nil => rfl
  | cons digit _ ih => rw [List.map_cons, List.map_cons, toLower_of_isHexDigit digit, ih]

theorem hexValues?_map_hexDigit {digits : List Nat} (small : ∀ value ∈ digits, value < 16) :
    hexValues? (digits.map hexDigit) = some digits := by
  rw [hexValues?_eq_some_iff, List.forall₂_map_left_iff, List.forall₂_same]
  exact fun value member => isHexDigit_hexDigit (small value member)

end BootManager.Text
