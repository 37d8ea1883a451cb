import Mathlib.Algebra.Group.Int.Defs
import Mathlib.Algebra.Group.Nat.Defs
import BootManager.Proofs.Text.Trim
import BootManager.Text.Decimal

/-!
# Decimal numbers

Digits are put together in 32 bits and stop at the largest number on the way. The outcome is that of
reading the exact number first and cutting it off once, however many digits there are and with a
sign as well. The main result is `decimal_saturationLaw`.
-/

namespace BootManager.Text

/-! ## Saturation -/

theorem saturate_eq_iff {m n : Nat} :
    saturate m = saturate n ↔ min m (2 ^ 32 - 1) = min n (2 ^ 32 - 1) := by
  rw [← UInt32.toNat_inj, toNat_saturate, toNat_saturate]
  rfl

/-- A number that was cut off stays so, since more digits only make it larger. -/
theorem appendDigit_saturate (n d : Nat) :
    appendDigit (saturate n) d = saturate (10 * n + d) := by
  rw [appendDigit, saturate_eq_iff, toNat_saturate, toNat_saturate]
  omega

theorem toInt_saturateSigned (i : Int) :
    (saturateSigned i).toInt = max (-2 ^ 31) (min i (2 ^ 31 - 1)) := by
  have least : Int32.minValue.toInt = -2 ^ 31 := rfl
  have most : Int32.maxValue.toInt = 2 ^ 31 - 1 := rfl
  rw [saturateSigned, least, most]
  exact Int32.toInt_ofInt_of_le (by omega) (by omega)

/-! ## Digits -/

theorem digitValue?_of_isDigit {c : Char} (digit : c.isDigit = true) :
    digitValue? c = some (c.toNat - '0'.toNat) :=
  if_pos digit

theorem digitValue?_of_not_isDigit {c : Char} (other : c.isDigit = false) : digitValue? c = none :=
  if_neg (Bool.eq_false_iff.mp other)

theorem isBlank_of_isDigit {c : Char} (digit : c.isDigit = true) : isBlank c = false := by
  obtain ⟨least, most⟩ := Char.isDigit_iff_toNat.mp digit
  have between : 48 ≤ c.toNat ∧ c.toNat ≤ 57 := ⟨least, most⟩
  simp only [isBlank, blankRanges, List.any_cons, List.any_nil]
  grind

theorem leadingDigits_append {digits rest : List Char} (digit : ∀ c ∈ digits, c.isDigit = true)
    (stop : ∀ c ∈ rest.head?, c.isDigit = false) :
    leadingDigits (digits ++ rest) = digits.map fun c => c.toNat - '0'.toNat := by
  induction digits with
  | nil =>
    cases rest with
    | nil => rfl
    | cons c rest =>
      have other : digitValue? c = none := digitValue?_of_not_isDigit (stop c rfl)
      rw [List.nil_append, leadingDigits, other]
      rfl
  | cons c digits ih =>
    rw [List.cons_append, leadingDigits, digitValue?_of_isDigit (digit c List.mem_cons_self)]
    exact congrArg _ (ih fun d member => digit d (List.mem_cons_of_mem c member))

/-- Digits are appended in 32 bits as to the exact number. -/
theorem foldl_appendDigit (digits : List Char) (n : Nat) :
    (digits.map fun c => c.toNat - '0'.toNat).foldl appendDigit (saturate n) =
      saturate (Nat.ofDigitChars 10 digits n) := by
  induction digits generalizing n with
  | nil => rfl
  | cons c digits ih =>
    rw [List.map_cons, List.foldl_cons, appendDigit_saturate, ih, Nat.ofDigitChars_cons]

/-! ## Numerals -/

/-- A text taken apart where a number is read from it: blanks, the longest run of digits, and what
comes after that. -/
structure Numeral (cs : List Char) where
  blanks : List Char
  digits : List Char
  rest : List Char
  whole : cs = blanks ++ (digits ++ rest)
  blank : ∀ c ∈ blanks, isBlank c = true
  start : ∀ c ∈ (digits ++ rest).head?, isBlank c = false
  digit : ∀ c ∈ digits, c.isDigit = true
  stop : ∀ c ∈ rest.head?, c.isDigit = false

/-- A minus sign with nothing but blanks before it stands before `number`. -/
def IsNegated (cs number : List Char) : Prop :=
  ∃ blanks, (∀ c ∈ blanks, isBlank c = true) ∧ cs = blanks ++ '-' :: number

theorem IsNegated.dropWhile_eq {cs number : List Char} (negated : IsNegated cs number) :
    cs.dropWhile isBlank = '-' :: number := by
  obtain ⟨blanks, blank, rfl⟩ := negated
  refine dropWhile_append_of_stop blank fun c first => ?_
  rw [← Option.some.inj first]
  decide

theorem isNegated_of_dropWhile {cs number : List Char}
    (begins : cs.dropWhile isBlank = '-' :: number) : IsNegated cs number := by
  refine ⟨cs.takeWhile isBlank, List.all_eq_true.mp List.all_takeWhile, ?_⟩
  rw [← begins, List.takeWhile_append_dropWhile]

namespace Numeral

variable {cs : List Char}

/-- The number that the digits write, which is 0 if there are none. -/
def value (w : Numeral cs) : Nat :=
  Nat.ofDigitChars 10 w.digits 0

/-- Every text taken apart. -/
def ofChars (cs : List Char) : Numeral cs where
  blanks := cs.takeWhile isBlank
  digits := (cs.dropWhile isBlank).takeWhile Char.isDigit
  rest := (cs.dropWhile isBlank).dropWhile Char.isDigit
  whole := by rw [List.takeWhile_append_dropWhile, List.takeWhile_append_dropWhile]
  blank := List.all_eq_true.mp List.all_takeWhile
  start := by
    rw [List.takeWhile_append_dropWhile]
    exact stop_dropWhile isBlank cs
  digit := List.all_eq_true.mp List.all_takeWhile
  stop := stop_dropWhile Char.isDigit (cs.dropWhile isBlank)

/-- What is read is the number of the digits, cut off once. -/
theorem toNat_read (w : Numeral cs) :
    (ofDigits (leadingDigits (cs.dropWhile isBlank))).toNat = min w.value (2 ^ 32 - 1) := by
  have body : cs.dropWhile isBlank = w.digits ++ w.rest :=
    (congrArg _ w.whole).trans (dropWhile_append_of_stop w.blank w.start)
  have zero : (0 : UInt32) = saturate 0 := rfl
  rw [body, leadingDigits_append w.digit w.stop, ofDigits, zero, foldl_appendDigit,
    toNat_saturate]
  rfl

end Numeral

/-! ## Reading -/

theorem toNat_readUnsigned {s : String} (w : Numeral s.toList) :
    (readUnsigned s).toNat = min w.value (2 ^ 32 - 1) :=
  w.toNat_read

theorem toInt_readSigned_of_isNegated {s : String} {number : List Char}
    (negated : IsNegated s.toList number) (w : Numeral number) :
    (readSigned s).toInt = max (-2 ^ 31) (min (-(w.value : Int)) (2 ^ 31 - 1)) := by
  have read := w.toNat_read
  have opposite : readSigned s =
      saturateSigned (-((ofDigits (leadingDigits (number.dropWhile isBlank))).toNat : Int)) := by
    rw [readSigned, negated.dropWhile_eq]
    rfl
  rw [opposite, toInt_saturateSigned, read]
  omega

theorem toInt_readSigned_of_not_isNegated {s : String}
    (plain : ∀ number, ¬IsNegated s.toList number) (w : Numeral s.toList) :
    (readSigned s).toInt = max (-2 ^ 31) (min (w.value : Int) (2 ^ 31 - 1)) := by
  have read := w.toNat_read
  rw [readSigned]
  split
  next number begins => exact absurd (isNegated_of_dropWhile begins) (plain number)
  next =>
    rw [toInt_saturateSigned, read]
    omega

/-! ## Written numbers -/

theorem isDigit_repr (n : Nat) : ∀ c ∈ n.repr.toList, c.isDigit = true := by
  intro c member
  rw [Nat.toList_repr] at member
  exact Nat.isDigit_of_mem_toDigits (by decide) (by decide) member

/-- The text of a number taken apart, which is all digits. -/
def Numeral.ofNat (n : Nat) : Numeral n.repr.toList where
  blanks := []
  digits := n.repr.toList
  rest := []
  whole := by simp
  blank := by simp
  start c first := by
    rw [List.append_nil] at first
    exact isBlank_of_isDigit (isDigit_repr n c (List.mem_of_mem_head? first))
  digit := isDigit_repr n
  stop := by simp

theorem Numeral.value_ofNat (n : Nat) : (Numeral.ofNat n).value = n := by
  change Nat.ofDigitChars 10 n.repr.toList 0 = n
  rw [Nat.toList_repr, Nat.ofDigitChars_ten_toDigits]

theorem readUnsigned_toString (n : UInt32) : readUnsigned (toString n) = n := by
  have small : n.toNat < 2 ^ 32 := n.toNat_lt
  have read : (readUnsigned (toString n)).toNat = min (Numeral.ofNat n.toNat).value (2 ^ 32 - 1) :=
    toNat_readUnsigned (s := n.toNat.repr) (.ofNat n.toNat)
  rw [← UInt32.toNat_inj, read, Numeral.value_ofNat]
  omega

theorem readSigned_toString (i : Int32) : readSigned (toString i) = i := by
  have least : -2 ^ 31 ≤ i.toInt := i.le_toInt
  have most : i.toInt < 2 ^ 31 := i.toInt_lt
  have text : toString i = i.toInt.repr := rfl
  rw [← Int32.toInt_inj, text]
  cases sign : i.toInt with
  | ofNat n =>
    have plain : ∀ number, ¬IsNegated n.repr.toList number := by
      rintro number ⟨blanks, -, whole⟩
      have minus : '-' ∈ n.repr.toList := by simp [whole]
      exact absurd (isDigit_repr n '-' minus) (by decide)
    have read := toInt_readSigned_of_not_isNegated plain (.ofNat n)
    rw [Numeral.value_ofNat] at read
    rw [sign, Int.ofNat_eq_natCast] at most
    refine read.trans ?_
    rw [Int.ofNat_eq_natCast]
    omega
  | negSucc n =>
    have negated : IsNegated ("-" ++ (n + 1).repr).toList (n + 1).repr.toList :=
      ⟨[], by simp, by simp⟩
    have read := toInt_readSigned_of_isNegated negated (.ofNat (n + 1))
    rw [Numeral.value_ofNat] at read
    rw [sign] at least
    refine read.trans ?_
    omega

/-! ## The law -/

/-- Numbers are read as if exactly, and then cut off at the ends of their range. -/
structure SaturationLaw : Prop where
  /-- A number can be read from any text, if from no digits. -/
  numeral : ∀ cs, Nonempty (Numeral cs)
  unsigned : ∀ s (w : Numeral s.toList), (readUnsigned s).toNat = min w.value (2 ^ 32 - 1)
  /-- After a minus sign, the number has blanks of its own before it. -/
  negative : ∀ s number, IsNegated s.toList number → ∀ w : Numeral number,
    (readSigned s).toInt = max (-2 ^ 31) (min (-(w.value : Int)) (2 ^ 31 - 1))
  plain : ∀ s, (∀ number, ¬IsNegated s.toList number) → ∀ w : Numeral s.toList,
    (readSigned s).toInt = max (-2 ^ 31) (min (w.value : Int) (2 ^ 31 - 1))
  /-- Every number of 32 bits is read from its own text. -/
  unsignedText : ∀ n : UInt32, readUnsigned (toString n) = n
  /-- So is every signed one, the least of them as well. -/
  signedText : ∀ i : Int32, readSigned (toString i) = i

/-- Cutting off digit by digit is cutting off once. -/
theorem decimal_saturationLaw : SaturationLaw where
  numeral cs := ⟨.ofChars cs⟩
  unsigned _ := toNat_readUnsigned
  negative _ _ := toInt_readSigned_of_isNegated
  plain _ := toInt_readSigned_of_not_isNegated
  unsignedText := readUnsigned_toString
  signedText := readSigned_toString

end BootManager.Text
