import BootManager.Text.Blank

/-!
# Decimal numbers

Numbers are read from the digits a word starts with, after blanks. Reading works in 32 bits and
stops at the largest value, so a long run of digits is the largest number rather than a wrapped one.
-/

namespace BootManager.Text

/-- The value of an ASCII decimal digit. -/
def digitValue? (c : Char) : Option Nat :=
  if '0' ≤ c && c ≤ '9' then some (c.toNat - '0'.toNat) else none

/-- The values of the decimal digits a text starts with. -/
def leadingDigits : List Char → List Nat
  | [] => []
  | c :: rest =>
    match digitValue? c with
    | some d => d :: leadingDigits rest
    | none => []

/-- The 32-bit number nearest to `n`. -/
def saturate (n : Nat) : UInt32 :=
  UInt32.ofNat (min n 0xFFFFFFFF)

/-- Puts one more digit after a number, in 32 bits at every step. -/
def appendDigit (acc : UInt32) (d : Nat) : UInt32 :=
  saturate ((saturate (acc.toNat * 10)).toNat + d)

/-- The number written by a list of digits, saturated in 32 bits. -/
def ofDigits (ds : List Nat) : UInt32 :=
  ds.foldl appendDigit 0

/-- The unsigned number a text starts with, 0 if it starts with no digit. -/
def readUnsigned (s : String) : UInt32 :=
  ofDigits (leadingDigits (s.toList.dropWhile isBlank))

/-- The signed 32-bit number nearest to `i`. -/
def saturateSigned (i : Int) : Int32 :=
  Int32.ofInt (max Int32.minValue.toInt (min i Int32.maxValue.toInt))

/-- The signed number a text starts with. A minus sign may stand before the number, which may then
have blanks of its own. -/
def readSigned (s : String) : Int32 :=
  match s.toList.dropWhile isBlank with
  | '-' :: rest => saturateSigned (-(ofDigits (leadingDigits (rest.dropWhile isBlank))).toNat)
  | cs => saturateSigned (ofDigits (leadingDigits cs)).toNat

theorem toNat_saturate (n : Nat) : (saturate n).toNat = min n 0xFFFFFFFF := by
  have : min n 0xFFFFFFFF < 2 ^ 32 := by omega
  simp only [saturate, UInt32.toNat_ofNat']
  exact Nat.mod_eq_of_lt this

end BootManager.Text
