import Mathlib.Algebra.Group.Nat.Defs
import Mathlib.Order.Bounds.Basic
import BootManager.Volume.Name

/-!
# Sizes in units

A size is divided by 1024 until at most 1024 is left, or until there is no letter for a larger unit.
All the divisions together are one by a power of 1024, and the letters last for every size of 64
bits. The main result is `sizeText_unitLaw`.
-/

namespace BootManager.Volume

/-! ## The power of a unit -/

/-- The powers of 1024 of which a size has at most 1024, rounded down. -/
def fittingPowers (size : Nat) : Set Nat :=
  {power | size / 1024 ^ power ≤ 1024}

variable {size power : Nat}

theorem mem_fittingPowers : power ∈ fittingPowers size ↔ size / 1024 ^ power ≤ 1024 :=
  Iff.rfl

theorem zero_mem_fittingPowers : 0 ∈ fittingPowers size ↔ size ≤ 1024 := by
  rw [mem_fittingPowers, pow_zero, Nat.div_one]

theorem div_pow_succ (size power : Nat) :
    size / 1024 ^ (power + 1) = size / 1024 / 1024 ^ power := by
  rw [pow_succ', Nat.div_div_eq_div_mul]

theorem succ_mem_fittingPowers :
    power + 1 ∈ fittingPowers size ↔ power ∈ fittingPowers (size / 1024) := by
  rw [mem_fittingPowers, mem_fittingPowers, div_pow_succ]

theorem isLeast_zero (small : size ≤ 1024) : IsLeast (fittingPowers size) 0 :=
  ⟨zero_mem_fittingPowers.mpr small, fun _ _ => Nat.zero_le _⟩

/-- What is too large needs one division more than what is left after the first. -/
theorem isLeast_succ (large : 1024 < size) (least : IsLeast (fittingPowers (size / 1024)) power) :
    IsLeast (fittingPowers size) (power + 1) := by
  refine ⟨succ_mem_fittingPowers.mpr least.1, ?_⟩
  intro other fits
  cases other with
  | zero => exact absurd (zero_mem_fittingPowers.mp fits) (Nat.not_le.mpr large)
  | succ other => exact Nat.succ_le_succ (least.2 (succ_mem_fittingPowers.mp fits))

/-- Something is always left, since only what is above 1024 is divided. -/
theorem div_pos_of_isLeast (least : IsLeast (fittingPowers size) power) (pos : 0 < size) :
    0 < size / 1024 ^ power := by
  cases power with
  | zero => rwa [pow_zero, Nat.div_one]
  | succ power =>
    have large : 1024 < size / 1024 ^ power :=
      Nat.lt_of_not_le fun fits => absurd (least.2 fits) (Nat.not_succ_le_self power)
    rw [pow_succ, ← Nat.div_div_eq_div_mul]
    omega

/-! ## Scaling -/

/-- If the letters last, a size is divided by the least power that fits, and has the letter of that
power. -/
theorem scale_spec {letters : List Char} (last : letters.length ∈ fittingPowers size)
    (letter : Option Char) :
    ∃ power unit, IsLeast (fittingPowers size) power ∧
      (letter :: letters.map some)[power]? = some unit ∧
      scale letter size letters = (unit, size / 1024 ^ power) := by
  induction letters generalizing size letter with
  | nil =>
    have small : size ≤ 1024 := zero_mem_fittingPowers.mp last
    exact ⟨0, letter, isLeast_zero small, rfl, by simp [scale]⟩
  | cons next letters ih =>
    by_cases large : 1024 < size
    · obtain ⟨power, unit, least, named, scaled⟩ := ih (succ_mem_fittingPowers.mp last) (some next)
      refine ⟨power + 1, unit, isLeast_succ large least, named, ?_⟩
      rw [scale, if_pos large, scaled, div_pow_succ]
    · refine ⟨0, letter, isLeast_zero (Nat.le_of_not_lt large), rfl, ?_⟩
      rw [scale, if_neg large, pow_zero, Nat.div_one]

/-- A number of units as a text, if there is a letter for that power of 1024. -/
def unitsText? (power count : Nat) : Option String :=
  match power with
  | 0 => some (toString count ++ "-byte")
  | power + 1 =>
    unitLetters[power]?.map fun letter => toString count ++ " " ++ String.singleton letter ++ "iB"

theorem sizeText_spec (last : unitLetters.length ∈ fittingPowers size) :
    ∃ power, IsLeast (fittingPowers size) power ∧
      unitsText? power (size / 1024 ^ power) = some (sizeText size) := by
  obtain ⟨power, unit, least, named, scaled⟩ := scale_spec last none
  refine ⟨power, least, ?_⟩
  rw [sizeText, scaled]
  cases power with
  | zero =>
    obtain rfl : none = unit := Option.some.inj named
    rfl
  | succ power =>
    rw [List.getElem?_cons_succ, List.getElem?_map, Option.map_eq_some_iff] at named
    obtain ⟨letter, named, rfl⟩ := named
    rw [unitsText?, named]
    rfl

/-! ## The law -/

/-- How a size is written by means of a power of 1024. -/
structure UnitLaw (size power : Nat) : Prop where
  least : IsLeast (fittingPowers size) power
  /-- There is a letter for the power, and even for the next one. -/
  within : power < unitLetters.length
  text : unitsText? power (size / 1024 ^ power) = some (sizeText size)
  count_le : size / 1024 ^ power ≤ 1024
  count_pos_iff : 0 < size / 1024 ^ power ↔ 0 < size

/-- Every size of 64 bits is written in the first unit of which it has at most 1024. -/
theorem sizeText_unitLaw (bytes : UInt64) : ∃ power, UnitLaw bytes.toNat power := by
  have small : bytes.toNat < 2 ^ 64 := bytes.toNat_lt
  have sixth : 6 ∈ fittingPowers bytes.toNat := by
    rw [mem_fittingPowers]
    omega
  have last : unitLetters.length ∈ fittingPowers bytes.toNat := by
    have seven : unitLetters.length = 7 := rfl
    rw [mem_fittingPowers, seven]
    omega
  obtain ⟨power, least, text⟩ := sizeText_spec last
  refine ⟨power, least, Nat.lt_succ_of_le (least.2 sixth), text, least.1, ?_, ?_⟩
  · exact fun left => Nat.lt_of_lt_of_le left (Nat.div_le_self _ _)
  · exact div_pos_of_isLeast least

/-- The limit itself is not divided. -/
example : sizeText 1024 = "1024-byte" := by
  decide +kernel

end BootManager.Volume
