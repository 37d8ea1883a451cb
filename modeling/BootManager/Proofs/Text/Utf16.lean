import BootManager.Text.Utf16

/-!
# UTF-16 and back

Characters that were written as code units, and code units that were written as bytes, are read back
as they were.
-/

namespace BootManager.Text.Utf16

/-! ## Code units -/

theorem isHigh_iff {u : UInt16} : isHigh u = true ↔ 0xD800 ≤ u.toNat ∧ u.toNat < 0xDC00 := by
  simp [isHigh, UInt16.le_iff_toNat_le, UInt16.lt_iff_toNat_lt]

theorem isLow_iff {u : UInt16} : isLow u = true ↔ 0xDC00 ≤ u.toNat ∧ u.toNat < 0xE000 := by
  simp [isLow, UInt16.le_iff_toNat_le, UInt16.lt_iff_toNat_lt]

theorem toNat_lt_or_of_char (c : Char) :
    c.toNat < 0xD800 ∨ 0xE000 ≤ c.toNat ∧ c.toNat < 0x110000 := by
  have := c.valid
  simp only [UInt32.isValidChar, Nat.isValidChar] at this
  simp only [Char.toNat]
  omega

theorem toNat_ofNat_of_lt {n : Nat} (small : n < 0x10000) : (UInt16.ofNat n).toNat = n := by
  rw [UInt16.toNat_ofNat']
  exact Nat.mod_eq_of_lt small

/-- A unit that is no surrogate is a character of its own. -/
theorem decode_cons_of_plain {u : UInt16} (high : isHigh u = false) (low : isLow u = false)
    (rest : List UInt16) : decode (u :: rest) = Char.ofNat u.toNat :: decode rest := by
  cases rest with
  | nil => simp [decode, high, low]
  | cons v rest => simp [decode, high, low]

/-- Two surrogates that fit are a character together. -/
theorem decode_cons_of_pair {u v : UInt16} (high : isHigh u = true) (low : isLow v = true)
    (rest : List UInt16) : decode (u :: v :: rest) = combine u v :: decode rest := by
  rw [decode, if_pos high, if_pos low]

theorem decode_encodeChar_append (c : Char) (rest : List UInt16) :
    decode (encodeChar c ++ rest) = c :: decode rest := by
  have range := toNat_lt_or_of_char c
  unfold encodeChar
  split
  next small =>
    have unit : (UInt16.ofNat c.toNat).toNat = c.toNat := toNat_ofNat_of_lt small
    have high : isHigh (UInt16.ofNat c.toNat) = false := by
      rw [Bool.eq_false_iff, Ne, isHigh_iff, unit]
      omega
    have low : isLow (UInt16.ofNat c.toNat) = false := by
      rw [Bool.eq_false_iff, Ne, isLow_iff, unit]
      omega
    rw [List.singleton_append, decode_cons_of_plain high low, unit, Char.ofNat_toNat]
  next large =>
    have first : (UInt16.ofNat (0xD800 + (c.toNat - 0x10000) / 0x400)).toNat =
        0xD800 + (c.toNat - 0x10000) / 0x400 := toNat_ofNat_of_lt (by omega)
    have second : (UInt16.ofNat (0xDC00 + (c.toNat - 0x10000) % 0x400)).toNat =
        0xDC00 + (c.toNat - 0x10000) % 0x400 := toNat_ofNat_of_lt (by omega)
    have high : isHigh (UInt16.ofNat (0xD800 + (c.toNat - 0x10000) / 0x400)) = true := by
      rw [isHigh_iff, first]
      omega
    have low : isLow (UInt16.ofNat (0xDC00 + (c.toNat - 0x10000) % 0x400)) = true := by
      rw [isLow_iff, second]
      omega
    have value : 0x10000 + (0xD800 + (c.toNat - 0x10000) / 0x400 - 0xD800) * 0x400 +
        (0xDC00 + (c.toNat - 0x10000) % 0x400 - 0xDC00) = c.toNat := by
      omega
    rw [List.cons_append, List.singleton_append, decode_cons_of_pair high low, combine, first,
      second, value, Char.ofNat_toNat]

/-- Characters are read back from their code units. -/
theorem decode_encode (cs : List Char) : decode (encode cs) = cs := by
  induction cs with
  | nil => rfl
  | cons c cs ih =>
    rw [encode, List.flatMap_cons, decode_encodeChar_append]
    exact congrArg (c :: ·) ih

theorem encode_ne_nil {cs : List Char} (nonempty : cs ≠ []) : encode cs ≠ [] := by
  cases cs with
  | nil => exact absurd rfl nonempty
  | cons c cs =>
    rw [encode, List.flatMap_cons, encodeChar]
    split <;> simp

/-- Characters that fit in a code unit are one each. -/
theorem encode_of_narrow {cs : List Char} (narrow : ∀ c ∈ cs, c.toNat < 0x10000) :
    encode cs = cs.map fun c => UInt16.ofNat c.toNat := by
  induction cs with
  | nil => rfl
  | cons c cs ih =>
    have rest := ih fun d member => narrow d (.tail c member)
    rw [encode, List.flatMap_cons, encodeChar, if_pos (narrow c List.mem_cons_self), List.map_cons,
      List.singleton_append, ← rest]
    rfl

/-! ## Bytes -/

/-- A code unit is read back from its two bytes. -/
theorem unit_of_bytes (u : UInt16) :
    u.toUInt8.toUInt16 ||| ((u >>> 8).toUInt8.toUInt16 <<< 8) = u := by
  have size : u.toNat < 0x10000 := u.toNat_lt
  have high : (u.toNat >>> 8) % 256 = u.toNat / 256 := by
    rw [Nat.shiftRight_eq_div_pow]
    omega
  have low : u.toNat % 256 < 2 ^ 8 := Nat.mod_lt _ (by decide)
  have whole : (u.toNat / 256) <<< 8 + u.toNat % 256 = u.toNat := by
    rw [Nat.shiftLeft_eq]
    omega
  have fits : (u.toNat / 256) <<< 8 < 0x10000 := by omega
  have bytes : (u.toUInt8.toUInt16 ||| ((u >>> 8).toUInt8.toUInt16 <<< 8)).toNat =
      u.toNat % 256 ||| ((u.toNat >>> 8) % 256) <<< 8 % 0x10000 := by simp
  -- The bytes do not overlap, so joining their bits adds them up.
  rw [← UInt16.toNat_inj, bytes, high, Nat.mod_eq_of_lt fits, Nat.or_comm,
    ← Nat.shiftLeft_add_eq_or_of_lt low, whole]

theorem unitsOfBytes_bytesOfUnits (units : List UInt16) :
    unitsOfBytes (bytesOfUnits units) = units := by
  induction units with
  | nil => rfl
  | cons u units ih =>
    rw [bytesOfUnits, List.flatMap_cons, List.cons_append, List.cons_append, List.nil_append,
      unitsOfBytes, unit_of_bytes]
    exact congrArg (u :: ·) ih

/-- A code unit that fits in a byte has a high byte of zero. -/
theorem high_of_small {u : UInt16} (small : u.toNat < 0x100) : (u >>> 8).toUInt8 = 0 := by
  have zero : u.toNat >>> 8 = 0 := by
    rw [Nat.shiftRight_eq_div_pow]
    omega
  have high : (u >>> 8).toUInt8.toNat = (u.toNat >>> 8) % 256 := by simp
  rw [← UInt8.toNat_inj, high, zero]
  rfl

theorem length_bytesOfUnits (units : List UInt16) :
    (bytesOfUnits units).length = 2 * units.length := by
  induction units with
  | nil => rfl
  | cons u units ih =>
    rw [bytesOfUnits, List.flatMap_cons, List.length_append, ← bytesOfUnits, ih]
    simp
    omega

end BootManager.Text.Utf16
