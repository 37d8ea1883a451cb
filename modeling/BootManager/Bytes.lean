/-!
# Bytes

Byte sequences and the numbers stored in them, low byte first.
-/

namespace BootManager

/-- A sequence of bytes. -/
abbrev Bytes := List UInt8

namespace Bytes

/-- The number stored in a byte sequence, low byte first. -/
def toNat : Bytes → Nat
  | [] => 0
  | b :: rest => b.toNat + 256 * toNat rest

/-- The lowest `count` bytes of a number, low byte first. -/
def ofNat : Nat → Nat → Bytes
  | 0, _ => []
  | count + 1, n => UInt8.ofNat n :: ofNat count (n / 256)

/-- The first `count` bytes, with zeros for those that are missing. -/
def resize (count : Nat) (bytes : Bytes) : Bytes :=
  bytes.take count ++ List.replicate (count - bytes.length) 0

@[simp] theorem length_ofNat (count n : Nat) : (ofNat count n).length = count := by
  induction count generalizing n with
  | zero => rfl
  | succ count ih => simp [ofNat, ih]

theorem toNat_ofNat (count n : Nat) : toNat (ofNat count n) = n % Nat.pow 256 count := by
  induction count generalizing n with
  | zero => exact (Nat.mod_one n).symm
  | succ count ih =>
    have step := Nat.mod_mul (a := 256) (b := Nat.pow 256 count) (x := n)
    have power : Nat.pow 256 (count + 1) = 256 * Nat.pow 256 count := Nat.mul_comm _ _
    rw [ofNat, toNat, ih, power, step]
    simp

end Bytes

end BootManager
