import BootManager.Bytes

/-!
# Values of variables

Numbers and truth values as the bytes of a variable. Bytes that are missing count as zero, and bytes
that are too many do not count.
-/

namespace BootManager

/-- Values that a variable can hold. -/
class Storable (α : Type) where
  toBytes : α → Bytes
  ofBytes : Bytes → α
  /-- The value of a variable that is not there. -/
  missing : α

namespace Storable

/-- The number in the first `count` bytes. -/
def readNumber (count : Nat) (bytes : Bytes) : Nat :=
  (bytes.resize count).toNat

instance : Storable UInt8 where
  toBytes n := Bytes.ofNat 1 n.toNat
  ofBytes bytes := UInt8.ofNat (readNumber 1 bytes)
  missing := 0

instance : Storable UInt16 where
  toBytes n := Bytes.ofNat 2 n.toNat
  ofBytes bytes := UInt16.ofNat (readNumber 2 bytes)
  missing := 0

instance : Storable UInt32 where
  toBytes n := Bytes.ofNat 4 n.toNat
  ofBytes bytes := UInt32.ofNat (readNumber 4 bytes)
  missing := 0

instance : Storable UInt64 where
  toBytes n := Bytes.ofNat 8 n.toNat
  ofBytes bytes := UInt64.ofNat (readNumber 8 bytes)
  missing := 0

instance : Storable Bool where
  toBytes b := toBytes (if b then (1 : UInt8) else 0)
  ofBytes bytes := (ofBytes bytes : UInt8) != 0
  missing := false

end Storable

end BootManager
