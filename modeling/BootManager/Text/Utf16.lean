/-!
# UTF-16

Code units to characters and back. A surrogate without its partner is read as the replacement
character, one for each such unit.
-/

namespace BootManager.Text.Utf16

/-- Whether a code unit is the first half of a pair. -/
def isHigh (u : UInt16) : Bool :=
  0xD800 ≤ u && u < 0xDC00

/-- Whether a code unit is the second half of a pair. -/
def isLow (u : UInt16) : Bool :=
  0xDC00 ≤ u && u < 0xE000

/-- The character that a pair of surrogates stands for. -/
def combine (high low : UInt16) : Char :=
  Char.ofNat (0x10000 + (high.toNat - 0xD800) * 0x400 + (low.toNat - 0xDC00))

/-- The character read for a lone surrogate. -/
def replacement : Char := '\uFFFD'

/-- The characters of a sequence of code units. -/
def decode : List UInt16 → List Char
  | [] => []
  | [u] => [if isHigh u || isLow u then replacement else Char.ofNat u.toNat]
  | u :: v :: rest =>
    if isHigh u then
      if isLow v then combine u v :: decode rest else replacement :: decode (v :: rest)
    else if isLow u then replacement :: decode (v :: rest)
    else Char.ofNat u.toNat :: decode (v :: rest)

/-- The code units of a character. -/
def encodeChar (c : Char) : List UInt16 :=
  if c.toNat < 0x10000 then [UInt16.ofNat c.toNat]
  else
    [UInt16.ofNat (0xD800 + (c.toNat - 0x10000) / 0x400),
      UInt16.ofNat (0xDC00 + (c.toNat - 0x10000) % 0x400)]

/-- The code units of a text. -/
def encode (cs : List Char) : List UInt16 :=
  cs.flatMap encodeChar

/-- The code units of a byte sequence, low byte first. An odd byte at the end is dropped. -/
def unitsOfBytes : List UInt8 → List UInt16
  | low :: high :: rest => (low.toUInt16 ||| (high.toUInt16 <<< 8)) :: unitsOfBytes rest
  | _ => []

/-- The bytes of a sequence of code units, low byte first. -/
def bytesOfUnits (units : List UInt16) : List UInt8 :=
  units.flatMap fun (u : UInt16) => [u.toUInt8, (u >>> 8).toUInt8]

end BootManager.Text.Utf16
