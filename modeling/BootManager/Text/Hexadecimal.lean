/-!
# Hexadecimal numbers

A hexadecimal word is an optional mark `0x` and at least one digit, with nothing after them.
-/

namespace BootManager.Text

/-- The value of a hexadecimal digit in either case. -/
def hexValue? (c : Char) : Option Nat :=
  if '0' ≤ c && c ≤ '9' then some (c.toNat - '0'.toNat)
  else if 'a' ≤ c && c ≤ 'f' then some (c.toNat - 'a'.toNat + 10)
  else if 'A' ≤ c && c ≤ 'F' then some (c.toNat - 'A'.toNat + 10)
  else none

/-- The values of hexadecimal digits, if there is nothing else in the text. -/
def hexValues? (cs : List Char) : Option (List Nat) :=
  cs.mapM hexValue?

/-- The number written by a list of hexadecimal digits. -/
def ofHexDigits (ds : List Nat) : Nat :=
  ds.foldl (fun n d => n * 16 + d) 0

/-- Drops the mark `0x` or `0X` that may stand before a hexadecimal number. -/
def dropHexMark : List Char → List Char
  | '0' :: 'x' :: rest => rest
  | '0' :: 'X' :: rest => rest
  | cs => cs

/-- The most digits of a hexadecimal number that count. -/
def hexDigitsRead : Nat := 8

/-- Reads a hexadecimal number. Digits after the eighth are checked but do not count. -/
def readHex? (s : String) : Option UInt32 :=
  match dropHexMark s.toList with
  | [] => none
  | digits => (hexValues? digits).map fun ds => UInt32.ofNat (ofHexDigits (ds.take hexDigitsRead))

/-- The small hexadecimal digit for a value below 16. -/
def hexDigit (n : Nat) : Char :=
  if n < 10 then Char.ofNat ('0'.toNat + n) else Char.ofNat ('a'.toNat + (n - 10))

/-- The lowest `count` hexadecimal digits of a number, the highest of them first. -/
def toHexDigits (count n : Nat) : List Char :=
  (List.range count).map fun i => hexDigit (n >>> (4 * (count - 1 - i)) % 16)

end BootManager.Text
