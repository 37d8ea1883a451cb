import BootManager.Text.Blank
import BootManager.Text.Hexadecimal
import BootManager.Bytes

/-!
# Identifiers

A globally unique identifier is a 128-bit number. Its text has 32 hexadecimal digits, grouped 8, 4,
4, 4 and 12, the highest digit first. In memory the first three groups have their low byte first.
-/

namespace BootManager

/-- A globally unique identifier. -/
structure Guid where
  bits : BitVec 128
  deriving DecidableEq, Repr

namespace Guid

/-- Puts a dash after digits 8, 12, 16 and 20. -/
def group (digits : List Char) : List Char :=
  digits.take 8 ++ '-' :: (digits.drop 8).take 4 ++ '-' :: (digits.drop 12).take 4 ++
    '-' :: (digits.drop 16).take 4 ++ '-' :: digits.drop 20

/-- The text of an identifier, in small letters. -/
def toText (g : Guid) : String :=
  String.ofList (group (Text.toHexDigits 32 g.bits.toNat))

/-- Takes the dashes out of a text that has them in their places, and is 36 characters long. -/
def ungroup? (cs : List Char) : Option (List Char) :=
  if cs.length = 36 ∧ cs[8]? = some '-' ∧ cs[13]? = some '-' ∧ cs[18]? = some '-' ∧
      cs[23]? = some '-' then
    some (cs.take 8 ++ (cs.drop 9).take 4 ++ (cs.drop 14).take 4 ++ (cs.drop 19).take 4 ++
      cs.drop 24)
  else none

/-- Reads an identifier. Letters may be small or capital, and blanks around it do not count. -/
def ofText? (s : String) : Option Guid := do
  let digits ← ungroup? (Text.trim s.toList)
  let values ← Text.hexValues? digits
  pure ⟨BitVec.ofNat 128 (Text.ofHexDigits values)⟩

/-- The identifier stored in 16 bytes. -/
def ofBytes (bytes : Bytes) : Guid :=
  let part (start count : Nat) : Bytes := (bytes.drop start).take count
  let number (parts : Bytes) : Nat := Bytes.toNat parts.reverse
  ⟨BitVec.ofNat 128 (number ((part 0 4).reverse ++ (part 4 2).reverse ++ (part 6 2).reverse ++
    part 8 8))⟩

end Guid

end BootManager
