import BootManager.Text.Hexadecimal
import BootManager.Text.Hidden

/-!
# Quoted texts

Texts and characters between quotes, in which what would be mistaken for something else is escaped.
-/

namespace BootManager.Text

/-- The hexadecimal digits of a number, without zeros in front. -/
def hexDigits (n : Nat) : List Char :=
  match (toHexDigits 8 n).dropWhile (· == '0') with
  | [] => ['0']
  | digits => digits

/-- A character as it stands between quotes of one kind. -/
def escapeChar (quote c : Char) : List Char :=
  if c = '\x00' then ['\\', '0']
  else if c = '\t' then ['\\', 't']
  else if c = '\r' then ['\\', 'r']
  else if c = '\n' then ['\\', 'n']
  else if c = '\\' ∨ c = quote then ['\\', c]
  else if isHidden c then ['\\', 'u', '\x7b'] ++ hexDigits c.toNat ++ ['\x7d']
  else [c]

/-- A text between quotes. -/
def quoted (s : String) : String :=
  String.ofList ('"' :: s.toList.flatMap (escapeChar '"') ++ ['"'])

/-- A character between quotes. -/
def quotedChar (c : Char) : String :=
  String.ofList ('\x27' :: escapeChar '\x27' c ++ ['\x27'])

end BootManager.Text
