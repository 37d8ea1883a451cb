/-!
# Blank and control characters

`isBlank` is the Unicode property `White_Space` and `isControl` the general category `Cc`. Trimming
and splitting at blanks are stated on lists of characters.
-/

namespace BootManager.Text

/-- The ranges of code points with the property `White_Space`, in order. -/
def blankRanges : List (Nat × Nat) :=
  [(0x09, 0x0D), (0x20, 0x20), (0x85, 0x85), (0xA0, 0xA0), (0x1680, 0x1680), (0x2000, 0x200A),
    (0x2028, 0x2029), (0x202F, 0x202F), (0x205F, 0x205F), (0x3000, 0x3000)]

/-- Whether a character is white space. -/
def isBlank (c : Char) : Bool :=
  blankRanges.any fun r => r.1 ≤ c.toNat && c.toNat ≤ r.2

/-- Whether a character is a control character. -/
def isControl (c : Char) : Bool :=
  c.toNat < 0x20 || (0x7F ≤ c.toNat && c.toNat < 0xA0)

/-- Drops the characters at the end that satisfy `p`. -/
def dropTrailing {α : Type} (p : α → Bool) (cs : List α) : List α :=
  (cs.reverse.dropWhile p).reverse

/-- Drops blanks at both ends. -/
def trim (cs : List Char) : List Char :=
  dropTrailing isBlank (cs.dropWhile isBlank)

/-- Cuts a list at every element that satisfies `p`, which is dropped. There is one piece more than
there are cuts. -/
def pieces {α : Type} (p : α → Bool) : List α → List (List α)
  | [] => [[]]
  | c :: rest =>
    if p c then [] :: pieces p rest
    else
      match pieces p rest with
      | [] => [[c]]
      | piece :: more => (c :: piece) :: more

/-- The maximal non-empty runs of elements that do not satisfy `p`, in order. -/
def runs {α : Type} (p : α → Bool) (cs : List α) : List (List α) :=
  (pieces p cs).filter fun piece => !piece.isEmpty

/-- The words of a text: its maximal runs of characters that are not blank. -/
def words (s : String) : List String :=
  (runs isBlank s.toList).map String.ofList

theorem length_dropWhile_le {α : Type} (p : α → Bool) (cs : List α) :
    (cs.dropWhile p).length ≤ cs.length :=
  (List.dropWhile_sublist p).length_le

end BootManager.Text
