import BootManager.Bytes

/-!
# What stands in a buffer

Numbers and patterns at places of a buffer. What would reach past the end of the buffer is not
there.
-/

namespace BootManager.Buffer

/-- The bytes of a text of ASCII characters. -/
def ascii (s : String) : Bytes :=
  s.toList.map fun c => UInt8.ofNat c.toNat

/-- The bytes of a part of a buffer. -/
def slice? (buf : Array UInt8) (offset count : Nat) : Option Bytes :=
  if offset + count ≤ buf.size then some (buf.extract offset (offset + count)).toList else none

/-- The number in a part of a buffer, low byte first. -/
def number? (buf : Array UInt8) (offset count : Nat) : Option Nat :=
  (slice? buf offset count).map Bytes.toNat

/-- The number in a part of a buffer, high byte first. -/
def bigNumber? (buf : Array UInt8) (offset count : Nat) : Option Nat :=
  (slice? buf offset count).map fun bytes => Bytes.toNat bytes.reverse

/-- Whether a pattern stands at a place. -/
def hasAt (buf : Array UInt8) (offset : Nat) : Bytes → Bool
  | [] => offset ≤ buf.size
  | b :: rest => buf[offset]? == some b && hasAt buf (offset + 1) rest

/-- Whether a pattern stands somewhere in the first `limit` bytes, all of it. -/
def hasWithin (buf : Array UInt8) (limit : Nat) (pattern : Bytes) : Bool :=
  (List.range (min limit buf.size + 1 - pattern.length)).any fun offset => hasAt buf offset pattern

theorem hasAt_iff {buf : Array UInt8} {offset : Nat} {pattern : Bytes} :
    hasAt buf offset pattern = true ↔ offset ≤ buf.size ∧ pattern <+: buf.toList.drop offset := by
  induction pattern generalizing offset with
  | nil => simp [hasAt]
  | cons b rest ih =>
    rw [hasAt, Bool.and_eq_true, beq_iff_eq, ih]
    by_cases lt : offset < buf.size
    · have here : buf.toList.drop offset = buf[offset] :: buf.toList.drop (offset + 1) := by
        rw [← Array.getElem_toList lt]
        exact List.drop_eq_getElem_cons (by simpa using lt)
      rw [here, List.cons_prefix_cons, Array.getElem?_eq_getElem lt, Option.some_inj, eq_comm]
      constructor
      · rintro ⟨same, _, prefixed⟩
        exact ⟨by omega, same, prefixed⟩
      · rintro ⟨_, same, prefixed⟩
        exact ⟨same, by omega, prefixed⟩
    · have past : buf.toList.drop offset = [] := List.drop_eq_nil_of_le (by simpa using lt)
      simp [past, lt]

theorem hasWithin_iff {buf : Array UInt8} {limit : Nat} {pattern : Bytes} :
    hasWithin buf limit pattern = true ↔ pattern <:+: buf.toList.take limit := by
  rw [hasWithin, List.any_eq_true, List.infix_iff_prefix_suffix]
  constructor
  · rintro ⟨offset, member, there⟩
    obtain ⟨le, prefixed⟩ := hasAt_iff.mp there
    rw [List.mem_range] at member
    refine ⟨(buf.toList.take limit).drop offset, ?_, List.drop_suffix _ _⟩
    rw [List.drop_take, List.prefix_take_iff]
    exact ⟨prefixed, by omega⟩
  · rintro ⟨rest, prefixed, suffixed⟩
    have whole : buf.toList.length = buf.size := Array.length_toList
    have size := suffixed.length_le
    rw [List.suffix_iff_eq_drop.mp suffixed, List.drop_take, List.prefix_take_iff] at prefixed
    have fits := prefixed.1.length_le
    rw [List.length_drop] at fits
    rw [List.length_take] at size prefixed fits
    exact ⟨_, List.mem_range.mpr (by omega), hasAt_iff.mpr ⟨by omega, prefixed.1⟩⟩

/-- Whether the first sector of a buffer ends like a boot sector. -/
def hasBootSignature (buf : Array UInt8) : Bool :=
  number? buf 510 2 == some 0xAA55

end BootManager.Buffer
