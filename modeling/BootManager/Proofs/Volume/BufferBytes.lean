import BootManager.Volume.Buffer
import Mathlib.Algebra.Group.Nat.Defs

/-!
# What stands in a buffer, byte by byte

A number is at a place of a buffer exactly if its bytes stand there.
-/

namespace BootManager

/-! ## Numbers and bytes -/

namespace Bytes

theorem toNat_lt (bytes : Bytes) : toNat bytes < 256 ^ bytes.length := by
  induction bytes with
  | nil => simp [toNat]
  | cons b rest ih =>
    have byte := b.toNat_lt
    rw [toNat, List.length_cons, Nat.pow_succ]
    omega

theorem toNat_inj {a b : Bytes} (length : a.length = b.length) : toNat a = toNat b ↔ a = b := by
  induction a generalizing b with
  | nil =>
    obtain rfl : b = [] := List.length_eq_zero_iff.mp length.symm
    simp
  | cons x rest ih =>
    obtain ⟨y, others, rfl⟩ := List.exists_cons_of_length_eq_add_one length.symm
    have left := x.toNat_lt
    have right := y.toNat_lt
    have rests : toNat rest = toNat others ↔ rest = others := ih (by simpa using length)
    rw [toNat, toNat, List.cons.injEq, ← rests, ← UInt8.toNat_inj]
    omega

end Bytes

namespace Buffer

variable {buf : Array UInt8} {offset count n : Nat} {bytes : Bytes}

/-! ## Bytes at a place -/

/-- Some bytes stand at a place of a buffer. -/
def StandsAt (buf : Array UInt8) (offset : Nat) (bytes : Bytes) : Prop :=
  bytes <+: buf.toList.drop offset

instance : Decidable (StandsAt buf offset bytes) :=
  inferInstanceAs (Decidable (bytes <+: buf.toList.drop offset))

theorem StandsAt.le (stands : StandsAt buf offset bytes) (some : bytes ≠ []) :
    offset + bytes.length ≤ buf.size := by
  have fits : bytes.length ≤ buf.size - offset := by simpa using stands.length_le
  have long := List.length_pos_iff.mpr some
  omega

theorem standsAt_nil : StandsAt buf offset [] :=
  List.nil_prefix

theorem standsAt_cons {b : UInt8} :
    StandsAt buf offset (b :: bytes) ↔ buf[offset]? = some b ∧ StandsAt buf (offset + 1) bytes := by
  unfold StandsAt
  by_cases lt : offset < buf.size
  · have here : buf.toList.drop offset = buf[offset] :: buf.toList.drop (offset + 1) := by
      rw [← Array.getElem_toList lt]
      exact List.drop_eq_getElem_cons (by simpa using lt)
    rw [here, List.cons_prefix_cons, Array.getElem?_eq_getElem lt, Option.some_inj, eq_comm]
  · have past : buf.toList.drop offset = [] := List.drop_eq_nil_of_le (by simpa using lt)
    simp [past, lt]

theorem hasAt_iff_standsAt (some : bytes ≠ []) :
    hasAt buf offset bytes = true ↔ StandsAt buf offset bytes := by
  rw [hasAt_iff]
  refine and_iff_right_of_imp fun stands => ?_
  have fits := StandsAt.le stands some
  omega

theorem toList_extract :
    (buf.extract offset (offset + count)).toList = (buf.toList.drop offset).take count := by
  simp [Array.toList_extract, List.extract]

theorem length_of_slice? (found : slice? buf offset count = some bytes) :
    bytes.length = count := by
  unfold slice? at found
  split at found
  · obtain rfl := Option.some.inj found
    simp
    omega
  · cases found

/-- The bytes of a part of a buffer are those that stand at its place. -/
theorem slice?_eq_some_iff (some : bytes ≠ []) : slice? buf offset count = .some bytes ↔
    bytes.length = count ∧ StandsAt buf offset bytes := by
  constructor
  · intro found
    refine ⟨length_of_slice? found, ?_⟩
    unfold slice? at found
    split at found
    · rw [toList_extract] at found
      exact Option.some.inj found ▸ List.take_prefix _ _
    · cases found
  · rintro ⟨rfl, stands⟩
    rw [slice?, if_pos (stands.le some), toList_extract, ← List.prefix_iff_eq_take.mp stands]

/-! ## Numbers at a place -/

theorem lt_of_bigNumber? (found : bigNumber? buf offset count = some n) : n < 256 ^ count := by
  obtain ⟨bytes, slice, rfl⟩ := Option.map_eq_some_iff.mp found
  rw [← length_of_slice? slice, ← List.length_reverse]
  exact Bytes.toNat_lt bytes.reverse

theorem isSome_number? : (number? buf offset count).isSome = true ↔ offset + count ≤ buf.size := by
  unfold number? slice?
  split <;> simp_all

/-- A number stands at a place exactly if its bytes do. -/
theorem number?_eq_some_iff (bytes : Bytes) (some : bytes ≠ []) :
    number? buf offset bytes.length = .some (Bytes.toNat bytes) ↔ StandsAt buf offset bytes := by
  rw [number?, Option.map_eq_some_iff]
  constructor
  · rintro ⟨others, slice, same⟩
    obtain rfl := (Bytes.toNat_inj (length_of_slice? slice)).mp same
    exact ((slice?_eq_some_iff some).mp slice).2
  · exact fun stands => ⟨bytes, (slice?_eq_some_iff some).mpr ⟨rfl, stands⟩, rfl⟩

theorem hasBootSignature_iff : hasBootSignature buf = true ↔ StandsAt buf 510 [0x55, 0xAA] := by
  have mark : number? buf 510 2 = some 0xAA55 ↔ StandsAt buf 510 [0x55, 0xAA] :=
    number?_eq_some_iff [0x55, 0xAA] (by decide)
  rw [← mark, hasBootSignature, beq_iff_eq]

/-- A 32-bit number stands at a place of a buffer, its low byte first. -/
def WordStandsAt (buf : Array UInt8) (offset : Nat) (word : UInt32) : Prop :=
  ∃ a b c d : UInt8, StandsAt buf offset [a, b, c, d] ∧
    word.toNat = a.toNat + 256 * b.toNat + 65536 * c.toNat + 16777216 * d.toNat

theorem wordStandsAt_iff {word : UInt32} : WordStandsAt buf offset word ↔
    ∃ a b c d, StandsAt buf offset [a, b, c, d] ∧
      word = UInt32.ofNat (Bytes.toNat [a, b, c, d]) := by
  unfold WordStandsAt
  refine exists_congr fun a => exists_congr fun b => exists_congr fun c => exists_congr fun d =>
    and_congr_right' ?_
  have first := a.toNat_lt
  have second := b.toNat_lt
  have third := c.toNat_lt
  have fourth := d.toNat_lt
  rw [← UInt32.toNat_inj, UInt32.toNat_ofNat']
  simp only [Bytes.toNat]
  omega

end Buffer

end BootManager
