import BootManager.Format
import Mathlib.Algebra.Group.Int.Defs
import Mathlib.Algebra.Group.Nat.Defs

/-!
# Formats that lose nothing

Every way of putting formats together keeps them lossless. The length of a list is written before
it in at most 64 bits, so lists and texts are lossless up to a limit only: a format is
`LosslessBelow` a limit if every value that is written in fewer bytes is read back, whatever comes
after it. The limit passes from a format to its parts, which are written in fewer bytes still.
-/

namespace BootManager.Format

variable {α β κ : Type}

/-- Reading finds a value that was written, and stops at its end. -/
def Reads (f : Format α) (a : α) : Prop :=
  ∀ rest, f.decode (f.encode a ++ rest) = some (a, rest)

/-- Reading finds every value that was written in fewer bytes than `limit`. -/
def LosslessBelow (limit : Nat) (f : Format α) : Prop :=
  ∀ a, (f.encode a).length < limit → f.Reads a

theorem Lossless.below {f : Format α} (h : f.Lossless) (limit : Nat) : f.LosslessBelow limit :=
  fun a _ => h a

/-! ## Numbers -/

theorem writeVarint_ne_nil (n : Nat) : writeVarint n ≠ [] := by
  rw [writeVarint]
  split <;> simp

private theorem ofNat_lt_128 {n : Nat} (small : n < 128) : UInt8.ofNat n < 128 := by
  rw [UInt8.lt_iff_toNat_lt, UInt8.toNat_ofNat', Nat.mod_eq_of_lt (by omega)]
  exact small

private theorem not_ofNat_lt_128 {n : Nat} (large : 128 ≤ n) (byte : n < 256) :
    ¬ UInt8.ofNat n < 128 := by
  rw [UInt8.lt_iff_toNat_lt, UInt8.toNat_ofNat', Nat.mod_eq_of_lt (by omega)]
  exact Nat.not_lt.mpr large

theorem readVarint_writeVarint {count n : Nat} (fits : n < 128 ^ (count + 1)) (rest : Bytes) :
    readVarint (count + 1) (writeVarint n ++ rest) = some (n, rest) := by
  induction count generalizing n with
  | zero =>
    have small : n < 128 := by simpa using fits
    rw [writeVarint, if_pos small]
    simp [readVarint, ofNat_lt_128 small]
    omega
  | succ count ih =>
    rw [writeVarint]
    by_cases small : n < 128
    · simp [if_pos small, readVarint, ofNat_lt_128 small]
      omega
    · have high := not_ofNat_lt_128 (n := n % 128 + 128) (by omega) (by omega)
      have quotient : n / 128 < 128 ^ (count + 1) := by
        rw [Nat.pow_succ] at fits
        omega
      rw [if_neg small, List.cons_append, readVarint, if_neg high, ih quotient]
      simp
      omega

/-- A number below `2 ^ width` fits into the bytes that are read of it. -/
theorem reads_varint {width n : Nat} (positive : 0 < width) (fits : n < 2 ^ width) :
    (varint width).Reads n := by
  intro rest
  have enough : n < 128 ^ ((width + 6) / 7) := by
    have power : (128 : Nat) ^ ((width + 6) / 7) = 2 ^ (7 * ((width + 6) / 7)) := by
      rw [Nat.pow_mul]
    rw [power]
    exact Nat.lt_of_lt_of_le fits (Nat.pow_le_pow_right (by decide) (by omega))
  obtain ⟨count, succ⟩ : ∃ count, (width + 6) / 7 = count + 1 := ⟨(width + 6) / 7 - 1, by omega⟩
  rw [succ] at enough
  simp only [varint, succ, readVarint_writeVarint enough]
  simp [Option.filter, Nat.one_shiftLeft, fits]

/-! ## Ways of putting formats together -/

theorem Reads.refine {f : Format α} {of : α → Option β} (raw : β → α) {b : β}
    (h : f.Reads (raw b)) (back : of (raw b) = some b) : (f.refine of raw).Reads b := by
  intro rest
  simp [Format.refine, h rest, back]

theorem Reads.convert {f : Format α} {of : α → β} (raw : β → α) {b : β}
    (h : f.Reads (raw b)) (back : of (raw b) = b) : (f.convert of raw).Reads b :=
  h.refine raw (congrArg some back)

theorem Lossless.convert {f : Format α} (h : f.Lossless) {of : α → β} {raw : β → α}
    (back : ∀ b, of (raw b) = b) : (f.convert of raw).Lossless :=
  h.refine fun b => congrArg some (back b)

theorem LosslessBelow.refine {limit : Nat} {f : Format α} (h : f.LosslessBelow limit)
    {of : α → Option β} {raw : β → α} (back : ∀ b, of (raw b) = some b) :
    (f.refine of raw).LosslessBelow limit :=
  fun b short => (h (raw b) short).refine raw (back b)

theorem LosslessBelow.convert {limit : Nat} {f : Format α} (h : f.LosslessBelow limit)
    {of : α → β} {raw : β → α} (back : ∀ b, of (raw b) = b) :
    (f.convert of raw).LosslessBelow limit :=
  h.refine fun b => congrArg some (back b)

theorem LosslessBelow.pair {limit : Nat} {f : Format α} {g : Format β} (hf : f.LosslessBelow limit)
    (hg : g.LosslessBelow limit) : (f.pair g).LosslessBelow limit := by
  rintro ⟨a, b⟩ short rest
  simp only [Format.pair, List.length_append] at short
  have first := hf a (by omega) (g.encode b ++ rest)
  have second := hg b (by omega) rest
  simp [Format.pair, List.append_assoc, first, second]

theorem bool_lossless : bool.Lossless := by
  have byte_lossless : byte.Lossless := fun _ _ => rfl
  refine byte_lossless.refine fun b => ?_
  cases b <;> rfl

theorem LosslessBelow.option {limit : Nat} {f : Format α} (h : f.LosslessBelow limit) :
    f.option.LosslessBelow limit := by
  intro a short rest
  cases a with
  | none =>
    have absent := bool_lossless false rest
    simp [Format.option, absent]
  | some a =>
    simp only [Format.option, List.length_append] at short
    have present := bool_lossless true (f.encode a ++ rest)
    have value := h a (by omega) rest
    simp [Format.option, List.append_assoc, present, value]

theorem decodeMany_encodeAll {f : Format α} {as : List α} (h : ∀ a ∈ as, f.Reads a)
    (rest : Bytes) : f.decodeMany as.length (f.encodeAll as ++ rest) = some (as, rest) := by
  induction as with
  | nil => rfl
  | cons a as ih =>
    have first := h a (List.mem_cons_self ..) (f.encodeAll as ++ rest)
    have others := ih fun b member => h b (List.mem_cons_of_mem a member)
    have whole : f.encodeAll (a :: as) ++ rest = f.encode a ++ (f.encodeAll as ++ rest) := by
      simp [encodeAll, List.append_assoc]
    rw [whole, List.length_cons, decodeMany, first]
    simp [others]

theorem length_encode_le_of_mem (f : Format α) {as : List α} {a : α} (member : a ∈ as) :
    (f.encode a).length ≤ (f.encodeAll as).length := by
  induction as with
  | nil => cases member
  | cons b as ih =>
    have whole :
        (f.encodeAll (b :: as)).length = (f.encode b).length + (f.encodeAll as).length := by
      simp [encodeAll]
    cases member with
    | head => omega
    | tail _ member =>
      have := ih member
      omega

/-- A list whose elements all take up room is not longer than its bytes. -/
theorem length_le_length_encodeAll {f : Format α} (room : ∀ a, f.encode a ≠ []) (as : List α) :
    as.length ≤ (f.encodeAll as).length := by
  induction as with
  | nil => exact Nat.le_refl 0
  | cons a as ih =>
    have some := List.length_pos_iff.mpr (room a)
    have whole :
        (f.encodeAll (a :: as)).length = (f.encode a).length + (f.encodeAll as).length := by
      simp [encodeAll]
    rw [whole, List.length_cons]
    omega

theorem Reads.list {f : Format α} {as : List α} (short : as.length < 2 ^ 64)
    (h : ∀ a ∈ as, f.Reads a) : f.list.Reads as := by
  intro rest
  have length : (varint 64).decode (writeVarint as.length ++ (f.encodeAll as ++ rest)) =
      some (as.length, f.encodeAll as ++ rest) :=
    reads_varint (by decide) short _
  simp [Format.list, List.append_assoc, length, decodeMany_encodeAll h]

theorem LosslessBelow.list {limit : Nat} {f : Format α} (h : f.LosslessBelow limit)
    (bound : limit ≤ 2 ^ 64) (room : ∀ a, f.encode a ≠ []) : f.list.LosslessBelow limit := by
  intro as short
  simp only [Format.list, List.length_append] at short
  have length := length_le_length_encodeAll room as
  refine Reads.list (by omega) fun a member => h a ?_
  have part := length_encode_le_of_mem f member
  omega

theorem LosslessBelow.vector {limit : Nat} {f : Format α} (h : f.LosslessBelow limit) (n : Nat) :
    (f.vector n).LosslessBelow limit := by
  intro v short rest
  have elements : ∀ a ∈ v.toList, f.Reads a := by
    intro a member
    have part := length_encode_le_of_mem f member
    exact h a (Nat.lt_of_le_of_lt part short)
  have many := decodeMany_encodeAll elements rest
  rw [Vector.length_toList] at many
  simp only [Format.vector, many, Option.bind_some, Vector.length_toList, dite_true]
  congr 2

/-! ## Words, texts and choices -/

theorem uint32_lossless : uint32.Lossless := by
  intro n
  refine (reads_varint (by decide) n.toNat_lt).convert UInt32.toNat ?_
  simp

theorem ofZigzag_toZigzag (i : Int) : ofZigzag (toZigzag i) = i := by
  unfold ofZigzag toZigzag
  split <;> split <;> omega

theorem toZigzag_lt {i : Int} (low : -2 ^ 31 ≤ i) (high : i < 2 ^ 31) : toZigzag i < 2 ^ 32 := by
  unfold toZigzag
  split <;> omega

theorem int32_lossless : int32.Lossless := by
  intro i
  have word := toZigzag_lt i.le_toInt i.toInt_lt
  have back : Int32.ofInt (ofZigzag (toZigzag i.toInt)) = i := by
    rw [ofZigzag_toZigzag, Int32.ofInt_toInt]
  exact (reads_varint (by decide) word).convert (fun i : Int32 => toZigzag i.toInt) back

theorem list_byte_losslessBelow {limit : Nat} (bound : limit ≤ 2 ^ 64) :
    byte.list.LosslessBelow limit := by
  have byte_lossless : byte.Lossless := fun _ _ => rfl
  exact (byte_lossless.below limit).list bound fun _ => by simp [byte]

theorem ofUtf8?_utf8 (s : String) : ofUtf8? (utf8 s) = some s := by
  have bytes : (⟨(utf8 s).toArray⟩ : ByteArray) = s.toByteArray := by
    simp [utf8]
  rw [ofUtf8?, bytes, String.fromUTF8?, dif_pos s.isValidUTF8]
  rfl

theorem text_losslessBelow {limit : Nat} (bound : limit ≤ 2 ^ 64) : text.LosslessBelow limit :=
  (list_byte_losslessBelow bound).refine ofUtf8?_utf8

theorem char_lossless : char.Lossless := by
  intro c
  have size : (utf8 (String.singleton c)).length = c.utf8Size := by
    simp [utf8, List.utf8Encode_singleton]
  have short := c.utf8Size_le_four
  have bytes : byte.list.Reads (utf8 (String.singleton c)) :=
    Reads.list (by omega) fun b _ => fun _ => rfl
  refine bytes.refine (fun c => utf8 (String.singleton c)) ?_
  rw [if_pos (by rw [size]; exact short), ofUtf8?_utf8]
  simp

theorem choice_lossless [BEq α] [LawfulBEq α] {all : List α} (few : all.length < 2 ^ 32)
    (every : ∀ a, a ∈ all) : (choice all).Lossless := by
  intro a
  have place : all.findIdx (· == a) < all.length := by
    rw [List.findIdx_lt_length]
    exact ⟨a, every a, beq_self_eq_true a⟩
  have found : all[all.findIdx (· == a)]? = some a := by
    rw [List.getElem?_eq_getElem place]
    have same := List.findIdx_getElem (w := place)
    exact congrArg some (eq_of_beq same)
  exact (reads_varint (by decide) (by omega)).refine (fun a => all.findIdx (· == a)) found

end BootManager.Format
