import BootManager.Proofs.Config.Reading
import BootManager.Proofs.Text.Utf16

/-!
# Texts as files

A text can be stored in several encodings, with a mark or without. The main result is
`ofBytes_encodingLaw`: a file holds the text that was stored in it, as long as all of it counts and
its first bytes are not mistaken for something else. Plain text is read alike from all encodings.
-/

namespace BootManager.Config

namespace Encoding

/-- A text in one byte per character. -/
def plain (s : String) : Bytes :=
  s.toList.map fun c => UInt8.ofNat c.toNat

/-- A text in UTF-16, low byte first. -/
def wide (s : String) : Bytes :=
  Text.Utf16.bytesOfUnits (Text.Utf16.encode s.toList)

/-- The mark of UTF-8. -/
def utf8Mark : Bytes := [0xEF, 0xBB, 0xBF]

/-- The mark of UTF-16, low byte first. -/
def utf16Mark : Bytes := [0xFF, 0xFE]

/-- The files that a plain text may be stored in. -/
def forms (s : String) : List Bytes :=
  [plain s, utf8Mark ++ plain s, wide s, utf16Mark ++ wide s]

/-- A text of characters that are one byte each. -/
def IsNarrow (s : String) : Prop :=
  ∀ c ∈ s.toList, c.toNat ≤ 0xFF

instance (s : String) : Decidable (IsNarrow s) :=
  List.decidableBAll (fun c : Char => c.toNat ≤ 0xFF) s.toList

/-- A text of ASCII characters without zeros. -/
def IsAscii (s : String) : Prop :=
  ∀ c ∈ s.toList, 0 < c.toNat ∧ c.toNat < 0x80

instance (s : String) : Decidable (IsAscii s) :=
  List.decidableBAll (fun c : Char => 0 < c.toNat ∧ c.toNat < 0x80) s.toList

theorem IsAscii.isNarrow {s : String} (ascii : IsAscii s) : IsNarrow s := by
  intro c member
  have := ascii c member
  omega

theorem IsAscii.fits {s : String} (ascii : IsAscii s) : ∀ c ∈ s.toList, c.toNat < 0x10000 := by
  intro c member
  have := ascii c member
  omega

/-- A file starts with bytes that tell its encoding. -/
inductive IsTold : Bytes → Prop where
  /-- The mark of UTF-16, and room for one more unit. -/
  | utf16 (low high : UInt8) (rest : Bytes) : IsTold (0xFF :: 0xFE :: low :: high :: rest)
  /-- The mark of UTF-8, and one more byte. -/
  | utf8 (b : UInt8) (rest : Bytes) : IsTold (0xEF :: 0xBB :: 0xBF :: b :: rest)
  /-- Two units with a high byte of zero. -/
  | zeros (low low' : UInt8) (rest : Bytes) : IsTold (low :: 0 :: low' :: 0 :: rest)

/-! ## Detection -/

theorem detect_zeros (low low' : UInt8) (rest : Bytes) :
    detect (low :: 0 :: low' :: 0 :: rest) = (utf16, 0) := by
  simp [detect]

/-- What is not told is read one byte per character. -/
theorem isTold_iff {bytes : Bytes} : IsTold bytes ↔ detect bytes ≠ (latin1, 0) := by
  constructor
  · intro told
    cases told with
    | utf16 | utf8 => simp [detect]
    | zeros low low' rest => rw [detect_zeros]; decide
  · intro other
    unfold detect at other
    split at other
    next => exact .utf16 ..
    next => exact .utf8 ..
    next => exact .zeros ..
    next => exact absurd rfl other

instance (bytes : Bytes) : Decidable (IsTold bytes) :=
  decidable_of_iff _ isTold_iff.symm

end Encoding

namespace TextFile

open Encoding

variable {s : String}

theorem ofBytes_of_detect {bytes : Bytes} {encoding : Encoding} {skip : Nat}
    (small : bytes.length ≤ sizeLimit) (detected : detect bytes = (encoding, skip)) :
    ofBytes bytes = ⟨encoding, encoding.decode (bytes.drop skip)⟩ := by
  rw [ofBytes, List.take_of_length_le small, detected]

/-! ## Encodings -/

theorem decode_plain (narrow : IsNarrow s) :
    (plain s).map (fun b => Char.ofNat b.toNat) = s.toList := by
  rw [plain, List.map_map]
  conv => rhs; rw [← List.map_id s.toList]
  refine List.map_congr_left fun c member => ?_
  have fits : c.toNat < 256 := Nat.lt_succ_of_le (narrow c member)
  rw [Function.comp_apply, UInt8.toNat_ofNat', Nat.mod_eq_of_lt fits, Char.ofNat_toNat]
  rfl

theorem decode_wide (s : String) : utf16.decode (wide s) = s.toList := by
  rw [wide, decode, Text.Utf16.unitsOfBytes_bytesOfUnits, Text.Utf16.decode_encode]

theorem length_plain (s : String) : (plain s).length = s.length := by
  rw [plain, List.length_map, String.length_toList]

theorem length_wide (s : String) :
    (wide s).length = 2 * (Text.Utf16.encode s.toList).length :=
  Text.Utf16.length_bytesOfUnits _

theorem ofBytes_utf16Mark (nonempty : s ≠ "")
    (small : (Text.Utf16.encode s.toList).length ≤ 0xFFFF) :
    ofBytes (utf16Mark ++ wide s) = ⟨.utf16, s.toList⟩ := by
  have units : Text.Utf16.encode s.toList ≠ [] :=
    Text.Utf16.encode_ne_nil (mt String.toList_eq_nil_iff.mp nonempty)
  have size : (utf16Mark ++ wide s).length ≤ sizeLimit := by
    simp only [List.length_append, length_wide, utf16Mark, sizeLimit, List.length_cons,
      List.length_nil]
    omega
  have detected : detect (utf16Mark ++ wide s) = (utf16, 2) := by
    obtain ⟨u, rest, found⟩ := List.exists_cons_of_ne_nil units
    rw [wide, found]
    rfl
  rw [ofBytes_of_detect size detected, show (utf16Mark ++ wide s).drop 2 = wide s from rfl,
    decode_wide]

theorem ofBytes_plain (narrow : IsNarrow s) (small : (plain s).length ≤ sizeLimit)
    (untold : ¬IsTold (plain s)) : ofBytes (plain s) = ⟨.latin1, s.toList⟩ := by
  rw [ofBytes_of_detect small (Decidable.not_not.mp (mt isTold_iff.mpr untold)), List.drop_zero]
  exact congrArg (TextFile.mk latin1) (decode_plain narrow)

theorem ofBytes_utf8Mark (narrow : IsNarrow s) (nonempty : s ≠ "")
    (small : (utf8Mark ++ plain s).length ≤ sizeLimit) :
    ofBytes (utf8Mark ++ plain s) = ⟨.utf8, s.toList⟩ := by
  have more : plain s ≠ [] := mt List.map_eq_nil_iff.mp (mt String.toList_eq_nil_iff.mp nonempty)
  have detected : detect (utf8Mark ++ plain s) = (utf8, 3) := by
    obtain ⟨b, rest, found⟩ := List.exists_cons_of_ne_nil more
    rw [found]
    rfl
  rw [ofBytes_of_detect small detected]
  exact congrArg (TextFile.mk utf8) (decode_plain narrow)

/-! ## Plain text -/

theorem not_isTold_of_isAscii (ascii : IsAscii s) : ¬IsTold (plain s) := by
  have bytes : ∀ b ∈ plain s, 0 < b.toNat ∧ b.toNat < 0x80 := by
    intro b member
    obtain ⟨c, inside, rfl⟩ := List.mem_map.mp member
    have := ascii c inside
    rw [UInt8.toNat_ofNat', Nat.mod_eq_of_lt (by omega)]
    exact this
  intro told
  generalize plain s = file at told bytes
  cases told with
  | utf16 low high rest => exact absurd (bytes 0xFF (by simp)).2 (by decide)
  | utf8 b rest => exact absurd (bytes 0xEF (by simp)).2 (by decide)
  | zeros low low' rest => exact absurd (bytes 0 (by simp)).1 (by decide)

theorem detect_wide_of_isAscii (ascii : IsAscii s) (two : 2 ≤ s.length) :
    detect (wide s) = (utf16, 0) := by
  -- The first two units have the high bytes of zero that detection looks for.
  have high : ∀ c ∈ s.toList, (UInt16.ofNat c.toNat >>> 8).toUInt8 = 0 := by
    intro c member
    have := ascii c member
    refine Text.Utf16.high_of_small ?_
    rw [Text.Utf16.toNat_ofNat_of_lt (ascii.fits c member)]
    omega
  rw [wide, Text.Utf16.encode_of_narrow ascii.fits]
  rw [← String.length_toList] at two
  match s.toList, two, high with
  | c :: d :: rest, _, high =>
    simp only [List.map_cons, Text.Utf16.bytesOfUnits, List.flatMap_cons, List.cons_append,
      List.nil_append, high c (by simp), high d (by simp)]
    exact detect_zeros ..

theorem ofBytes_wide (ascii : IsAscii s) (two : 2 ≤ s.length)
    (small : (wide s).length ≤ sizeLimit) : ofBytes (wide s) = ⟨.utf16, s.toList⟩ := by
  rw [ofBytes_of_detect small (detect_wide_of_isAscii ascii two), List.drop_zero, decode_wide]

/-- Plain text is read from any of its files. -/
theorem rest_ofBytes_of_isAscii (ascii : IsAscii s) (two : 2 ≤ s.length)
    (small : s.length ≤ 0xFFFF) {bytes : Bytes} (form : bytes ∈ forms s) :
    (ofBytes bytes).rest = s.toList := by
  have narrow := ascii.isNarrow
  have nonempty : s ≠ "" := by
    rintro rfl
    exact absurd two (by decide)
  have units : (Text.Utf16.encode s.toList).length = s.length := by
    rw [Text.Utf16.encode_of_narrow ascii.fits, List.length_map, String.length_toList]
  -- The longest file, which has a mark and two bytes per character, just fits.
  have sizes : (plain s).length ≤ sizeLimit ∧ (utf8Mark ++ plain s).length ≤ sizeLimit ∧
      (wide s).length ≤ sizeLimit := by
    simp only [List.length_append, length_plain, length_wide, units, sizeLimit, utf8Mark,
      List.length_cons, List.length_nil]
    omega
  obtain ⟨sizePlain, sizeMarked, sizeWide⟩ := sizes
  simp only [forms, List.mem_cons, List.not_mem_nil, or_false] at form
  rcases form with rfl | rfl | rfl | rfl
  · rw [ofBytes_plain narrow sizePlain (not_isTold_of_isAscii ascii)]
  · rw [ofBytes_utf8Mark narrow nonempty sizeMarked]
  · rw [ofBytes_wide ascii two sizeWide]
  · rw [ofBytes_utf16Mark nonempty (by omega)]

/-! ## Any text -/

/-- How a text is read from the files that it may be stored in. -/
structure EncodingLaw (s : String) : Prop where
  /-- Any text that is marked as UTF-16 is read as it is. -/
  marked : s ≠ "" → (Text.Utf16.encode s.toList).length ≤ 0xFFFF →
    ofBytes (utf16Mark ++ wide s) = ⟨.utf16, s.toList⟩
  /-- So is a text of one byte per character, if it does not start like another encoding. -/
  unmarked : IsNarrow s → (plain s).length ≤ sizeLimit → ¬IsTold (plain s) →
    ofBytes (plain s) = ⟨.latin1, s.toList⟩
  /-- Plain text is the same in all files, and every call on them is answered alike. -/
  alike : IsAscii s → 2 ≤ s.length → s.length ≤ 0xFFFF → ∀ bytes ∈ forms s,
    (ofBytes bytes).rest = s.toList ∧
      (ofBytes bytes).wordLines = (ofBytes (plain s)).wordLines ∧
      ∀ calls, answers calls (ofBytes bytes) = expectedAnswers calls (lines s.toList)

/-- A file holds the text that was stored in it. -/
theorem ofBytes_encodingLaw (s : String) : EncodingLaw s where
  marked := ofBytes_utf16Mark
  unmarked := ofBytes_plain
  alike ascii two small bytes form := by
    have rest := rest_ofBytes_of_isAscii ascii two small form
    have rest' : (ofBytes (plain s)).rest = s.toList :=
      rest_ofBytes_of_isAscii ascii two small List.mem_cons_self
    refine ⟨rest, ?_, fun calls => ?_⟩
    · rw [wordLines, wordLines, rest, rest']
    · rw [answers_eq, rest]

/-- A comment with a character outside of the first plane, one with a character outside of ASCII,
and a directive. -/
theorem threeTexts_ofBytes :
    ofBytes (utf16Mark ++ wide "# 💾\n") = ⟨.utf16, "# 💾\n".toList⟩ ∧
      ofBytes (plain "# Größe\n") = ⟨.latin1, "# Größe\n".toList⟩ ∧
      ∀ bytes ∈ forms "timeout 5", (ofBytes bytes).rest = "timeout 5".toList := by
  have marked := (ofBytes_encodingLaw "# 💾\n").marked (by decide) (by decide)
  have unmarked := (ofBytes_encodingLaw "# Größe\n").unmarked (by decide) (by decide) (by decide)
  have alike := (ofBytes_encodingLaw "timeout 5").alike (by decide) (by decide) (by decide)
  exact ⟨marked, unmarked, fun bytes form => (alike bytes form).1⟩

end TextFile

end BootManager.Config
