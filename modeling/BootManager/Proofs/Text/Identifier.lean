import BootManager.Guid
import BootManager.Proofs.Text.Hexadecimal
import BootManager.Proofs.Text.Trim
import BootManager.Text.Ascii

/-!
# Texts of identifiers

An identifier is read from every text that differs from its own at most in the case of letters and
in the blanks around it, and from no other text (`Guid.ofText?_eq_some_iff`).
-/

namespace BootManager.Guid

open Text

/-- A text is that of an identifier, in any letter case and with or without blanks around it. -/
def IsTextOf (s : String) (g : Guid) : Prop :=
  sameIgnoringCase (String.ofList (trim s.toList)) g.toText = true

/-! ## Dashes -/

theorem group_append {a b c d e : List Char} (lengthA : a.length = 8) (lengthB : b.length = 4)
    (lengthC : c.length = 4) (lengthD : d.length = 4) :
    group (a ++ (b ++ (c ++ (d ++ e)))) =
      a ++ '-' :: (b ++ '-' :: (c ++ '-' :: (d ++ '-' :: e))) := by
  simp [group, List.drop_append, List.drop_of_length_le, lengthA, lengthB, lengthC, lengthD]

theorem ungroup?_dashes {a b c d e : List Char} (lengthA : a.length = 8) (lengthB : b.length = 4)
    (lengthC : c.length = 4) (lengthD : d.length = 4) (lengthE : e.length = 12) :
    ungroup? (a ++ '-' :: (b ++ '-' :: (c ++ '-' :: (d ++ '-' :: e)))) =
      some (a ++ (b ++ (c ++ (d ++ e)))) := by
  simp [ungroup?, List.drop_append, List.drop_of_length_le, lengthA, lengthB, lengthC, lengthD,
    lengthE]

theorem drop_of_getElem? {cs : List Char} {i : Nat} {c : Char} (there : cs[i]? = some c) :
    cs.drop i = c :: cs.drop (i + 1) := by
  obtain ⟨inside, rfl⟩ := List.getElem?_eq_some_iff.mp there
  exact List.drop_eq_getElem_cons inside

/-- Digits are cut out of a text exactly if it is these digits with dashes in their places. -/
theorem ungroup?_eq_some_iff {cs digits : List Char} :
    ungroup? cs = some digits ↔ digits.length = 32 ∧ cs = group digits := by
  constructor
  · intro cut
    unfold ungroup? at cut
    split at cut
    next dashes =>
      obtain ⟨length, first, second, third, last⟩ := dashes
      obtain rfl := Option.some.inj cut
      refine ⟨by simp [length], ?_⟩
      have parts := group_append (a := cs.take 8) (b := (cs.drop 9).take 4)
        (c := (cs.drop 14).take 4) (d := (cs.drop 19).take 4) (e := cs.drop 24)
        (by simp [length]) (by simp [length]) (by simp [length]) (by simp [length])
      -- A text is its start, a dash, and what comes after that.
      have cutAt {start : Nat} (dash : cs[start + 4]? = some '-') :
          cs.drop start = (cs.drop start).take 4 ++ '-' :: cs.drop (start + 5) := by
        conv => lhs; rw [← List.take_append_drop 4 (cs.drop start), List.drop_drop,
          drop_of_getElem? dash]
      simp only [List.append_assoc]
      rw [parts, ← cutAt last, ← cutAt third, ← cutAt second, ← drop_of_getElem? first,
        List.take_append_drop]
    next => cases cut
  · rintro ⟨length, rfl⟩
    have whole : digits = digits.take 8 ++ ((digits.drop 8).take 4 ++ ((digits.drop 12).take 4 ++
        ((digits.drop 16).take 4 ++ digits.drop 20))) := by
      have cutAt (start : Nat) :
          (digits.drop start).take 4 ++ digits.drop (start + 4) = digits.drop start := by
        rw [← List.drop_drop, List.take_append_drop]
      rw [cutAt 16, cutAt 12, cutAt 8, List.take_append_drop]
    rw [whole, group_append, ungroup?_dashes]
    all_goals simp [length]

theorem map_toLower_group (digits : List Char) :
    (group digits).map Char.toLower = group (digits.map Char.toLower) := by
  simp [group]

/-- Dashes stand in the same places whatever the case of the letters is. -/
theorem ungroup?_map_toLower (cs : List Char) :
    ungroup? (cs.map Char.toLower) = (ungroup? cs).map (List.map Char.toLower) := by
  have dash (i : Nat) : (cs.map Char.toLower)[i]? = some '-' ↔ cs[i]? = some '-' := by
    simp [toLower_eq_dash_iff]
  simp only [ungroup?, List.length_map, dash]
  split
  · simp
  · rfl

/-! ## The text of an identifier -/

/-- The digits of an identifier. -/
theorem exists_digits (g : Guid) : ∃ digits, digits.length = 32 ∧ (∀ value ∈ digits, value < 16) ∧
    hexNumber digits = g.bits.toNat ∧ g.toText.toList = group (digits.map hexDigit) := by
  have small : g.bits.toNat < 16 ^ 32 := g.bits.isLt
  obtain ⟨digits, length, inside, number⟩ := exists_hexNumber small
  refine ⟨digits, length, inside, number, ?_⟩
  rw [toText, String.toList_ofList, ← number, ← length, toHexDigits_hexNumber inside]

/-- An identifier is told by its digits. -/
theorem toText_of_digits {digits : List Nat} (length : digits.length = 32)
    (small : ∀ value ∈ digits, value < 16) :
    (toText ⟨BitVec.ofNat 128 (hexNumber digits)⟩).toList = group (digits.map hexDigit) := by
  have fits : hexNumber digits < 2 ^ 128 :=
    calc hexNumber digits < 16 ^ digits.length := hexNumber_lt small
      _ = 2 ^ 128 := by rw [length]; decide
  rw [toText, String.toList_ofList, BitVec.toNat_ofNat, Nat.mod_eq_of_lt fits, ← length,
    toHexDigits_hexNumber small]

theorem lower_toText (g : Guid) : lower g.toText = g.toText := by
  obtain ⟨digits, -, small, -, text⟩ := g.exists_digits
  have plain : (digits.map hexDigit).map Char.toLower = digits.map hexDigit :=
    map_toLower_of_isHexDigit <| List.forall₂_map_left_iff.mpr <| List.forall₂_same.mpr
      fun value member => isHexDigit_hexDigit (small value member)
  rw [lower, text, map_toLower_group, plain, ← text, String.ofList_toList]

theorem isTextOf_iff {s : String} {g : Guid} :
    IsTextOf s g ↔ (trim s.toList).map Char.toLower = g.toText.toList := by
  rw [IsTextOf, sameIgnoringCase_iff, lower_toText, lower, String.toList_ofList,
    ← String.toList_inj, String.toList_ofList]

/-! ## Reading -/

theorem isTextOf_of_ofText? {s : String} {g : Guid} (read : ofText? s = some g) :
    IsTextOf s g := by
  obtain ⟨cs, cut, rest⟩ := Option.bind_eq_some_iff.mp read
  obtain ⟨digits, values, made⟩ := Option.bind_eq_some_iff.mp rest
  obtain rfl := Option.some.inj made
  obtain ⟨length, whole⟩ := ungroup?_eq_some_iff.mp cut
  have written := hexValues?_eq_some_iff.mp values
  have small := lt_of_isHexDigit written
  rw [isTextOf_iff, whole, map_toLower_group, map_toLower_of_isHexDigit written, ofHexDigits_eq,
    toText_of_digits (written.length_eq ▸ length) small]

theorem ofText?_of_isTextOf {s : String} {g : Guid} (text : IsTextOf s g) :
    ofText? s = some g := by
  obtain ⟨digits, length, small, number, written⟩ := g.exists_digits
  rw [isTextOf_iff, written] at text
  have cut : (ungroup? (trim s.toList)).map (List.map Char.toLower) =
      some (digits.map hexDigit) := by
    rw [← ungroup?_map_toLower, ungroup?_eq_some_iff, text, List.length_map]
    exact ⟨length, rfl⟩
  obtain ⟨cs, cut, letters⟩ := Option.map_eq_some_iff.mp cut
  have values : hexValues? cs = some digits := by
    rw [← hexValues?_map_toLower, letters, hexValues?_map_hexDigit small]
  rw [ofText?, cut, Option.bind_eq_bind, Option.bind_some, values, Option.bind_eq_bind,
    Option.bind_some, ofHexDigits_eq, number, BitVec.ofNat_toNat, BitVec.setWidth_eq]
  rfl

/-- An identifier is read from its text in any letter case, and from no other text. -/
theorem ofText?_eq_some_iff {s : String} {g : Guid} : ofText? s = some g ↔ IsTextOf s g :=
  ⟨isTextOf_of_ofText?, ofText?_of_isTextOf⟩

/-! ## Blanks -/

theorem mem_group {digits : List Char} {c : Char} (member : c ∈ group digits) :
    c = '-' ∨ c ∈ digits := by
  simp only [group, List.cons_append, List.append_assoc, List.mem_append, List.mem_cons] at member
  have part {count start : Nat} (within : c ∈ (digits.drop start).take count) : c ∈ digits :=
    List.mem_of_mem_drop (List.mem_of_mem_take within)
  rcases member with first | dash | second | dash | third | dash | fourth | dash | last
  · exact .inr (List.mem_of_mem_take first)
  · exact .inl dash
  · exact .inr (part second)
  · exact .inl dash
  · exact .inr (part third)
  · exact .inl dash
  · exact .inr (part fourth)
  · exact .inl dash
  · exact .inr (List.mem_of_mem_drop last)

theorem isBlank_of_mem_toText {g : Guid} {c : Char} (member : c ∈ g.toText.toList) :
    isBlank c = false := by
  have solid : ∀ value < 16, isBlank (hexDigit value) = false := by decide
  obtain ⟨digits, -, small, -, text⟩ := g.exists_digits
  rw [text] at member
  rcases mem_group member with rfl | digit
  · decide
  · obtain ⟨value, inside, rfl⟩ := List.mem_map.mp digit
    exact solid value (small value inside)

/-- The text of an identifier in small or in capital letters has no blanks to leave out. -/
theorem isTextOf_of_spelled {s : String} {g : Guid}
    (spelled : s ∈ [lower g.toText, upper g.toText]) : IsTextOf s g := by
  have same : lower s = g.toText := by
    simp only [List.mem_cons, List.not_mem_nil, or_false] at spelled
    rcases spelled with rfl | rfl
    · rw [lower_toText, lower_toText]
    · rw [lower_upper, lower_toText]
  have letters : s.toList.map Char.toLower = g.toText.toList := by
    rw [← toList_lower, same]
  have solid : ∀ c ∈ s.toList, isBlank c = false := by
    intro c member
    have small : c.toLower ∈ g.toText.toList := letters ▸ List.mem_map_of_mem member
    rw [← isBlank_toLower, isBlank_of_mem_toText small]
  rw [isTextOf_iff, trim_of_no_blank solid, letters]

end BootManager.Guid
