import BootManager.Format

/-!
# Formats that do not look ahead

What is read from the front of bytes does not change when bytes are added at their end. Every format
is `Steady` in this sense, since reading only ever takes bytes from the front: the law passes from
the parts of a format to the whole, whatever values they refuse. Bytes that were cut off in the
middle of a value are therefore never taken for another value.
-/

namespace BootManager.Format

variable {α β : Type}

/-- A steady format finds nothing in a part of what it reads to the last byte. -/
theorem Steady.decode_eq_none {f : Format α} (h : f.Steady) {bytes more : Bytes} {a : α}
    (read : f.decode (bytes ++ more) = some (a, [])) (cut : more ≠ []) : f.decode bytes = none := by
  cases found : f.decode bytes with
  | none => rfl
  | some first =>
    have same := (h bytes first.1 first.2 more found).symm.trans read
    have left : first.2 ++ more = [] := congrArg Prod.snd (Option.some.inj same)
    exact absurd (List.append_eq_nil_iff.mp left).2 cut

/-! ## Numbers -/

theorem readVarint_append {count : Nat} {bytes rest : Bytes} {n : Nat}
    (read : readVarint count bytes = some (n, rest)) (more : Bytes) :
    readVarint count (bytes ++ more) = some (n, rest ++ more) := by
  induction count generalizing bytes n with
  | zero => cases read
  | succ count ih =>
    cases bytes with
    | nil => cases read
    | cons b bytes =>
      rw [List.cons_append]
      by_cases last : b < 128
      · simp only [readVarint, if_pos last, Option.some.injEq, Prod.mk.injEq] at read ⊢
        obtain ⟨rfl, rfl⟩ := read
        exact ⟨rfl, rfl⟩
      · simp only [readVarint, if_neg last, Option.map_eq_some_iff, Prod.mk.injEq] at read ⊢
        obtain ⟨⟨quotient, rest'⟩, found, rfl, rfl⟩ := read
        exact ⟨(quotient, rest' ++ more), ih found, rfl, rfl⟩

theorem varint_steady (width : Nat) : (varint width).Steady := by
  intro bytes n rest more read
  simp only [varint, Option.filter_eq_some_iff] at read ⊢
  exact ⟨readVarint_append read.1 more, read.2⟩

/-! ## Ways of putting formats together -/

theorem Steady.convert {f : Format α} (h : f.Steady) (of : α → β) (raw : β → α) :
    (f.convert of raw).Steady :=
  h.refine (fun a => some (of a)) raw

theorem byte_steady : byte.Steady := by
  intro bytes b rest more read
  cases bytes with
  | nil => cases read
  | cons first bytes =>
    simp only [byte, Option.some.injEq, Prod.mk.injEq] at read
    obtain ⟨rfl, rfl⟩ := read
    rfl

theorem bool_steady : bool.Steady :=
  byte_steady.refine _ _

theorem Steady.option {f : Format α} (h : f.Steady) : f.option.Steady := by
  intro bytes a rest more read
  obtain ⟨⟨present, middle⟩, first, second⟩ := Option.bind_eq_some_iff.mp read
  refine Option.bind_eq_some_iff.mpr
    ⟨(present, middle ++ more), bool_steady bytes present middle more first, ?_⟩
  cases present with
  | false =>
    simp only [Bool.false_eq_true, if_false, Option.some.injEq, Prod.mk.injEq] at second ⊢
    obtain ⟨rfl, rfl⟩ := second
    exact ⟨rfl, rfl⟩
  | true =>
    simp only [if_true, Option.map_eq_some_iff, Prod.mk.injEq] at second ⊢
    obtain ⟨⟨value, rest'⟩, found, rfl, rfl⟩ := second
    exact ⟨(value, rest' ++ more), h middle value rest' more found, rfl, rfl⟩

theorem decodeMany_append {f : Format α} (h : f.Steady) {count : Nat} {bytes rest : Bytes}
    {as : List α} (read : f.decodeMany count bytes = some (as, rest)) (more : Bytes) :
    f.decodeMany count (bytes ++ more) = some (as, rest ++ more) := by
  induction count generalizing bytes as with
  | zero =>
    simp only [decodeMany, Option.some.injEq, Prod.mk.injEq] at read ⊢
    obtain ⟨rfl, rfl⟩ := read
    exact ⟨rfl, rfl⟩
  | succ count ih =>
    rw [decodeMany] at read ⊢
    cases found : f.decode bytes with
    | none => simp [found] at read
    | some first =>
      obtain ⟨a, middle⟩ := first
      simp only [found, Option.map_eq_some_iff, Prod.mk.injEq] at read
      obtain ⟨⟨others, rest'⟩, tail, rfl, rfl⟩ := read
      rw [h bytes a middle more found]
      simp [ih tail]

theorem Steady.list {f : Format α} (h : f.Steady) : f.list.Steady := by
  intro bytes as rest more read
  obtain ⟨⟨length, middle⟩, first, second⟩ := Option.bind_eq_some_iff.mp read
  exact Option.bind_eq_some_iff.mpr
    ⟨(length, middle ++ more), varint_steady 64 bytes length middle more first,
      decodeMany_append h second more⟩

theorem Steady.vector {f : Format α} (h : f.Steady) (n : Nat) : (f.vector n).Steady := by
  intro bytes v rest more read
  obtain ⟨⟨as, middle⟩, first, second⟩ := Option.bind_eq_some_iff.mp read
  refine Option.bind_eq_some_iff.mpr ⟨(as, middle ++ more), decodeMany_append h first more, ?_⟩
  by_cases size : as.length = n
  · simp only [size, dite_true, Option.some.injEq, Prod.mk.injEq] at second ⊢
    exact ⟨second.1, by rw [second.2]⟩
  · simp [size] at second

/-! ## Words, texts and choices -/

theorem uint32_steady : uint32.Steady :=
  (varint_steady 32).convert _ _

theorem int32_steady : int32.Steady :=
  (varint_steady 32).convert _ _

theorem text_steady : text.Steady :=
  byte_steady.list.refine _ _

theorem char_steady : char.Steady :=
  byte_steady.list.refine _ _

theorem choice_steady [BEq α] (all : List α) : (choice all).Steady :=
  (varint_steady 32).refine _ _

end BootManager.Format
