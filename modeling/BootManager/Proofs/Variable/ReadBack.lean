import BootManager.Proofs.Variable.Bank

/-!
# Reading back what was written

A number or truth value that was written is read back, unless the write was left out in favour of
bytes that only pass for it: texts are compared as well, and the bytes of a number are a text to
this comparison. `readBack_iff` says exactly when this happens; it never does for truth values.
-/

namespace BootManager

namespace Storable

/-- Values that are read from the bytes they are written as, of which there are few. -/
class Lawful (α : Type) [Storable α] : Prop where
  ofBytes_toBytes : ∀ value : α, ofBytes (toBytes value) = value
  toBytes_ne_nil : ∀ value : α, toBytes value ≠ []
  length_toBytes : ∀ value : α, (toBytes value).length ≤ 8

theorem readNumber_ofNat (count n : Nat) :
    readNumber count (Bytes.ofNat count n) = n % Nat.pow 256 count := by
  have whole : (Bytes.ofNat count n).resize count = Bytes.ofNat count n := by
    simp [Bytes.resize, List.take_of_length_le]
  rw [readNumber, whole, Bytes.toNat_ofNat]

theorem ofNat_ne_nil (count n : Nat) : Bytes.ofNat (count + 1) n ≠ [] := by
  simp [Bytes.ofNat]

instance : Lawful UInt8 where
  ofBytes_toBytes n := by
    apply UInt8.toNat_inj.mp
    simp [ofBytes, toBytes, readNumber_ofNat]
  toBytes_ne_nil n := ofNat_ne_nil 0 n.toNat
  length_toBytes n := by simp [toBytes]

instance : Lawful UInt16 where
  ofBytes_toBytes n := by
    apply UInt16.toNat_inj.mp
    simp [ofBytes, toBytes, readNumber_ofNat]
  toBytes_ne_nil n := ofNat_ne_nil 1 n.toNat
  length_toBytes n := by simp [toBytes]

instance : Lawful UInt32 where
  ofBytes_toBytes n := by
    apply UInt32.toNat_inj.mp
    simp [ofBytes, toBytes, readNumber_ofNat]
  toBytes_ne_nil n := ofNat_ne_nil 3 n.toNat
  length_toBytes n := by simp [toBytes]

instance : Lawful UInt64 where
  ofBytes_toBytes n := by
    apply UInt64.toNat_inj.mp
    simp [ofBytes, toBytes, readNumber_ofNat]
  toBytes_ne_nil n := ofNat_ne_nil 7 n.toNat
  length_toBytes n := by simp [toBytes]

instance : Lawful Bool where
  ofBytes_toBytes b := by cases b <;> decide
  toBytes_ne_nil b := by cases b <;> decide
  length_toBytes b := by cases b <;> decide

end Storable

namespace VariableBanks

open VariableStore

section

variable (hasDisk useNvram : Bool) (banks : VariableBanks) (vendor : Guid) (name : String)

/-- What is read of a variable as a value of a type. -/
def valueOf (α : Type) [Storable α] : Except Failure α :=
  (outcome ((store hasDisk useNvram).get vendor name) banks).1

/-- What writing a value comes to, and the variables after it. -/
def setting {α : Type} [Storable α] (value : α) : Except Failure Unit × VariableBanks :=
  outcome ((store hasDisk useNvram).set vendor name (some value)) banks

/-- What writing the active protection mask comes to, and the variables after it. -/
def settingCsr (mask : UInt32) : Except Failure Unit × VariableBanks :=
  outcome ((store hasDisk useNvram).setActiveCsr mask) banks

/-- What is read of the active protection mask. -/
def activeMask : Except Failure (Option UInt32) :=
  (outcome (store hasDisk useNvram).activeCsr banks).1

theorem valueOf_eq (α : Type) [Storable α] : valueOf hasDisk useNvram banks vendor name α =
    (bytesOf hasDisk useNvram banks vendor name).map
      fun bytes => (bytes.map Storable.ofBytes).getD Storable.missing := rfl

theorem activeMask_eq : activeMask hasDisk useNvram banks =
    (bytesOf hasDisk useNvram banks appleVendor csrName).map
      fun bytes => (bytes.filter fun b => 4 ≤ b.length).map Storable.ofBytes := rfl

/-- The value is read after every write of it that is done or said to be done. -/
def ReadsBack {α : Type} [Storable α] (value : α) : Prop :=
  let set := setting hasDisk useNvram banks vendor name value
  IsSettled name set.1 → valueOf hasDisk useNvram set.2 vendor name α = .ok value

/-- The bytes of the variable do not pass for the value, or stand for it. -/
def IsUnmistaken {α : Type} [Storable α] (value : α) : Prop :=
  ∀ old, bytesOf hasDisk useNvram banks vendor name = .ok (some old) →
    PassesFor name old (Storable.toBytes value) → Storable.ofBytes old = value

/-- The mask is read after every write of it that is done or said to be done. -/
def CsrReadsBack (mask : UInt32) : Prop :=
  let set := settingCsr hasDisk useNvram banks mask
  IsSettled csrName set.1 → activeMask hasDisk useNvram set.2 = .ok (some mask)

/-- The bytes of the mask do not pass for the new one, or are enough and stand for it. -/
def IsCsrUnmistaken (mask : UInt32) : Prop :=
  ∀ old, bytesOf hasDisk useNvram banks appleVendor csrName = .ok (some old) →
    PassesFor csrName old (Storable.toBytes mask) → 4 ≤ old.length ∧ Storable.ofBytes old = mask

/-- How writing and reading a value fit together. -/
structure ReadBackLaw {α : Type} [Storable α] (value : α) : Prop where
  /-- The value is read after a write that was done. -/
  done : let set := setting hasDisk useNvram banks vendor name value
    set.1 = .ok () → valueOf hasDisk useNvram set.2 vendor name α = .ok value
  /-- It is read after one that was left out as well, exactly if no other bytes pass for it. -/
  settled : ReadsBack hasDisk useNvram banks vendor name value ↔
    IsUnmistaken hasDisk useNvram banks vendor name value

/-- How writing and reading the active protection mask fit together. -/
structure CsrReadBackLaw (mask : UInt32) : Prop where
  /-- The mask is read after a write that was done. -/
  done : let set := settingCsr hasDisk useNvram banks mask
    set.1 = .ok () → activeMask hasDisk useNvram set.2 = .ok (some mask)
  /-- It is read after one that was left out as well, exactly if no other bytes pass for it. -/
  settled : CsrReadsBack hasDisk useNvram banks mask ↔ IsCsrUnmistaken hasDisk useNvram banks mask

end

variable {hasDisk useNvram : Bool} {banks : VariableBanks} {vendor : Guid} {name : String}

theorem readsBack_iff_isUnmistaken {α : Type} [Storable α] [Storable.Lawful α] (value : α) :
    ReadsBack hasDisk useNvram banks vendor name value ↔
      IsUnmistaken hasDisk useNvram banks vendor name value := by
  let P (read : Except Failure (Option Bytes)) : Prop :=
    (read.map fun bytes => (bytes.map Storable.ofBytes).getD Storable.missing) = .ok value
  have small : (Storable.toBytes value).length ≤ maxSize :=
    Nat.le_trans (Storable.Lawful.length_toBytes value) (by decide)
  have back : P (.ok (some (Storable.toBytes value))) := by
    simp [P, Except.map, Storable.Lawful.ofBytes_toBytes]
  have settled := settled_read_iff P hasDisk useNvram banks vendor name true
    (Storable.Lawful.toBytes_ne_nil value) fun _ => back
  refine Iff.trans settled ⟨?_, ?_⟩
  · intro passed old present passes
    simpa [P, Except.map] using passed small old present passes
  · intro passed _ old present passes
    simpa [P, Except.map] using passed old present passes

theorem csrReadsBack_iff (mask : UInt32) :
    CsrReadsBack hasDisk useNvram banks mask ↔ IsCsrUnmistaken hasDisk useNvram banks mask := by
  let P (read : Except Failure (Option Bytes)) : Prop :=
    (read.map fun bytes => (bytes.filter fun b => 4 ≤ b.length).map Storable.ofBytes) =
      .ok (some mask)
  have size : (Storable.toBytes mask).length = 4 := Bytes.length_ofNat 4 mask.toNat
  have reads (old : Bytes) :
      P (.ok (some old)) ↔ 4 ≤ old.length ∧ (Storable.ofBytes old : UInt32) = mask := by
    by_cases enough : 4 ≤ old.length <;> simp [P, Except.map, Option.filter, enough]
  have settled := settled_read_iff P hasDisk useNvram banks appleVendor csrName true
    (Storable.Lawful.toBytes_ne_nil mask) fun _ =>
      (reads _).mpr ⟨by omega, Storable.Lawful.ofBytes_toBytes mask⟩
  refine Iff.trans settled ⟨?_, ?_⟩
  · intro passed old present passes
    exact (reads old).mp (passed (by rw [size]; decide) old present passes)
  · intro passed _ old present passes
    exact (reads old).mpr (passed old present passes)

theorem valueOf_of_done {α : Type} [Storable α] [Storable.Lawful α] {value : α}
    (done : (setting hasDisk useNvram banks vendor name value).1 = .ok ()) :
    valueOf hasDisk useNvram (setting hasDisk useNvram banks vendor name value).2 vendor name α =
      .ok value := by
  have read : bytesOf hasDisk useNvram (setting hasDisk useNvram banks vendor name value).2 vendor
      name = .ok (some (Storable.toBytes value)) :=
    bytesOf_of_done (Storable.Lawful.toBytes_ne_nil value) done
  rw [valueOf_eq, read]
  simp [Except.map, Storable.Lawful.ofBytes_toBytes]

theorem activeMask_of_done {mask : UInt32}
    (done : (settingCsr hasDisk useNvram banks mask).1 = .ok ()) :
    activeMask hasDisk useNvram (settingCsr hasDisk useNvram banks mask).2 = .ok (some mask) := by
  have read : bytesOf hasDisk useNvram (settingCsr hasDisk useNvram banks mask).2 appleVendor
      csrName = .ok (some (Storable.toBytes mask)) :=
    bytesOf_of_done (Storable.Lawful.toBytes_ne_nil mask) done
  have size : (Storable.toBytes mask).length = 4 := Bytes.length_ofNat 4 mask.toNat
  rw [activeMask_eq, read]
  simp [Except.map, Option.filter, size, Storable.Lawful.ofBytes_toBytes]

/-- Bytes with a text stand for true, and no bytes pass for false. -/
theorem isUnmistaken_bool (b : Bool) : IsUnmistaken hasDisk useNvram banks vendor name b := by
  rintro old - ⟨-, nonempty, inside⟩
  cases b with
  | false => exact absurd rfl nonempty
  | true =>
    cases old with
    | nil => exact absurd (List.infix_nil.mp inside) nonempty
    | cons first rest =>
      by_cases zero : first = 0
      · subst zero
        exact absurd (List.infix_nil.mp inside) nonempty
      · have number : Storable.readNumber 1 (first :: rest) = first.toNat := by
          simp [Storable.readNumber, Bytes.resize, Bytes.toNat]
        simp [Storable.ofBytes, number, zero]

theorem readBackLaw {α : Type} [Storable α] [Storable.Lawful α] (value : α) :
    ReadBackLaw hasDisk useNvram banks vendor name value :=
  ⟨valueOf_of_done, readsBack_iff_isUnmistaken value⟩

theorem csrReadBackLaw (mask : UInt32) : CsrReadBackLaw hasDisk useNvram banks mask :=
  ⟨activeMask_of_done, csrReadsBack_iff mask⟩

/-- A number that was written is read back after every write that was done. After a write that was
left out it is read exactly if the bytes in its place, which pass for it as a text, stand for it.
The same holds of the active protection mask. A truth value is always read back. -/
theorem readBack_iff (hasDisk useNvram : Bool) (banks : VariableBanks) (vendor : Guid)
    (name : String) :
    (∀ n : UInt8, ReadBackLaw hasDisk useNvram banks vendor name n) ∧
    (∀ n : UInt16, ReadBackLaw hasDisk useNvram banks vendor name n) ∧
    (∀ n : UInt32, ReadBackLaw hasDisk useNvram banks vendor name n) ∧
    (∀ n : UInt64, ReadBackLaw hasDisk useNvram banks vendor name n) ∧
    (∀ b : Bool, ReadsBack hasDisk useNvram banks vendor name b) ∧
    (∀ mask : UInt32, CsrReadBackLaw hasDisk useNvram banks mask) := by
  refine ⟨readBackLaw, readBackLaw, readBackLaw, readBackLaw, ?_, csrReadBackLaw⟩
  intro b
  exact (readBackLaw b).settled.mpr (isUnmistaken_bool b)

/-- A machine whose active protection mask is 0x877. -/
def withMask877 : VariableBanks :=
  (settingCsr false false .empty 0x877).2

/-- Writing the mask 0x77 over 0x877 is said to change nothing, and 0x877 stays active. -/
theorem csr_not_readBack :
    (settingCsr false false withMask877 0x77).1 = .error (.stored (.unchanged csrName)) ∧
      activeMask false false (settingCsr false false withMask877 0x77).2 = .ok (some 0x877) := by
  constructor
  · rfl
  · rfl

end VariableBanks

end BootManager
