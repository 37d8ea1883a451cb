import BootManager.Variable.Memory

/-!
# What a store in memory does

A store keeps the variables of a namespace in one of two banks, or has no place for them. Reading is
a lookup in that bank. Writing has four outcomes: the value is too large, there is no place for it,
it is held already, or it is put into the bank; only the last one changes anything. `getRaw_value`
and `setRaw_value` say so once, and nothing later opens the store again.
-/

namespace BootManager

theorem StoredVariable.isCalled_iff {v : StoredVariable} {vendor : Guid} {name : String} :
    v.isCalled vendor name = true ↔ v.vendor = vendor ∧ v.name = name := by
  simp [isCalled]

namespace VariableBank

/-- A value that was written is read back, and nothing is read after a deletion. -/
theorem get?_put_self (bank : VariableBank) (vendor : Guid) (name : String) (data : Bytes) :
    (bank.put vendor name data).get? vendor name = if data.isEmpty then none else some data := by
  have dropped : (bank.filter fun v => !v.isCalled vendor name).find?
      (fun v => v.isCalled vendor name) = none := by
    simp
  unfold get? put
  rw [List.find?_append, dropped]
  cases data with
  | nil => rfl
  | cons b rest => simp [StoredVariable.isCalled]

/-- Writing a variable changes no other. -/
theorem get?_put_of_ne (bank : VariableBank) {vendor other : Guid} {name otherName : String}
    (data : Bytes) (ne : (other, otherName) ≠ (vendor, name)) :
    (bank.put vendor name data).get? other otherName = bank.get? other otherName := by
  have apart : ∀ v : StoredVariable, v.isCalled other otherName = true →
      v.isCalled vendor name = false := by
    intro v called
    rw [← Bool.not_eq_true]
    intro same
    obtain ⟨rfl, rfl⟩ := StoredVariable.isCalled_iff.mp called
    obtain ⟨rfl, rfl⟩ := StoredVariable.isCalled_iff.mp same
    exact ne rfl
  have written : (if data.isEmpty then [] else [(⟨vendor, name, data⟩ : StoredVariable)]).find?
      (fun v => v.isCalled other otherName) = none := by
    rw [List.find?_eq_none]
    intro v member called
    split at member
    · cases member
    · obtain rfl := List.mem_singleton.mp member
      exact absurd (StoredVariable.isCalled_iff.mpr ⟨rfl, rfl⟩) (by rw [apart _ called]; decide)
  unfold get? put
  rw [List.find?_append, written, Option.or_none, List.find?_filter]
  congr 2
  funext v
  cases called : v.isCalled other otherName with
  | false => simp
  | true => simp [apart v called]

end VariableBank

namespace VariableBanks

open VariableStore

/-- One of the two banks. -/
inductive Shelf where
  | firmware
  | disk
  deriving DecidableEq, Repr

namespace Shelf

/-- The variables of a bank. -/
def bank : Shelf → VariableBanks → VariableBank
  | firmware, banks => banks.firmware
  | disk, banks => banks.disk

/-- Writes a variable to a bank, or deletes it there if there is nothing to write. -/
def put (shelf : Shelf) (banks : VariableBanks) (vendor : Guid) (name : String) (data : Bytes) :
    VariableBanks :=
  match shelf with
  | firmware => { banks with firmware := banks.firmware.put vendor name data }
  | disk => { banks with disk := banks.disk.put vendor name data }

@[simp] theorem bank_put (shelf : Shelf) (banks : VariableBanks) (vendor : Guid) (name : String)
    (data : Bytes) :
    shelf.bank (shelf.put banks vendor name data) = (shelf.bank banks).put vendor name data := by
  cases shelf <;> rfl

end Shelf

/-- The bank that a store keeps the variables of a namespace in, if it has a place for them. -/
def shelf? (hasDisk useNvram : Bool) (vendor : Guid) : Option Shelf :=
  if vendor = ownVendor ∧ useNvram = false then
    if hasDisk then some .disk else none
  else some .firmware

/-- What a computation on variables in memory comes to, and the variables after it. -/
def outcome {α : Type} (x : StateT VariableBanks Logged α) (banks : VariableBanks) :
    α × VariableBanks :=
  (x.run banks).value

@[simp] theorem outcome_pure {α : Type} (a : α) (banks : VariableBanks) :
    outcome (pure a) banks = (a, banks) := rfl

theorem outcome_bind {α β : Type} (x : StateT VariableBanks Logged α)
    (f : α → StateT VariableBanks Logged β) (banks : VariableBanks) :
    outcome (x >>= f) banks = outcome (f (outcome x banks).1) (outcome x banks).2 := rfl

/-- Whether writing is left out because of what is found. -/
def isSkipped (old : Option Bytes) (name : String) (data : Bytes) : Bool :=
  !data.isEmpty && !isHiddenList name && old.any fun bytes => holdsValue bytes data

/-- What writing to a store comes to, and the variables after it. -/
def written (hasDisk useNvram : Bool) (banks : VariableBanks) (vendor : Guid) (name : String)
    (data : Bytes) : Except Failure Unit × VariableBanks :=
  if maxSize < data.length then (.error (.stored (.tooLarge data.length)), banks)
  else
    match shelf? hasDisk useNvram vendor with
    | none => (.error (.stored .noDirectory), banks)
    | some shelf =>
      if isSkipped ((shelf.bank banks).get? vendor name) name data then
        (.error (.stored (.unchanged name)), banks)
      else (.ok (), shelf.put banks vendor name data)

variable (hasDisk useNvram : Bool) (banks : VariableBanks) (vendor : Guid) (name : String)

/-- The backend of a bank. -/
def Shelf.backend : Shelf → VariableBackend VariableBanks
  | firmware => firmwareBackend
  | disk => diskBackend

theorem backend_store : (store hasDisk useNvram).backend vendor =
    match shelf? hasDisk useNvram vendor with
    | none => .error (.stored .noDirectory)
    | some shelf => .ok shelf.backend := by
  unfold VariableStore.backend shelf? store
  cases hasDisk <;> cases useNvram <;> by_cases own : vendor = ownVendor <;>
    simp [own, Shelf.backend]

theorem outcome_get (shelf : Shelf) :
    outcome (shelf.backend.get vendor name) banks =
      (.ok ((shelf.bank banks).get? vendor name), banks) := by
  cases shelf <;> rfl

theorem outcome_set (shelf : Shelf) (data : Bytes) (persistent : Bool) :
    outcome (shelf.backend.set vendor name data persistent) banks =
      (.ok (), shelf.put banks vendor name data) := by
  cases shelf <;> rfl

theorem outcome_isHeld (shelf : Shelf) (data : Bytes) :
    outcome (isHeld shelf.backend vendor name data) banks =
      (isSkipped ((shelf.bank banks).get? vendor name) name data, banks) := by
  unfold isHeld isSkipped
  by_cases plain : (data.isEmpty || isHiddenList name) = true
  · rw [if_pos plain]
    cases data <;> simp_all
  · rw [if_neg plain, outcome_bind, outcome_get]
    cases (shelf.bank banks).get? vendor name <;> simp_all

/-- Reading is a lookup in the bank of the namespace. -/
theorem getRaw_value : outcome ((store hasDisk useNvram).getRaw vendor name) banks =
    (match shelf? hasDisk useNvram vendor with
      | none => .error (.stored .noDirectory)
      | some shelf => .ok ((shelf.bank banks).get? vendor name), banks) := by
  unfold getRaw
  rw [backend_store]
  cases shelf? hasDisk useNvram vendor with
  | none => rfl
  | some shelf => exact outcome_get banks vendor name shelf

/-- Writing does what `written` says, and nothing else. -/
theorem setRaw_value (data : Bytes) (persistent : Bool) :
    outcome ((store hasDisk useNvram).setRaw vendor name data persistent) banks =
      written hasDisk useNvram banks vendor name data := by
  unfold setRaw written
  by_cases large : maxSize < data.length
  · rw [if_pos large, if_pos large]
    rfl
  · rw [if_neg large, if_neg large, backend_store]
    cases shelf? hasDisk useNvram vendor with
    | none => rfl
    | some shelf =>
      dsimp only
      rw [outcome_bind, outcome_isHeld]
      cases isSkipped ((shelf.bank banks).get? vendor name) name data with
      | true => rfl
      | false => exact outcome_set banks vendor name shelf data persistent

/-! ## Writes that are said to be done -/

/-- A write that was done, or that was left out because the value is said to be there. -/
def IsSettled (name : String) (answer : Except Failure Unit) : Prop :=
  answer = .ok () ∨ answer = .error (.stored (.unchanged name))

/-- The bytes `old` pass for `data`, by their texts: the text of `data` is not empty and occurs in
that of `old`. -/
def PassesFor (name : String) (old data : Bytes) : Prop :=
  isHiddenList name = false ∧ textOf data ≠ [] ∧ textOf data <:+: textOf old

theorem holdsValue_iff {old data : Bytes} :
    holdsValue old data = true ↔ old = data ∨ (textOf data ≠ [] ∧ textOf data <:+: textOf old) := by
  simp [holdsValue, Text.containsRun_iff]

theorem isSkipped_iff {old : Option Bytes} {data : Bytes} (nonempty : data ≠ []) :
    isSkipped old name data = true ↔
      ∃ bytes, old = some bytes ∧ isHiddenList name = false ∧
        (bytes = data ∨ (textOf data ≠ [] ∧ textOf data <:+: textOf bytes)) := by
  cases old with
  | none => simp [isSkipped]
  | some bytes => simp [isSkipped, nonempty, holdsValue_iff]

variable {hasDisk useNvram banks vendor name}

/-- A settled write leaves the new value behind, or bytes that pass for it. -/
theorem found_of_settled {data : Bytes} (nonempty : data ≠ [])
    (settled : IsSettled name (written hasDisk useNvram banks vendor name data).1) :
    let after := (written hasDisk useNvram banks vendor name data).2
    ∃ shelf, shelf? hasDisk useNvram vendor = some shelf ∧
      ((shelf.bank after).get? vendor name = some data ∨
        ∃ old, (shelf.bank banks).get? vendor name = some old ∧ PassesFor name old data ∧
          after = banks) := by
  unfold written at settled ⊢
  by_cases large : maxSize < data.length
  · simp [IsSettled, if_pos large] at settled
  · rw [if_neg large] at settled ⊢
    cases place : shelf? hasDisk useNvram vendor with
    | none => simp [IsSettled, place] at settled
    | some shelf =>
      refine ⟨shelf, rfl, ?_⟩
      dsimp only
      cases skipped : isSkipped ((shelf.bank banks).get? vendor name) name data with
      | false =>
        left
        simp [VariableBank.get?_put_self, nonempty]
      | true =>
        obtain ⟨old, present, plain, same | passes⟩ := (isSkipped_iff name nonempty).mp skipped
        · exact .inl (by simp [present, same])
        · exact .inr ⟨old, present, ⟨plain, passes⟩, rfl⟩

/-- What is found of a variable. -/
def bytesOf (hasDisk useNvram : Bool) (banks : VariableBanks) (vendor : Guid) (name : String) :
    Except Failure (Option Bytes) :=
  (outcome ((store hasDisk useNvram).getRaw vendor name) banks).1

/-- Values that are too large are never settled. -/
theorem small_of_settled {data : Bytes} {persistent : Bool}
    (settled : IsSettled name
      (outcome ((store hasDisk useNvram).setRaw vendor name data persistent) banks).1) :
    data.length ≤ maxSize := by
  rw [setRaw_value] at settled
  by_cases large : maxSize < data.length
  · simp [written, IsSettled, large] at settled
  · omega

/-- After a write that was done, its bytes are read, or nothing if there were none. -/
theorem getRaw_of_done {data : Bytes} {persistent : Bool}
    (done : (outcome ((store hasDisk useNvram).setRaw vendor name data persistent) banks).1 =
      .ok ()) :
    bytesOf hasDisk useNvram
      (outcome ((store hasDisk useNvram).setRaw vendor name data persistent) banks).2 vendor name =
        .ok (if data.isEmpty then none else some data) := by
  rw [setRaw_value] at done ⊢
  rw [bytesOf, getRaw_value]
  unfold written at done ⊢
  by_cases large : maxSize < data.length
  · simp [if_pos large] at done
  · rw [if_neg large] at done ⊢
    cases place : shelf? hasDisk useNvram vendor with
    | none => simp [place] at done
    | some shelf =>
      cases skipped : isSkipped ((shelf.bank banks).get? vendor name) name data with
      | true => simp [place, skipped] at done
      | false => simp [skipped, VariableBank.get?_put_self]

theorem bytesOf_of_done {data : Bytes} {persistent : Bool} (nonempty : data ≠ [])
    (done : (outcome ((store hasDisk useNvram).setRaw vendor name data persistent) banks).1 =
      .ok ()) :
    bytesOf hasDisk useNvram
      (outcome ((store hasDisk useNvram).setRaw vendor name data persistent) banks).2 vendor name =
        .ok (some data) := by
  have read := getRaw_of_done done
  rwa [if_neg (by simpa using nonempty)] at read

/-- Bytes that pass for the new value stay where they are. -/
theorem setRaw_of_passes {data old : Bytes} {persistent : Bool} (small : data.length ≤ maxSize)
    (present : bytesOf hasDisk useNvram banks vendor name = .ok (some old))
    (passes : PassesFor name old data) :
    outcome ((store hasDisk useNvram).setRaw vendor name data persistent) banks =
      (.error (.stored (.unchanged name)), banks) := by
  have nonempty : data ≠ [] := by
    rintro rfl
    exact passes.2.1 rfl
  rw [bytesOf, getRaw_value] at present
  rw [setRaw_value, written, if_neg (by omega)]
  cases place : shelf? hasDisk useNvram vendor with
  | none => simp [place] at present
  | some shelf =>
    simp only [place, Except.ok.injEq] at present
    have skipped : isSkipped ((shelf.bank banks).get? vendor name) name data = true :=
      (isSkipped_iff name nonempty).mpr ⟨old, present, passes.1, .inr passes.2⟩
    simp [skipped]

/-- A variable that is not there is written. -/
theorem setRaw_of_missing {data : Bytes} {persistent : Bool} (small : data.length ≤ maxSize)
    (missing : bytesOf hasDisk useNvram banks vendor name = .ok none) :
    (outcome ((store hasDisk useNvram).setRaw vendor name data persistent) banks).1 = .ok () := by
  rw [bytesOf, getRaw_value] at missing
  rw [setRaw_value, written, if_neg (by omega)]
  cases place : shelf? hasDisk useNvram vendor with
  | none => simp [place] at missing
  | some shelf =>
    simp only [place, Except.ok.injEq] at missing
    simp [isSkipped, missing]

/-- What is read after a settled write has a property of the new value exactly if all bytes that
pass for the new value have it. -/
theorem settled_read_iff (P : Except Failure (Option Bytes) → Prop) (hasDisk useNvram : Bool)
    (banks : VariableBanks) (vendor : Guid) (name : String) {data : Bytes} (persistent : Bool)
    (nonempty : data ≠ []) (back : data.length ≤ maxSize → P (.ok (some data))) :
    let write := outcome ((store hasDisk useNvram).setRaw vendor name data persistent) banks
    (IsSettled name write.1 → P (bytesOf hasDisk useNvram write.2 vendor name)) ↔
      (data.length ≤ maxSize → ∀ old, bytesOf hasDisk useNvram banks vendor name = .ok (some old) →
        PassesFor name old data → P (.ok (some old))) := by
  dsimp only
  constructor
  · intro reads small old present passes
    rw [setRaw_of_passes small present passes, present] at reads
    exact reads (.inr rfl)
  · intro passed settled
    have small := small_of_settled settled
    rw [setRaw_value] at settled ⊢
    obtain ⟨shelf, place, fresh | ⟨old, present, passes, same⟩⟩ := found_of_settled nonempty settled
    · rw [bytesOf, getRaw_value, place]
      dsimp only
      rw [fresh]
      exact back small
    · have found : bytesOf hasDisk useNvram banks vendor name = .ok (some old) := by
        rw [bytesOf, getRaw_value, place]
        exact congrArg Except.ok present
      rw [same, found]
      exact passed small old found passes

end VariableBanks

end BootManager
