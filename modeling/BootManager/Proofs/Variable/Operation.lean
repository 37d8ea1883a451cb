import BootManager.Proofs.Variable.Bank

/-!
# Operations on a store in memory

Everything that is done with a store is one of a few operations, each of which comes down to reading
and writing the bytes of variables of one namespace. So what holds of that, and of one computation
after another if it holds of both, holds of every operation: this is `perform_of_raw`. From it
`perform_keeps` follows, which carries a property of the banks through an operation, and
`perform_untouched`, which tells the bank that an operation has nothing to do with.
-/

namespace BootManager.VariableBanks

open VariableStore

/-- What can be asked of a store, by the kind of its answer. -/
inductive Operation : Type → Type 1 where
  | getRaw (vendor : Guid) (name : String) : Operation (Except Failure (Option Bytes))
  | setRaw (vendor : Guid) (name : String) (data : Bytes) (persistent : Bool) :
    Operation (Except Failure Unit)
  | get (α : Type) [Storable α] (vendor : Guid) (name : String) : Operation (Except Failure α)
  | set (α : Type) [Storable α] (vendor : Guid) (name : String) (value : Option α) :
    Operation (Except Failure Unit)
  | activeCsr : Operation (Except Failure (Option UInt32))
  | setActiveCsr (mask : UInt32) : Operation (Except Failure Unit)
  | clearRecovery : Operation (Except Failure Nat)

namespace Operation

/-- The namespace of the variables that an operation is about. -/
def vendor {α : Type} : Operation α → Guid
  | getRaw vendor _ => vendor
  | setRaw vendor _ _ _ => vendor
  | get _ vendor _ => vendor
  | set _ vendor _ _ => vendor
  | activeCsr => appleVendor
  | setActiveCsr _ => appleVendor
  | clearRecovery => appleVendor

/-- Carries out an operation. -/
def perform {α : Type} (store : VariableStore VariableBanks) :
    Operation α → StateT VariableBanks Logged α
  | getRaw vendor name => store.getRaw vendor name
  | setRaw vendor name data persistent => store.setRaw vendor name data persistent
  | get _ vendor name => store.get vendor name
  | set _ vendor name value => store.set vendor name value
  | activeCsr => store.activeCsr
  | setActiveCsr mask => store.setActiveCsr mask
  | clearRecovery => store.clearRecovery

end Operation

/-- The variables after operations were carried out one after another. -/
def afterRun (hasDisk useNvram : Bool) (start : VariableBanks)
    (run : List ((α : Type) × Operation α)) : VariableBanks :=
  run.foldl (fun banks op => (outcome (op.2.perform (store hasDisk useNvram)) banks).2) start

/-! ## Operations as reads and writes -/

section

variable {store : VariableStore VariableBanks}
  {Q : ∀ {β : Type}, StateT VariableBanks Logged β → Prop}

theorem clear_of_raw (done : ∀ {β : Type} (b : β), Q (pure b))
    (next : ∀ {β γ : Type} {x : StateT VariableBanks Logged β}
      {f : β → StateT VariableBanks Logged γ}, Q x → (∀ b, Q (f b)) → Q (x >>= f))
    (reads : ∀ name, Q (store.getRaw appleVendor name))
    (writes : ∀ name data persistent, Q (store.setRaw appleVendor name data persistent))
    (names : List String) : Q (store.clear names) := by
  induction names with
  | nil => exact done _
  | cons name rest ih =>
    refine next (reads name) fun stored => ?_
    cases stored with
    | error failure => exact done _
    | ok found =>
      cases found with
      | none => exact ih
      | some old =>
        refine next (writes name [] true) fun answer => ?_
        cases answer with
        | error failure => exact done _
        | ok _ => exact next ih fun _ => done _

/-- What holds of reading and writing bytes in the namespace of an operation holds of it, if it
passes from computations to one after the other. -/
theorem perform_of_raw {α : Type} (op : Operation α) (done : ∀ {β : Type} (b : β), Q (pure b))
    (next : ∀ {β γ : Type} {x : StateT VariableBanks Logged β}
      {f : β → StateT VariableBanks Logged γ}, Q x → (∀ b, Q (f b)) → Q (x >>= f))
    (reads : ∀ name, Q (store.getRaw op.vendor name))
    (writes : ∀ name data persistent, Q (store.setRaw op.vendor name data persistent)) :
    Q (op.perform store) := by
  cases op with
  | getRaw vendor name => exact reads name
  | setRaw vendor name data persistent => exact writes name data persistent
  | get β vendor name => exact next (reads name) fun _ => done _
  | set β vendor name value => exact writes name _ true
  | activeCsr => exact next (reads csrName) fun _ => done _
  | setActiveCsr mask => exact writes csrName (Storable.toBytes mask) true
  | clearRecovery => exact clear_of_raw done next reads writes recoveryNames

end

variable {hasDisk useNvram : Bool} {α : Type}

/-! ## What operations keep -/

/-- A computation that leaves a property of the banks true. -/
def Keeps (P : VariableBanks → Prop) {β : Type} (x : StateT VariableBanks Logged β) : Prop :=
  ∀ banks, P banks → P (outcome x banks).2

/-- A property that holds after a write to any bank holds after every operation. -/
theorem perform_keeps {P : VariableBanks → Prop}
    (put : ∀ shelf banks vendor name data, P banks → P (Shelf.put shelf banks vendor name data))
    (op : Operation α) : Keeps P (op.perform (store hasDisk useNvram)) := by
  refine perform_of_raw (Q := Keeps P) op (fun _ _ kept => kept) ?_ ?_ ?_
  · intro β γ x f first others banks kept
    exact others _ _ (first banks kept)
  · intro name banks kept
    rw [getRaw_value]
    exact kept
  · intro name data persistent banks kept
    rw [setRaw_value]
    unfold written
    split
    · exact kept
    · split
      · exact kept
      · split
        · exact kept
        · exact put _ banks op.vendor name data kept

theorem afterRun_keeps {P : VariableBanks → Prop}
    (put : ∀ shelf banks vendor name data, P banks → P (Shelf.put shelf banks vendor name data))
    (run : List ((α : Type) × Operation α)) {start : VariableBanks} (kept : P start) :
    P (afterRun hasDisk useNvram start run) := by
  induction run generalizing start with
  | nil => exact kept
  | cons op run ih => exact ih (perform_keeps put op.2 start kept)

/-! ## What operations have nothing to do with -/

/-- The banks with one of them replaced. -/
def Shelf.replace (shelf : Shelf) (bank : VariableBank) (banks : VariableBanks) : VariableBanks :=
  match shelf with
  | firmware => { banks with firmware := bank }
  | disk => { banks with disk := bank }

theorem Shelf.bank_replace_of_ne {shelf other : Shelf} (ne : other ≠ shelf) (bank : VariableBank)
    (banks : VariableBanks) : other.bank (shelf.replace bank banks) = other.bank banks := by
  cases shelf <;> cases other <;> simp_all [Shelf.bank, replace]

theorem Shelf.put_replace_of_ne {shelf other : Shelf} (ne : other ≠ shelf) (bank : VariableBank)
    (banks : VariableBanks) (vendor : Guid) (name : String) (data : Bytes) :
    other.put (shelf.replace bank banks) vendor name data =
      shelf.replace bank (other.put banks vendor name data) := by
  cases shelf <;> cases other <;> simp_all [put, replace]

/-- A computation that neither reads nor writes one of the banks: with any other bank in its place
the answer is the same, and that bank is left as it is. -/
def Untouched (shelf : Shelf) {β : Type} (x : StateT VariableBanks Logged β) : Prop :=
  ∀ banks bank, outcome x (shelf.replace bank banks) =
    ((outcome x banks).1, shelf.replace bank (outcome x banks).2)

/-- An operation has nothing to do with a bank that does not hold its namespace. -/
theorem perform_untouched {shelf : Shelf} (op : Operation α)
    (elsewhere : shelf? hasDisk useNvram op.vendor ≠ some shelf) :
    Untouched shelf (op.perform (store hasDisk useNvram)) := by
  refine perform_of_raw (Q := Untouched shelf) op (fun _ _ _ => rfl) ?_ ?_ ?_
  · intro β γ x f first others banks bank
    rw [outcome_bind, first, outcome_bind]
    exact others _ _ bank
  · intro name banks bank
    rw [getRaw_value, getRaw_value]
    cases place : shelf? hasDisk useNvram op.vendor with
    | none => rfl
    | some other =>
      have ne : other ≠ shelf := fun same => elsewhere (same ▸ place)
      dsimp only
      rw [Shelf.bank_replace_of_ne ne]
  · intro name data persistent banks bank
    rw [setRaw_value, setRaw_value]
    unfold written
    split
    · rfl
    · cases place : shelf? hasDisk useNvram op.vendor with
      | none => rfl
      | some other =>
        have ne : other ≠ shelf := fun same => elsewhere (same ▸ place)
        dsimp only
        rw [Shelf.bank_replace_of_ne ne]
        split
        · rfl
        · rw [Shelf.put_replace_of_ne ne]

end BootManager.VariableBanks
