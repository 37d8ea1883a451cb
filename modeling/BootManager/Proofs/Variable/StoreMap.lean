import BootManager.Proofs.Variable.Operation

/-!
# A store in memory is a map

Whatever was done with a store before, each of its banks holds a variable at most once, a write that
is refused changes nothing, and a write that is done changes the one variable that it names.
Clearing deletes the variables of the recovery system and counts those that were there. No operation
has anything to do with the bank of another namespace.
-/

namespace BootManager

namespace VariableBank

/-- What identifies the variables of a bank. -/
def keys (bank : VariableBank) : List (Guid × String) :=
  bank.map fun v => (v.vendor, v.name)

theorem nodup_keys_put {bank : VariableBank} (distinct : bank.keys.Nodup) (vendor : Guid)
    (name : String) (data : Bytes) : (bank.put vendor name data).keys.Nodup := by
  have kept : (keys (bank.filter fun v => !v.isCalled vendor name)).Nodup :=
    distinct.sublist (List.filter_sublist.map _)
  have absent : (vendor, name) ∉ keys (bank.filter fun v => !v.isCalled vendor name) := by
    intro member
    obtain ⟨v, inside, same⟩ := List.mem_map.mp member
    obtain ⟨rfl, rfl⟩ := Prod.mk.inj same
    simp [StoredVariable.isCalled] at inside
  unfold put
  split
  · rwa [List.append_nil]
  · rw [keys, List.map_append]
    refine List.nodup_append.mpr ⟨kept, by simp, ?_⟩
    rintro key member other single rfl
    obtain rfl : key = (vendor, name) := by simpa using single
    exact absent member

end VariableBank

namespace VariableBanks

open VariableStore

/-! ## The laws of a map -/

/-- Each bank holds a variable at most once. -/
def IsMap (banks : VariableBanks) : Prop :=
  ∀ shelf : Shelf, (shelf.bank banks).keys.Nodup

/-- A stored value holds another one: it is the same, or has the text of the other in its own. -/
def Holds (old data : Bytes) : Prop :=
  old = data ∨ (textOf data ≠ [] ∧ textOf data <:+: textOf old)

section

variable (hasDisk useNvram : Bool) (banks : VariableBanks)

/-- What a write comes to, and what is found after it. -/
structure WriteLaw (vendor : Guid) (name : String) (data : Bytes)
    (result : Except Failure Unit × VariableBanks) : Prop where
  /-- A write that is refused changes nothing. -/
  refused : ∀ failure, result.1 = .error failure → result.2 = banks
  tooLarge : result.1 = .error (.stored (.tooLarge data.length)) ↔ maxSize < data.length
  /-- Only the boot manager's own variables can lack a place. -/
  noDirectory : result.1 = .error (.stored .noDirectory) ↔
    data.length ≤ maxSize ∧ vendor = ownVendor ∧ useNvram = false ∧ hasDisk = false
  /-- A write is left out in favour of a value that holds the new one, unless there is nothing to
  write or the variable is a list of hidden entries. -/
  unchanged : result.1 = .error (.stored (.unchanged name)) ↔
    data.length ≤ maxSize ∧ data ≠ [] ∧ (∀ list ∈ hiddenLists, Text.lower list ≠ Text.lower name) ∧
      ∃ old, bytesOf hasDisk useNvram banks vendor name = .ok (some old) ∧ Holds old data
  /-- There is no other reason to refuse a write. -/
  causes : ∀ failure, result.1 = .error failure → failure ∈
    [.stored (.tooLarge data.length), .stored .noDirectory, .stored (.unchanged name)]
  /-- What was written is found, and nothing if there was nothing to write. -/
  done : result.1 = .ok () → bytesOf hasDisk useNvram result.2 vendor name =
    .ok (if data.isEmpty then none else some data)
  /-- All other variables stay as they are, in both banks. -/
  others : ∀ (shelf : Shelf) (other : Guid) (otherName : String),
    (other, otherName) ≠ (vendor, name) →
      (shelf.bank result.2).get? other otherName = (shelf.bank banks).get? other otherName

/-- What deleting variables of firmware made by Apple comes to, and what is found after it. -/
structure ClearLaw (names : List String) (result : Except Failure Nat × VariableBanks) :
    Prop where
  /-- The variables that were there are counted. -/
  count : result.1 =
    .ok (names.countP fun name => (banks.firmware.get? appleVendor name).isSome)
  /-- None of them is there afterwards. -/
  gone : ∀ name ∈ names, bytesOf hasDisk useNvram result.2 appleVendor name = .ok none
  /-- All other variables stay as they are, in both banks. -/
  others : ∀ (shelf : Shelf) (vendor : Guid) (name : String),
    (vendor = appleVendor → name ∉ names) →
      (shelf.bank result.2).get? vendor name = (shelf.bank banks).get? vendor name

/-- Which bank an operation has nothing to do with. -/
structure RouteLaw {α : Type} (op : Operation α) : Prop where
  own : op.vendor = ownVendor → useNvram = false →
    Untouched .firmware (op.perform (store hasDisk useNvram))
  other : op.vendor ≠ ownVendor → Untouched .disk (op.perform (store hasDisk useNvram))

/-- A store whose variables are a map from namespaces and names to values. -/
structure MapLaw : Prop where
  isMap : banks.IsMap
  write : ∀ vendor name data persistent, WriteLaw hasDisk useNvram banks vendor name data
    (outcome ((store hasDisk useNvram).setRaw vendor name data persistent) banks)
  clear : ClearLaw hasDisk useNvram banks recoveryNames
    (outcome (store hasDisk useNvram).clearRecovery banks)
  route : ∀ {α : Type} (op : Operation α), RouteLaw hasDisk useNvram op

end

variable {hasDisk useNvram : Bool} {banks : VariableBanks} {vendor : Guid} {name : String}

/-! ## Banks -/

theorem Shelf.bank_put_of_ne {shelf other : Shelf} (ne : other ≠ shelf) (data : Bytes) :
    other.bank (shelf.put banks vendor name data) = other.bank banks := by
  cases shelf <;> cases other <;> simp_all [bank, put]

theorem Shelf.get?_put_of_ne (shelf other : Shelf) {vendor' : Guid} {name' : String} (data : Bytes)
    (ne : (vendor', name') ≠ (vendor, name)) :
    (other.bank (shelf.put banks vendor name data)).get? vendor' name' =
      (other.bank banks).get? vendor' name' := by
  by_cases same : other = shelf
  · subst same
    rw [Shelf.bank_put, VariableBank.get?_put_of_ne _ data ne]
  · rw [Shelf.bank_put_of_ne same]

theorem IsMap.put {banks : VariableBanks} (isMap : banks.IsMap) (shelf : Shelf) (vendor : Guid)
    (name : String) (data : Bytes) : (shelf.put banks vendor name data).IsMap := by
  intro other
  by_cases same : other = shelf
  · subst same
    rw [Shelf.bank_put]
    exact VariableBank.nodup_keys_put (isMap other) vendor name data
  · rw [Shelf.bank_put_of_ne same]
    exact isMap other

theorem shelf?_eq_none_iff : shelf? hasDisk useNvram vendor = none ↔
    vendor = ownVendor ∧ useNvram = false ∧ hasDisk = false := by
  unfold shelf?
  cases hasDisk <;> cases useNvram <;> by_cases own : vendor = ownVendor <;> simp [own]

theorem bytesOf_eq (hasDisk useNvram : Bool) (banks : VariableBanks) (vendor : Guid)
    (name : String) : bytesOf hasDisk useNvram banks vendor name =
      match shelf? hasDisk useNvram vendor with
      | none => .error (.stored .noDirectory)
      | some shelf => .ok ((shelf.bank banks).get? vendor name) :=
  congrArg Prod.fst (getRaw_value hasDisk useNvram banks vendor name)

/-! ## Writing -/

theorem isHiddenList_eq_false_iff : isHiddenList name = false ↔
    ∀ list ∈ hiddenLists, Text.lower list ≠ Text.lower name := by
  simp [isHiddenList, Text.sameIgnoringCase]

/-- A value is held if it is left out at the place where the variable is kept. -/
theorem isHeld_iff {data : Bytes} :
    (data ≠ [] ∧ (∀ list ∈ hiddenLists, Text.lower list ≠ Text.lower name) ∧
      ∃ old, bytesOf hasDisk useNvram banks vendor name = .ok (some old) ∧ Holds old data) ↔
    ∃ shelf, shelf? hasDisk useNvram vendor = some shelf ∧
      isSkipped ((shelf.bank banks).get? vendor name) name data = true := by
  rw [bytesOf_eq, ← isHiddenList_eq_false_iff]
  cases place : shelf? hasDisk useNvram vendor with
  | none => simp
  | some shelf =>
    by_cases empty : data = []
    · simp [isSkipped, empty]
    · simp only [Option.some.injEq, exists_eq_left', isSkipped_iff name empty, Except.ok.injEq,
        Holds]
      constructor
      · rintro ⟨-, plain, old, found, holds⟩
        exact ⟨old, found, plain, holds⟩
      · rintro ⟨old, found, plain, holds⟩
        exact ⟨empty, plain, old, found, holds⟩

/-- The four things that writing can come to. -/
theorem written_cases (hasDisk useNvram : Bool) (banks : VariableBanks) (vendor : Guid)
    (name : String) (data : Bytes) :
    (maxSize < data.length ∧ written hasDisk useNvram banks vendor name data =
      (.error (.stored (.tooLarge data.length)), banks)) ∨
    (data.length ≤ maxSize ∧ shelf? hasDisk useNvram vendor = none ∧
      written hasDisk useNvram banks vendor name data = (.error (.stored .noDirectory), banks)) ∨
    (∃ shelf, data.length ≤ maxSize ∧ shelf? hasDisk useNvram vendor = some shelf ∧
      isSkipped ((shelf.bank banks).get? vendor name) name data = true ∧
      written hasDisk useNvram banks vendor name data =
        (.error (.stored (.unchanged name)), banks)) ∨
    ∃ shelf, data.length ≤ maxSize ∧ shelf? hasDisk useNvram vendor = some shelf ∧
      isSkipped ((shelf.bank banks).get? vendor name) name data = false ∧
      written hasDisk useNvram banks vendor name data =
        (.ok (), shelf.put banks vendor name data) := by
  unfold written
  by_cases large : maxSize < data.length
  · exact .inl ⟨large, if_pos large⟩
  · have small : data.length ≤ maxSize := Nat.le_of_not_lt large
    right
    rw [if_neg large]
    cases place : shelf? hasDisk useNvram vendor with
    | none => exact .inl ⟨small, rfl, rfl⟩
    | some shelf =>
      right
      cases skipped : isSkipped ((shelf.bank banks).get? vendor name) name data with
      | true => exact .inl ⟨shelf, small, rfl, skipped, if_pos skipped⟩
      | false => exact .inr ⟨shelf, small, rfl, skipped, if_neg (by simp [skipped])⟩

theorem writeLaw (vendor : Guid) (name : String) (data : Bytes) (persistent : Bool) :
    WriteLaw hasDisk useNvram banks vendor name data
      (outcome ((store hasDisk useNvram).setRaw vendor name data persistent) banks) := by
  rw [setRaw_value]
  obtain ⟨large, is⟩ | ⟨small, place, is⟩ | ⟨shelf, small, place, skipped, is⟩ |
      ⟨shelf, small, place, skipped, is⟩ := written_cases hasDisk useNvram banks vendor name data
  all_goals rw [is]
  · have notSmall : ¬ data.length ≤ maxSize := Nat.not_le.mpr large
    exact ⟨fun _ _ => rfl, by simp [large], by simp [notSmall], by simp [notSmall], by simp,
      by simp, fun _ _ _ _ => rfl⟩
  · have noPlace := shelf?_eq_none_iff.mp place
    exact ⟨fun _ _ => rfl, by simp [small], by simp [small, noPlace],
      by simp [small, isHeld_iff, place], by simp, by simp, fun _ _ _ _ => rfl⟩
  · have hasPlace : shelf? hasDisk useNvram vendor ≠ none := by simp [place]
    rw [Ne, shelf?_eq_none_iff] at hasPlace
    exact ⟨fun _ _ => rfl, by simp [small], by simp [small, hasPlace],
      by simp [small, isHeld_iff, place, skipped], by simp, by simp, fun _ _ _ _ => rfl⟩
  · have hasPlace : shelf? hasDisk useNvram vendor ≠ none := by simp [place]
    rw [Ne, shelf?_eq_none_iff] at hasPlace
    refine ⟨by simp, by simp [small], by simp [small, hasPlace],
      by simp [small, isHeld_iff, place, skipped], by simp, fun _ => ?_,
      fun other _ _ ne => Shelf.get?_put_of_ne shelf other data ne⟩
    simp [bytesOf_eq, place, VariableBank.get?_put_self]

/-! ## Clearing -/

theorem shelf?_apple : shelf? hasDisk useNvram appleVendor = some .firmware :=
  if_neg fun own => absurd own.1 (by decide)

/-- Deleting is never refused. -/
theorem written_apple_nil (name : String) : written hasDisk useNvram banks appleVendor name [] =
    (.ok (), Shelf.firmware.put banks appleVendor name []) := by
  simp [written, shelf?_apple, isSkipped]

theorem bytesOf_apple (name : String) : bytesOf hasDisk useNvram banks appleVendor name =
    .ok (banks.firmware.get? appleVendor name) := by
  rw [bytesOf_eq, shelf?_apple]
  rfl

theorem outcome_clear_cons (name : String) (names : List String) :
    outcome ((store hasDisk useNvram).clear (name :: names)) banks =
      if (banks.firmware.get? appleVendor name).isSome then
        let after := outcome ((store hasDisk useNvram).clear names)
          (Shelf.firmware.put banks appleVendor name [])
        (after.1.map (· + 1), after.2)
      else outcome ((store hasDisk useNvram).clear names) banks := by
  rw [VariableStore.clear, outcome_bind, getRaw_value, shelf?_apple]
  dsimp only
  cases found : (Shelf.firmware.bank banks).get? appleVendor name with
  | none =>
    have absent : ¬ (banks.firmware.get? appleVendor name).isSome = true := by
      simpa [Shelf.bank] using found
    rw [if_neg absent]
  | some old =>
    have present : (banks.firmware.get? appleVendor name).isSome = true := by
      simpa [Shelf.bank] using Option.isSome_of_eq_some found
    rw [if_pos present]
    dsimp only
    rw [outcome_bind, setRaw_value, written_apple_nil]
    rfl

/-- Deleting variables after the first of them is gone, and no other was changed. -/
theorem ClearLaw.cons {next : VariableBanks} {names : List String}
    {result : Except Failure Nat × VariableBanks} (once : name ∉ names)
    (absent : next.firmware.get? appleVendor name = none)
    (kept : ∀ (shelf : Shelf) (vendor : Guid) (other : String),
      (vendor, other) ≠ (appleVendor, name) →
        (shelf.bank next).get? vendor other = (shelf.bank banks).get? vendor other)
    (later : ClearLaw hasDisk useNvram next names result) :
    ClearLaw hasDisk useNvram banks (name :: names)
      (result.1.map (· + if (banks.firmware.get? appleVendor name).isSome then 1 else 0),
        result.2) where
  count := by
    have same : ∀ other ∈ names,
        (next.firmware.get? appleVendor other).isSome = true ↔
          (banks.firmware.get? appleVendor other).isSome = true := by
      intro other member
      have apart : (appleVendor, other) ≠ (appleVendor, name) := by
        rintro ⟨⟩
        exact once member
      have unchanged := kept .firmware appleVendor other apart
      simp only [Shelf.bank] at unchanged
      rw [unchanged]
    rw [later.count, List.countP_cons, List.countP_congr same]
    rfl
  gone other member := by
    rcases List.mem_cons.mp member with rfl | member
    · rw [bytesOf_apple]
      exact congrArg Except.ok
        ((later.others .firmware appleVendor other fun _ => once).trans absent)
    · exact later.gone other member
  others shelf vendor other ne := by
    have apart : (vendor, other) ≠ (appleVendor, name) := by
      rintro ⟨⟩
      exact ne rfl (List.mem_cons_self ..)
    rw [← kept shelf vendor other apart]
    exact later.others shelf vendor other fun apple member =>
      ne apple (List.mem_cons_of_mem _ member)

theorem clearLaw (banks : VariableBanks) {names : List String} (distinct : names.Nodup) :
    ClearLaw hasDisk useNvram banks names
      (outcome ((store hasDisk useNvram).clear names) banks) := by
  induction names generalizing banks with
  | nil => exact ⟨rfl, by simp, fun _ _ _ _ => rfl⟩
  | cons name names ih =>
    obtain ⟨once, distinct⟩ := List.nodup_cons.mp distinct
    rw [outcome_clear_cons]
    by_cases present : (banks.firmware.get? appleVendor name).isSome = true
    · have later := ih (Shelf.firmware.put banks appleVendor name []) distinct
      have all := later.cons once (VariableBank.get?_put_self _ _ _ _)
        fun shelf _ _ apart => Shelf.get?_put_of_ne .firmware shelf [] apart
      rwa [if_pos present] at all ⊢
    · have absent : banks.firmware.get? appleVendor name = none := by simpa using present
      have all := (ih banks distinct).cons once absent fun _ _ _ _ => rfl
      rw [if_neg present] at all ⊢
      rwa [show (· + 0 : Nat → Nat) = id from rfl, Except.map_id, id] at all

/-! ## Any number of operations -/

theorem routeLaw {α : Type} (op : Operation α) : RouteLaw hasDisk useNvram op := by
  constructor
  · intro own notNvram
    refine perform_untouched op ?_
    rw [shelf?, if_pos ⟨own, notNvram⟩]
    cases hasDisk <;> simp
  · intro other
    refine perform_untouched op ?_
    rw [shelf?, if_neg fun own => other own.1]
    simp

/-- After any operations on a store in memory its variables are a map: each is there at most once, a
write that is refused changes nothing, one that is done changes what it names and nothing else, the
variables of the recovery system are cleared and counted, and no operation has anything to do with
the bank of another namespace. -/
theorem afterRun_mapLaw (hasDisk useNvram : Bool) {start : VariableBanks} (isMap : start.IsMap)
    (run : List ((α : Type) × Operation α)) :
    MapLaw hasDisk useNvram (afterRun hasDisk useNvram start run) :=
  ⟨afterRun_keeps (fun shelf _ vendor name data kept => kept.put shelf vendor name data) run isMap,
    writeLaw, clearLaw _ (by decide), routeLaw⟩

/-- Variables in both banks, among them one of the recovery system. -/
def stocked : VariableBanks where
  firmware := [⟨appleVendor, "recovery-boot-mode", [0x75]⟩, ⟨appleVendor, csrName, [0x77, 0, 0, 0]⟩]
  disk := [⟨ownVendor, "HiddenTags", [0x61]⟩]

/-- A mask that is left out, a list that is written again, a value of a type, and clearing. -/
def stockedRun : List ((α : Type) × Operation α) :=
  [⟨_, .setActiveCsr 0x77⟩, ⟨_, .setRaw ownVendor "HiddenTags" [0x61] true⟩,
    ⟨_, .set UInt16 ownVendor "timeout" (some 258)⟩, ⟨_, .clearRecovery⟩]

theorem stocked_mapLaw :
    stocked.IsMap ∧ MapLaw true false (afterRun true false stocked stockedRun) := by
  have isMap : stocked.IsMap := by
    intro shelf
    cases shelf <;> decide
  exact ⟨isMap, afterRun_mapLaw true false isMap stockedRun⟩

end VariableBanks

end BootManager
