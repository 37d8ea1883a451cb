import BootManager.Proofs.Text.Identifier
import BootManager.Proofs.Volume.Lookup
import BootManager.Volume.Find

/-!
# Finding a volume

A text that is that of an identifier finds the first volume whose partition has it, whatever the
volumes are called. Every other text is looked for among the names of the volumes, and a name of one
kind counts only if no volume is called so by a kind that goes before it. The main result is
`Volume.find?_findLaw`.
-/

namespace BootManager.Volume

open Text (sameIgnoringCase lower upper)

variable {volumes : List Volume} {wanted : String} {p : Volume → Prop} {found : Option Nat}

/-! ## The first volume with a property -/

/-- What a search comes to: the place of the first volume with a property, or that there is none. -/
def Ends (p : Volume → Prop) (volumes : List Volume) : Option Nat → Prop
  | some place => IsFirst p volumes place
  | none => ∀ v ∈ volumes, ¬p v

theorem findIdx?_ends {has : Volume → Bool} (same : ∀ v, has v = true ↔ p v) :
    Ends p volumes (volumes.findIdx? has) := by
  cases found : volumes.findIdx? has with
  | none =>
    intro v member holds
    have never := List.findIdx?_eq_none_iff.mp found v member
    exact Bool.false_ne_true (never.symm.trans ((same v).mpr holds))
  | some place =>
    obtain ⟨inside, holds, before⟩ := List.findIdx?_eq_some_iff_getElem.mp found
    refine ⟨⟨volumes[place], List.getElem?_eq_getElem inside, (same _).mp holds⟩, ?_⟩
    intro earlier lt v there own
    obtain ⟨_, rfl⟩ := List.getElem?_eq_some_iff.mp there
    exact before earlier lt ((same _).mpr own)

theorem Ends.exists_of_mem (ends : Ends p volumes found) {v : Volume} (member : v ∈ volumes)
    (holds : p v) : ∃ place, found = some place ∧ IsFirst p volumes place := by
  cases found with
  | none => exact absurd holds (ends v member)
  | some place => exact ⟨place, rfl, ends⟩

/-- Only a search that finds nothing is followed by another. -/
theorem Ends.orElse_eq (ends : Ends p volumes found) (other : Option Nat) :
    ((∃ v ∈ volumes, p v) → (found <|> other) = found) ∧
      ((∀ v ∈ volumes, ¬p v) → (found <|> other) = other) := by
  constructor
  · rintro ⟨v, member, holds⟩
    obtain ⟨place, rfl, -⟩ := ends.exists_of_mem member holds
    rfl
  · intro never
    cases found with
    | none => rfl
    | some place =>
      obtain ⟨⟨v, there, holds⟩, -⟩ := ends
      exact absurd holds (never v (List.mem_of_getElem? there))

/-! ## Names -/

/-- A name is there and is the one asked for, ignoring case. -/
def IsCalled (wanted : String) (name : Option String) : Prop :=
  ∃ own, name = some own ∧ sameIgnoringCase own wanted = true

theorem isNamed_iff {name : Option String} : isNamed name wanted = true ↔ IsCalled wanted name := by
  cases name <;> simp [isNamed, IsCalled]

/-- A volume is called by a name of some kind. -/
def AnyCalled (volumes : List Volume) (wanted : String) (kind : Volume → Option String) : Prop :=
  ∃ v ∈ volumes, IsCalled wanted (kind v)

/-- The place of the first volume that is called so by a name of some kind. -/
def named? (volumes : List Volume) (wanted : String) (kind : Volume → Option String) :
    Option Nat :=
  volumes.findIdx? fun v => isNamed (kind v) wanted

theorem named?_ends (kind : Volume → Option String) :
    Ends (fun v => IsCalled wanted (kind v)) volumes (named? volumes wanted kind) :=
  findIdx?_ends fun _ => isNamed_iff

/-- Names of one kind are looked at before those of the next. -/
theorem named?_orElse_eq (kind : Volume → Option String) (other : Option Nat) :
    (AnyCalled volumes wanted kind →
        (named? volumes wanted kind <|> other) = named? volumes wanted kind) ∧
      (¬AnyCalled volumes wanted kind → (named? volumes wanted kind <|> other) = other) := by
  have ends : Ends (fun v => IsCalled wanted (kind v)) volumes (named? volumes wanted kind) :=
    named?_ends kind
  obtain ⟨here, after⟩ := ends.orElse_eq other
  exact ⟨here, fun never => after fun v member called => never ⟨v, member, called⟩⟩

theorem findNamed?_eq (volumes : List Volume) (wanted : String) : findNamed? volumes wanted =
    (named? volumes wanted (·.name?) <|> named? volumes wanted (·.partName) <|>
      named? volumes wanted (·.fsName)) :=
  rfl

/-! ## Lookups -/

theorem value_find?_of_isTextOf {g : Guid} (text : Guid.IsTextOf wanted g) :
    (find? volumes wanted).value = volumes.findIdx? fun v => v.partGuid == some g := by
  rw [find?, Guid.ofText?_eq_some_iff.mpr text]
  rfl

theorem value_find?_of_not_isTextOf (other : ∀ g, ¬Guid.IsTextOf wanted g) :
    (find? volumes wanted).value = findNamed? volumes wanted := by
  have unread : Guid.ofText? wanted = none :=
    Option.eq_none_iff_forall_ne_some.mpr fun g read => other g (Guid.ofText?_eq_some_iff.mp read)
  rw [find?, unread]
  dsimp only
  split <;> rfl

/-- What a text finds among volumes. -/
structure FindLaw (volumes : List Volume) : Prop where
  /-- The text of an identifier, whatever the names are. -/
  identifier : ∀ wanted g, Guid.IsTextOf wanted g →
    Ends (fun v => v.partGuid = some g) volumes (find? volumes wanted).value
  /-- Any other text finds the first volume that is called so. -/
  name : ∀ wanted, (∀ g, ¬Guid.IsTextOf wanted g) → AnyCalled volumes wanted (·.name?) →
    Ends (fun v => IsCalled wanted v.name?) volumes (find? volumes wanted).value
  /-- Without one, the first whose partition is called so. -/
  partName : ∀ wanted, (∀ g, ¬Guid.IsTextOf wanted g) → ¬AnyCalled volumes wanted (·.name?) →
    AnyCalled volumes wanted (·.partName) →
    Ends (fun v => IsCalled wanted v.partName) volumes (find? volumes wanted).value
  /-- Without one, the first whose filesystem is called so, or none. -/
  fsName : ∀ wanted, (∀ g, ¬Guid.IsTextOf wanted g) → ¬AnyCalled volumes wanted (·.name?) →
    ¬AnyCalled volumes wanted (·.partName) →
    Ends (fun v => IsCalled wanted v.fsName) volumes (find? volumes wanted).value
  /-- A volume with an identifier is never missed: its text in small or in capital letters finds the
  first volume that has it. -/
  written : ∀ v ∈ volumes, ∀ g, v.partGuid = some g → ∀ text ∈ [lower g.toText, upper g.toText],
    ∃ place, (find? volumes text).value = some place ∧
      IsFirst (fun w => w.partGuid = some g) volumes place

/-- An identifier goes before any name, and one kind of name before the next. -/
theorem find?_findLaw (volumes : List Volume) : FindLaw volumes := by
  have identifier (wanted : String) (g : Guid) (text : Guid.IsTextOf wanted g) :
      Ends (fun v => v.partGuid = some g) volumes (find? volumes wanted).value := by
    rw [value_find?_of_isTextOf text]
    exact findIdx?_ends fun v => beq_iff_eq
  refine ⟨identifier, ?name, ?partName, ?fsName, ?written⟩
  case name =>
    intro wanted other called
    rw [value_find?_of_not_isTextOf other, findNamed?_eq, (named?_orElse_eq _ _).1 called]
    exact named?_ends _
  case partName =>
    intro wanted other never called
    rw [value_find?_of_not_isTextOf other, findNamed?_eq, (named?_orElse_eq _ _).2 never,
      (named?_orElse_eq _ _).1 called]
    exact named?_ends _
  case fsName =>
    intro wanted other never neverPart
    rw [value_find?_of_not_isTextOf other, findNamed?_eq, (named?_orElse_eq _ _).2 never,
      (named?_orElse_eq _ _).2 neverPart]
    exact named?_ends _
  case written =>
    intro v member g own text spelled
    exact (identifier text g (Guid.isTextOf_of_spelled spelled)).exists_of_mem member own

end BootManager.Volume
