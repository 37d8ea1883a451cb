/-!
# Tables

A table gives every key of a kind its value. Settings of one kind are kept in one table, so that
what holds of setting one of them holds of all.
-/

namespace BootManager.Config

/-- A value for every key. -/
def Table (κ : Type) (α : Type) : Type := κ → α

namespace Table

variable {κ α : Type}

/-- The same value for every key. -/
def const (a : α) : Table κ α := fun _ => a

/-- Gives one key a value and leaves the others alone. -/
def set [DecidableEq κ] (t : Table κ α) (key : κ) (a : α) : Table κ α :=
  fun k => if k = key then a else t k

/-- The value of a key. -/
def get (t : Table κ α) (key : κ) : α := t key

@[ext] theorem ext {t u : Table κ α} (same : ∀ key, t.get key = u.get key) : t = u :=
  funext same

theorem get_set [DecidableEq κ] (t : Table κ α) (key other : κ) (a : α) :
    (t.set key a).get other = if other = key then a else t.get other := rfl

@[simp] theorem get_set_self [DecidableEq κ] (t : Table κ α) (key : κ) (a : α) :
    (t.set key a).get key = a := by
  simp [get_set]

theorem get_set_of_ne [DecidableEq κ] (t : Table κ α) {key other : κ} (a : α) (ne : other ≠ key) :
    (t.set key a).get other = t.get other := by
  simp [get_set, ne]

theorem set_comm [DecidableEq κ] (t : Table κ α) {key other : κ} (a b : α) (ne : key ≠ other) :
    (t.set key a).set other b = (t.set other b).set key a := by
  ext k
  by_cases isKey : k = key <;> by_cases isOther : k = other <;> simp_all [get_set]

end Table

end BootManager.Config
