/-!
# Messages

Computations that report what they notice. A `Logged` value is the result of a computation with the
messages it reported, in order; `restrict` keeps those that a level shows. The lemmas say that the
result of a step never depends on messages, so that statements about results can forget them.
-/

namespace BootManager

/-- How severe a message is, the most severe first. -/
inductive Level where
  | error
  | warn
  | info
  | debug
  | trace
  deriving DecidableEq, Repr

namespace Level

/-- The place of a level in the order of severity. -/
def rank : Level → Nat
  | error => 0
  | warn => 1
  | info => 2
  | debug => 3
  | trace => 4

/-- Whether a message of level `message` is shown when everything up to `limit` is. -/
def shows (limit message : Level) : Bool :=
  message.rank ≤ limit.rank

/-- The level shown for a verbosity: warnings at 0 and below, everything at 3 and above. -/
def ofVerbosity (verbosity : Int32) : Level :=
  if verbosity ≤ 0 then .warn
  else if verbosity = 1 then .info
  else if verbosity = 2 then .debug
  else .trace

end Level

/-- A reported message. -/
structure Message where
  level : Level
  text : String
  deriving DecidableEq, Repr

/-- A result with the messages reported while it was computed, oldest first. -/
structure Logged (α : Type) where
  value : α
  messages : List Message

namespace Logged

variable {α β : Type}

instance : Monad Logged where
  pure a := ⟨a, []⟩
  bind x f := ⟨(f x.value).value, x.messages ++ (f x.value).messages⟩

@[ext] theorem ext {x y : Logged α} (value : x.value = y.value)
    (messages : x.messages = y.messages) : x = y := by
  cases x; cases y; simp_all

@[simp] theorem value_pure (a : α) : (pure a : Logged α).value = a := rfl

@[simp] theorem messages_pure (a : α) : (pure a : Logged α).messages = [] := rfl

@[simp] theorem value_bind (x : Logged α) (f : α → Logged β) :
    (x >>= f).value = (f x.value).value := rfl

@[simp] theorem messages_bind (x : Logged α) (f : α → Logged β) :
    (x >>= f).messages = x.messages ++ (f x.value).messages := rfl

@[simp] theorem value_map (f : α → β) (x : Logged α) : (f <$> x).value = f x.value := rfl

instance : LawfulMonad Logged :=
  LawfulMonad.mk' Logged
    (fun x => by ext1 <;> simp [Functor.map])
    (fun _ _ => by ext1 <;> simp)
    (fun _ _ _ => by ext1 <;> simp)

@[simp] theorem value_mapM (f : α → Logged β) (l : List α) :
    (l.mapM f).value = l.map fun a => (f a).value := by
  induction l with
  | nil => rfl
  | cons a rest ih => simp [List.mapM_cons, ih]

@[simp] theorem value_foldlM (f : β → α → Logged β) (l : List α) (b : β) :
    (l.foldlM f b).value = l.foldl (fun b a => (f b a).value) b := by
  induction l generalizing b with
  | nil => rfl
  | cons a rest ih => simp [List.foldlM_cons, ih]

/-- Reports one message. -/
def report (level : Level) (text : String) : Logged Unit :=
  ⟨(), [⟨level, text⟩]⟩

/-- Reports something the user should look at. -/
def warn (text : String) : Logged Unit :=
  report .warn text

/-- Reports progress. -/
def info (text : String) : Logged Unit :=
  report .info text

/-- Reports a detail. -/
def debug (text : String) : Logged Unit :=
  report .debug text

/-- Drops the messages that `limit` does not show. -/
def restrict (limit : Level) (x : Logged α) : Logged α :=
  ⟨x.value, x.messages.filter fun m => limit.shows m.level⟩

end Logged

end BootManager
