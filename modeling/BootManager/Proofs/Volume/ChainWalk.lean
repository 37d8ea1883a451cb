import BootManager.Volume.ExtendedChain

/-!
# Walks along a chain

What a step of a walk can do, and that polling a walk hands out what walking to the end of the chain
at once collects.
-/

namespace BootManager.ChainWalk

/-! ## Steps -/

/-- The table at a block of a device. There is none if the block cannot be read or is not signed. -/
def tableAt? (device : Device) (block : Nat) : Option MbrTable :=
  match readTable? device block with
  | .error _ => none
  | .ok table => table

/-- A walk that took up a block of the chain. -/
def reach (block : Nat) (w : ChainWalk) : ChainWalk :=
  { w with next := none, visited := block :: w.visited, reads := w.reads + 1 }

/-- What a step of a walk comes to: the chain is over, or leads where it must not, or its next table
is read, which may end it as well. -/
inductive Advance (device : Device) (w : ChainWalk) : Step × ChainWalk → Prop where
  | ended (none : w.next = none) : Advance device w (.ended, w)
  | malformed (block : Nat) (visited : List Nat) (some : w.next = some block)
      (bad : block ∈ w.visited ∨ maxLinks ≤ w.visited.length) (kept : w.visited <:+ visited) :
      Advance device w (.malformed block, { w with next := none, visited })
  | unreadable (block : Nat) (some : w.next = some block) (new : block ∉ w.visited)
      (room : w.visited.length < maxLinks) (missing : tableAt? device block = none) :
      Advance device w (.ended, w.reach block)
  | table (block : Nat) (table : MbrTable) (some : w.next = some block) (new : block ∉ w.visited)
      (room : w.visited.length < maxLinks) (present : tableAt? device block = .some table) :
      Advance device w (.more, (w.reach block).takeTable block table)

theorem advance_spec (device : Device) (w : ChainWalk) :
    Advance device w (w.advance device).value := by
  unfold advance
  cases next : w.next with
  | none => exact .ended next
  | some block =>
    dsimp only
    by_cases visited : block ∈ w.visited
    · rw [if_pos visited]
      exact .malformed block w.visited next (.inl visited) (List.suffix_refl _)
    · rw [if_neg visited]
      by_cases full : w.visited.length ≥ maxLinks
      · rw [if_pos full]
        exact .malformed block _ next (.inr full) (List.suffix_cons _ _)
      · rw [if_neg full]
        have room : w.visited.length < maxLinks := Nat.lt_of_not_le full
        cases read : readTable? device block with
        | error error =>
          exact .unreadable block next visited room (by rw [tableAt?, read])
        | ok found =>
          cases found with
          | none => exact .unreadable block next visited room (by rw [tableAt?, read])
          | some table => exact .table block table next visited room (by rw [tableAt?, read])

/-! ## Walking to the end -/

variable {device : Device}

/-- What holds of a walk if it holds after a step that goes on holds of every walk, since a chain is
followed for a limited number of tables. -/
theorem induction_advance (device : Device) {P : ChainWalk → Prop}
    (step : ∀ w, (∀ next, (w.advance device).value = (.more, next) → P next) → P w)
    (w : ChainWalk) : P w := by
  induction size : w.budget using Nat.strongRecOn generalizing w with
  | ind n ih =>
    subst size
    refine step w fun next goes => ih next.budget ?_ next rfl
    have went : w.advance device = ⟨(.more, next), (w.advance device).messages⟩ := by
      rw [← goes]
    exact budget_advance went

theorem value_collect (w : ChainWalk) : (w.collect device).value =
    match (w.advance device).value with
    | (.more, next) => (next.collect device).value
    | (.ended, next) => ⟨next.pending, none⟩
    | (.malformed block, next) => ⟨next.pending, some (.malformedPartitionTable block)⟩ := by
  rw [collect]
  split
  next went => rw [went]
  next went => rw [went]
  next went => rw [went]

theorem value_poll (w : ChainWalk) : (w.poll device).value =
    match w.pending with
    | partition :: rest => (some (.ok partition), { w with pending := rest })
    | [] =>
      if w.failed then (none, w)
      else
        match (w.advance device).value with
        | (.more, next) => (next.poll device).value
        | (.ended, next) => (none, next)
        | (.malformed block, next) =>
          (some (.error (.malformedPartitionTable block)), { next with failed := true }) := by
  rw [poll]
  cases w.pending with
  | cons partition rest => rfl
  | nil =>
    dsimp only
    by_cases failed : w.failed = true
    · rw [if_pos failed, if_pos failed]
      rfl
    · rw [if_neg failed, if_neg failed]
      split
      next went => rw [went]
      next went => rw [went]
      next went => rw [went]

/-- A walk with partitions that are handed out before all others. -/
def prepend (first : List LogicalPartition) (w : ChainWalk) : ChainWalk :=
  { w with pending := first ++ w.pending }

theorem advance_prepend (first : List LogicalPartition) (w : ChainWalk) :
    ((w.prepend first).advance device).value =
      ((w.advance device).value.1, (w.advance device).value.2.prepend first) := by
  unfold advance prepend
  dsimp only
  split
  · rfl
  · split
    · rfl
    · split
      · rfl
      · split
        · rfl
        · rfl
        · simp [takeTable]

theorem collect_prepend (first : List LogicalPartition) (w : ChainWalk) :
    ((w.prepend first).collect device).value =
      ⟨first ++ (w.collect device).value.partitions, (w.collect device).value.error⟩ := by
  induction w using induction_advance device with
  | step w ih =>
    rw [value_collect, value_collect w, advance_prepend]
    rcases went : (w.advance device).value with ⟨step, next⟩
    cases step with
    | more => exact ih next went
    | ended => rfl
    | malformed block => rfl

/-! ## Polling -/

/-- The walk after it was polled a number of times. -/
def polled (device : Device) : Nat → ChainWalk → ChainWalk
  | 0, w => w
  | n + 1, w => polled device n (w.poll device).value.2

/-- What a walk hands out when it is polled after it was polled `n` times. -/
def handed? (device : Device) (n : Nat) (w : ChainWalk) : Option Found :=
  ((polled device n w).poll device).value.1

/-- What was collected up to the end of a chain, as it is handed out. -/
def Walked.found (walked : Walked) : List Found :=
  walked.partitions.map .ok ++ walked.error.toList.map .error

/-- What a walk still has to hand out. -/
def remaining (device : Device) (w : ChainWalk) : List Found :=
  if w.failed then w.pending.map .ok else (w.collect device).value.found

/-- A step changes nothing about whether the walk ended with an error. -/
theorem failed_of_advance {w : ChainWalk} {outcome : Step × ChainWalk}
    (went : Advance device w outcome) : outcome.2.failed = w.failed := by
  cases went with
  | ended => rfl
  | malformed => rfl
  | unreadable => rfl
  | table => rfl

/-- A step after which the chain is over found no further partitions and no further table. -/
theorem ended_of_advance {w next : ChainWalk} (went : Advance device w (.ended, next)) :
    next.next = none ∧ next.pending = w.pending := by
  cases went with
  | ended none => exact ⟨none, rfl⟩
  | unreadable => exact ⟨rfl, rfl⟩

theorem malformed_of_advance {w next : ChainWalk} {block : Nat}
    (went : Advance device w (.malformed block, next)) : next.pending = w.pending := by
  cases went with
  | malformed => rfl

theorem remaining_cons {partition : LogicalPartition} {rest : List LogicalPartition}
    {w : ChainWalk} (queued : w.pending = partition :: rest) :
    remaining device w = .ok partition :: remaining device { w with pending := rest } := by
  unfold remaining
  dsimp only
  split
  next => rw [queued, List.map_cons]
  next =>
    have whole : w = ({ w with pending := rest } : ChainWalk).prepend [partition] := by
      rw [prepend, List.singleton_append, ← queued]
    rw [whole, collect_prepend]
    rfl

/-- A walk that has nothing in hand and no table to read has nothing to hand out. -/
theorem remaining_of_past {w : ChainWalk} (none : w.next = none) (empty : w.pending = []) :
    remaining device w = [] := by
  have past : (w.advance device).value = (.ended, w) := by
    unfold advance
    rw [none]
    rfl
  unfold remaining
  split
  · rw [empty, List.map_nil]
  · rw [value_collect, past]
    dsimp only
    rw [empty]
    rfl

/-- A poll hands out the first of what remains, and leaves the rest. -/
theorem poll_spec (w : ChainWalk) :
    (w.poll device).value.1 = (remaining device w).head? ∧
      remaining device (w.poll device).value.2 = (remaining device w).tail := by
  -- one poll takes steps until there is something in hand, so the induction is on those
  induction w using induction_advance device with
  | step w ih =>
    rw [value_poll]
    cases queued : w.pending with
    | cons partition rest =>
      rw [remaining_cons queued]
      exact ⟨rfl, rfl⟩
    | nil =>
      dsimp only
      by_cases failed : w.failed = true
      · have nothing : remaining device w = [] := by
          rw [remaining, if_pos failed, queued, List.map_nil]
        rw [if_pos failed]
        dsimp only
        rw [nothing]
        exact ⟨rfl, rfl⟩
      · have rest : remaining device w = (w.collect device).value.found := if_neg failed
        rw [if_neg failed, rest, value_collect]
        have step := advance_spec device w
        rcases went : (w.advance device).value with ⟨outcome, next⟩
        rw [went] at step
        have running : next.failed = false := (failed_of_advance step).trans (by simpa using failed)
        cases outcome with
        | more =>
          obtain ⟨first, others⟩ := ih next went
          have same : remaining device next = (next.collect device).value.found :=
            if_neg (by simp [running])
          rw [← same]
          exact ⟨first, others⟩
        | ended =>
          obtain ⟨past, pending⟩ := ended_of_advance step
          have empty : next.pending = [] := pending.trans queued
          dsimp only
          rw [empty, remaining_of_past past empty]
          exact ⟨rfl, rfl⟩
        | malformed block =>
          have empty : next.pending = [] := (malformed_of_advance step).trans queued
          dsimp only
          rw [empty]
          exact ⟨rfl, if_pos rfl⟩

theorem handed?_eq (n : Nat) (w : ChainWalk) : handed? device n w = (remaining device w)[n]? := by
  unfold handed?
  induction n generalizing w with
  | zero =>
    rw [polled, (poll_spec w).1, List.head?_eq_getElem?]
  | succ n ih =>
    rw [polled, ih, (poll_spec w).2, List.getElem?_tail]

/-! ## Reads -/

/-- A walk never read more tables than it reached, and never more than are followed. -/
structure Modest (w : ChainWalk) : Prop where
  reached : w.reads ≤ w.visited.length
  limited : w.reads ≤ maxLinks

theorem Modest.of_advance {w : ChainWalk} (modest : w.Modest) {outcome : Step × ChainWalk}
    (went : Advance device w outcome) : outcome.2.Modest := by
  obtain ⟨reached, limited⟩ := modest
  have reach (block : Nat) (room : w.visited.length < maxLinks) : (w.reach block).Modest :=
    ⟨Nat.succ_le_succ reached, by simp only [ChainWalk.reach]; omega⟩
  cases went with
  | ended => exact ⟨reached, limited⟩
  | malformed block visited some bad kept => exact ⟨Nat.le_trans reached kept.length_le, limited⟩
  | unreadable block some new room => exact reach block room
  | table block table some new room =>
    exact ⟨(reach block room).reached, (reach block room).limited⟩

theorem Modest.poll {w : ChainWalk} (modest : w.Modest) : (w.poll device).value.2.Modest := by
  induction w using induction_advance device with
  | step w ih =>
    rw [value_poll]
    split
    · exact ⟨modest.reached, modest.limited⟩
    · split
      · exact modest
      · have after := modest.of_advance (advance_spec device w)
        rcases went : (w.advance device).value with ⟨outcome, next⟩
        rw [went] at after
        cases outcome with
        | more => exact ih next went after
        | ended => exact after
        | malformed block => exact ⟨after.reached, after.limited⟩

theorem Modest.polled {w : ChainWalk} (modest : w.Modest) (n : Nat) :
    (w.polled device n).Modest := by
  induction n generalizing w with
  | zero => exact modest
  | succ n ih => exact ih modest.poll

end BootManager.ChainWalk
