import BootManager.Log
import BootManager.Volume.Device
import BootManager.Volume.Mbr

/-!
# Extended partitions

An extended partition holds a chain of tables. Every table describes partitions of its own and may
end in a link to the next, counted from the start of the extended partition. The chain is data from
a disk: a link that was followed before, or one too many, ends the walk with an error.
-/

namespace BootManager

/-- A partition inside of an extended one. -/
structure LogicalPartition where
  /-- Its number, from 4 on. -/
  index : Nat
  /-- Its first block on the disk. -/
  offset : Nat
  entry : MbrEntry
  deriving DecidableEq, Repr

/-- A walk along the chain of an extended partition. -/
structure ChainWalk where
  /-- Where the extended partition starts, which links are counted from. -/
  base : Nat
  /-- The table to read next. -/
  next : Option Nat
  /-- The tables that were reached, the last one first. -/
  visited : List Nat
  /-- Partitions that were found and not handed out yet. -/
  pending : List LogicalPartition
  /-- The number of the next partition that is found. -/
  index : Nat
  /-- How many tables were read from the device. -/
  reads : Nat
  /-- Whether the walk ended with an error. -/
  failed : Bool
  deriving DecidableEq, Repr

namespace ChainWalk

/-- How many tables of a chain are followed. -/
def maxLinks : Nat := 128

/-- The number of the first partition inside of an extended one. -/
def firstIndex : Nat := 4

/-- A walk that starts at an extended partition. -/
def start (entry : MbrEntry) : ChainWalk :=
  let base := entry.startLba.toNat
  { base
    next := if base = 0 then none else some base
    visited := []
    pending := []
    index := firstIndex
    reads := 0
    failed := false }

/-- The entries of a table that describe partitions of its own, and the link after them. Nothing
after an entry without partition counts. -/
def cutTable : List MbrEntry → List MbrEntry × Option MbrEntry
  | [] => ([], none)
  | entry :: rest =>
    if (entry.hasValidFlags && entry.isUsed) = false then ([], none)
    else if entry.isExtended then ([], some entry)
    else
      let cut := cutTable rest
      (entry :: cut.1, cut.2)

/-- The table at a block of a device, if it can be read and is signed. -/
def readTable? (device : Device) (block : Nat) : Except ScanError (Option MbrTable) :=
  match device.read block (max device.blockSize 512) with
  | .error error => .error error
  | .ok sector =>
    .ok (if Buffer.hasBootSignature sector.toArray then MbrTable.ofSector? sector.toArray else none)

/-- Takes up what the table at `block` describes. -/
def takeTable (block : Nat) (table : MbrTable) (w : ChainWalk) : ChainWalk :=
  let cut := cutTable table.toList
  { w with
    next := cut.2.map fun link => w.base + link.startLba.toNat
    pending := w.pending ++ cut.1.mapIdx fun i entry =>
      ⟨w.index + i, block + entry.startLba.toNat, entry⟩
    index := w.index + cut.1.length }

/-- What a step of a walk came to. -/
inductive Step where
  | more
  | ended
  /-- The chain leads to this block, where it must not. -/
  | malformed (block : Nat)
  deriving DecidableEq, Repr

/-- Reads the next table of the chain. -/
def advance (device : Device) (w : ChainWalk) : Logged (Step × ChainWalk) :=
  match w.next with
  | none => pure (.ended, w)
  | some block =>
    if block ∈ w.visited then pure (.malformed block, { w with next := none })
    else if w.visited.length ≥ maxLinks then
      pure (.malformed block, { w with next := none, visited := block :: w.visited })
    else
      let reached := { w with next := none, visited := block :: w.visited, reads := w.reads + 1 }
      match readTable? device block with
      | .error error => do
        let text := error.message
        Logged.debug s!"Stopping EBR walk at block {block}: {text}"
        pure (.ended, reached)
      | .ok none => pure (.ended, reached)
      | .ok (some table) => pure (.more, reached.takeTable block table)

/-- How many tables may still be followed. -/
def budget (w : ChainWalk) : Nat :=
  maxLinks - w.visited.length

theorem budget_advance {device : Device} {w next : ChainWalk} {messages : List Message}
    (step : w.advance device = ⟨(.more, next), messages⟩) : next.budget < w.budget := by
  unfold advance at step
  split at step
  · simp [pure] at step
  · split at step
    · simp [pure] at step
    · split at step
      · simp [pure] at step
      · split at step
        · simp [pure, bind] at step
        · simp [pure] at step
        next room _ table _ =>
          simp only [pure, Logged.mk.injEq, Prod.mk.injEq, true_and] at step
          rw [← step.1]
          simp only [budget, takeTable, List.length_cons]
          omega

/-- What a walk hands out: a partition, or the error it ends with. -/
abbrev Found := Except ScanError LogicalPartition

/-- Hands out the next partition, or nothing once the walk has ended. -/
def poll (device : Device) (w : ChainWalk) : Logged (Option Found × ChainWalk) :=
  match w.pending with
  | partition :: rest => pure (some (.ok partition), { w with pending := rest })
  | [] =>
    if w.failed then pure (none, w)
    else
      match _step : w.advance device with
      | ⟨(.more, next), messages⟩ =>
        let rest := poll device next
        ⟨rest.value, messages ++ rest.messages⟩
      | ⟨(.ended, next), messages⟩ => ⟨(none, next), messages⟩
      | ⟨(.malformed block, next), messages⟩ =>
        let error := ScanError.malformedPartitionTable block
        ⟨(some (.error error), { next with failed := true }), messages ++ [⟨.warn, error.message⟩]⟩
termination_by w.budget
decreasing_by exact budget_advance _step

/-- The partitions of a walk up to its end, and the error it ended with. -/
structure Walked where
  partitions : List LogicalPartition
  error : Option ScanError
  deriving DecidableEq, Repr

/-- Walks to the end of a chain. Partitions that were found before an error are kept. -/
def collect (device : Device) (w : ChainWalk) : Logged Walked :=
  match _step : w.advance device with
  | ⟨(.more, next), messages⟩ =>
    let rest := collect device next
    ⟨rest.value, messages ++ rest.messages⟩
  | ⟨(.ended, next), messages⟩ => ⟨⟨next.pending, none⟩, messages⟩
  | ⟨(.malformed block, next), messages⟩ =>
    let error := ScanError.malformedPartitionTable block
    ⟨⟨next.pending, some error⟩, messages ++ [⟨.warn, error.message⟩]⟩
termination_by w.budget
decreasing_by exact budget_advance _step

end ChainWalk

end BootManager
