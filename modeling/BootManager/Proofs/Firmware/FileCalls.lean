import BootManager.Firmware.FileSystem

/-!
# Calls of a filesystem

An operation on a file makes several calls, and each of them may fail. What the operation leaves is
what the calls that went through have made of the file, one after the other. The main results are
`FileSystem.changed_writeFileAmid` about writing a file, where any of the calls may fail, and
`FileSystem.ok_writeFileAmid_iff` about when it succeeds.
-/

namespace BootManager.Firmware

/-- What a call makes of a file. -/
inductive FileChange where
  | deleted
  /-- There is a new file, which is empty. -/
  | created
  /-- There are new bytes at its start. -/
  | written (count : Nat)
  deriving DecidableEq

namespace FileChange

/-- What there is after a change, where `data` is what is written. -/
def apply (data : Bytes) (node : Option FileNode) : FileChange → Option FileNode
  | deleted => none
  | created => some (.file [])
  | written count =>
    match node with
    | some (.file old) => some (.file (data.take count ++ old.drop count))
    | other => other

/-- What there is after several changes. -/
def applyAll (data : Bytes) (node : Option FileNode) (changes : List FileChange) :
    Option FileNode :=
  changes.foldl (apply data) node

end FileChange

namespace FileSystem

open FileChange

/-! ## Running operations -/

section

variable {α β : Type} {fs after : FileSystem} {x : FileM α} {f : α → FileM β}

/-- What an operation comes to, and the filesystem after it. -/
def outcome (operation : FileM α) (fs : FileSystem) : Except FileError α × FileSystem :=
  operation.run.run fs

@[simp] theorem outcome_pure (a : α) : outcome (pure a) fs = (.ok a, fs) := rfl

@[simp] theorem outcome_get_bind (f : FileSystem → FileM β) :
    outcome (get >>= f) fs = outcome (f fs) fs := rfl

@[simp] theorem outcome_set_bind (other : FileSystem) (f : Unit → FileM β) :
    outcome (set other >>= f) fs = outcome (f ()) other := rfl

@[simp] theorem outcome_modify_bind (g : FileSystem → FileSystem) (f : Unit → FileM β) :
    outcome (modify g >>= f) fs = outcome (f ()) (g fs) := rfl

theorem outcome_bind (x : FileM α) (f : α → FileM β) (fs : FileSystem) :
    outcome (x >>= f) fs =
      match outcome x fs with
      | (.ok a, after) => outcome (f a) after
      | (.error error, after) => (.error error, after) := by
  unfold outcome
  rw [ExceptT.run_bind, StateT.run_bind]
  rcases x.run.run fs with ⟨result, after⟩
  cases result with
  | ok a => rfl
  | error error => rfl

theorem outcome_bind_of_ok {a : α} (done : outcome x fs = (.ok a, after)) :
    outcome (x >>= f) fs = outcome (f a) after := by
  rw [outcome_bind, done]

/-- Whatever comes of an operation that is only tried, one goes on from what it left. -/
theorem outcome_try_bind (x : FileM Unit) (f : Unit → FileM β) (fs : FileSystem) :
    outcome (tryCatch x (fun _ => pure ()) >>= f) fs = outcome (f ()) (outcome x fs).2 := by
  have tried : outcome (tryCatch x fun _ => pure ()) fs = (.ok (), (outcome x fs).2) := by
    unfold outcome
    rw [ExceptT.run_tryCatch, StateT.run_bind]
    rcases x.run.run fs with ⟨result, after⟩
    cases result with
    | ok => rfl
    | error error => rfl
  exact outcome_bind_of_ok tried

theorem outcome_check_bind (fault : Option Status) (error : Status → FileError)
    (f : Unit → FileM β) (fs : FileSystem) :
    outcome (check fault error >>= f) fs =
      match fault with
      | some status => (.error (error status), fs)
      | none => outcome (f ()) fs := by
  cases fault with
  | none => rfl
  | some status => rfl

end

/-! ## What there is at a path -/

section

variable {fs : FileSystem} {path : FilePath} {node : FileNode}

theorem ne_nil_of_node? {old : Bytes} (found : fs.node? path = some (.file old)) : path ≠ [] := by
  rintro rfl
  cases found

theorem ne_nil_of_node?_eq_none (nothing : fs.node? path = none) : path ≠ [] := by
  rintro rfl
  cases nothing

theorem lookup_filter_self (nodes : List (FilePath × FileNode)) (path : FilePath) :
    (nodes.filter fun entry => entry.1 != path).lookup path = none := by
  rw [List.lookup_eq_none_iff]
  intro entry member
  rw [bne_comm]
  exact (List.mem_filter.mp member).2

theorem lookup_filter_of_ne (nodes : List (FilePath × FileNode)) {other : FilePath}
    (ne : other ≠ path) :
    (nodes.filter fun entry => entry.1 != path).lookup other = nodes.lookup other := by
  induction nodes with
  | nil => rfl
  | cons entry rest ih =>
    obtain ⟨key, node⟩ := entry
    by_cases same : key = path
    · subst same
      simp only [List.filter_cons, bne_self_eq_false, Bool.false_eq_true, if_false, ih,
        List.lookup_cons, beq_eq_false_iff_ne.mpr ne]
    · simp only [List.filter_cons, bne_iff_ne, ne_eq, same, not_false_eq_true, if_true,
        List.lookup_cons, ih]

theorem node?_put (nonempty : path ≠ []) (node : FileNode) :
    (fs.put path node).node? path = some node := by
  have named : path.isEmpty = false := List.isEmpty_eq_false_iff.mpr nonempty
  have last : [(path, node)].lookup path = some node := List.lookup_cons_self
  simp only [node?, named, put, List.lookup_append, lookup_filter_self, last, Option.none_or,
    Bool.false_eq_true, if_false]

theorem node?_put_of_ne {other : FilePath} (ne : other ≠ path) (node : FileNode) :
    (fs.put path node).node? other = fs.node? other := by
  have last : [(path, node)].lookup other = none := by
    simp [List.lookup_cons, beq_eq_false_iff_ne.mpr ne]
  simp only [node?, put, List.lookup_append, lookup_filter_of_ne _ ne, last, Option.or_none]

theorem node?_remove (nonempty : path ≠ []) : (fs.remove path).node? path = none := by
  have named : path.isEmpty = false := List.isEmpty_eq_false_iff.mpr nonempty
  simp only [node?, named, remove, lookup_filter_self, Bool.false_eq_true, if_false]

theorem node?_remove_of_ne {other : FilePath} (ne : other ≠ path) :
    (fs.remove path).node? other = fs.node? other := by
  simp only [node?, remove, lookup_filter_of_ne _ ne]

theorem kind?_eq_some_file {old : Bytes} (known : fs.kind? path node = some (.file old)) :
    node = .file old := by
  unfold kind? at known
  split at known
  · cases known
  · split at known
    · cases known
    · cases known
    · exact Option.some.inj known

end

/-! ## Opening -/

/-- What may come of opening something. -/
inductive Opens (fs : FileSystem) (path : FilePath) (mode : OpenMode) :
    Except FileError FileNode × FileSystem → Prop where
  | failed (error : FileError) : Opens fs path mode (.error error, fs)
  | found (node : FileNode) : fs.node? path = some node → Opens fs path mode (.ok node, fs)
  | made (node : FileNode) : mode = .create node → fs.node? path = none →
    Opens fs path mode (.ok node, fs.put path node)

theorem opens_openNode (fs : FileSystem) (path : FilePath) (mode : OpenMode) :
    Opens fs path mode (outcome (openNode path mode) fs) := by
  unfold openNode openVolume
  simp only [bind_assoc, outcome_get_bind, outcome_check_bind]
  cases fs.faults.volume with
  | some status => exact .failed _
  | none =>
    cases fs.faults.opening.lookup path with
    | some status => exact .failed _
    | none =>
      by_cases barred : fs.readOnly = true ∧ mode ≠ .read
      · rw [if_pos barred]
        exact .failed _
      · rw [if_neg barred]
        cases there : fs.node? path with
        | some node => exact .found node there
        | none =>
          cases mode with
          | read => exact .failed _
          | write => exact .failed _
          | create node =>
            by_cases parent : fs.node? path.dropLast = some .directory
            · simp only [parent, if_true]
              exact .made node rfl there
            · simp only [parent, if_false]
              exact .failed _

/-- What may come of opening a file. -/
inductive OpensFile (fs : FileSystem) (path : FilePath) (mode : OpenMode) :
    Except FileError Bytes × FileSystem → Prop where
  | failed (error : FileError) : OpensFile fs path mode (.error error, fs)
  | found (old : Bytes) : fs.node? path = some (.file old) → OpensFile fs path mode (.ok old, fs)
  | made (old : Bytes) : mode = .create (.file old) → fs.node? path = none →
    OpensFile fs path mode (.ok old, fs.put path (.file old))
  /-- Something was made, and is not taken for a file. -/
  | mistaken (error : FileError) (node : FileNode) : mode = .create node → fs.node? path = none →
    OpensFile fs path mode (.error error, fs.put path node)

theorem opensFile_openFile (fs : FileSystem) (path : FilePath) (mode : OpenMode) :
    OpensFile fs path mode (outcome (openFile path mode) fs) := by
  unfold openFile
  rw [outcome_bind]
  have opened := opens_openNode fs path mode
  generalize outcome (openNode path mode) fs = result at opened
  cases opened with
  | failed error => exact .failed error
  | found node there =>
    simp only [outcome_get_bind]
    split
    case h_1 old known => exact .found old (kind?_eq_some_file known ▸ there)
    case h_2 => exact .failed _
  | made node create nothing =>
    simp only [outcome_get_bind]
    split
    case h_1 old known =>
      obtain rfl := kind?_eq_some_file known
      exact .made old create nothing
    case h_2 => exact .mistaken _ node create nothing

/-- Whether it is a file that was opened is told afterwards. -/
theorem outcome_openFile_snd (fs : FileSystem) (path : FilePath) (mode : OpenMode) :
    (outcome (openFile path mode) fs).2 = (outcome (openNode path mode) fs).2 := by
  unfold openFile
  rw [outcome_bind]
  rcases outcome (openNode path mode) fs with ⟨result, after⟩
  cases result with
  | error error => rfl
  | ok node =>
    simp only [outcome_get_bind]
    split
    · rfl
    · rfl

/-! ## What operations change -/

/-- Whether an operation would succeed. -/
def allows {α : Type} (fs : FileSystem) (operation : FileM α) : Bool :=
  (outcome operation fs).1.isOk

/-- What deleting a file makes of it. -/
def deletion (fs : FileSystem) (path : FilePath) : List FileChange :=
  if fs.allows (deleteFile path) then [.deleted] else []

/-- What opening a file to write to it makes of it. -/
def creation (fs : FileSystem) (path : FilePath) : List FileChange :=
  if fs.node? path = none ∧ fs.allows (openNode path (.create (.file []))) = true then [.created]
  else []

/-- What writing to a file makes of it. -/
def writing (fs : FileSystem) (path : FilePath) (data : Bytes) : List FileChange :=
  if fs.allows (openFile path (.create (.file []))) = true ∧ fs.faults.write = none then
    [.written (min (fs.writeLimit.getD data.length) data.length)]
  else []

/-- The changes that were made to a file, one after the other, and nothing else was changed. -/
structure Changed (path : FilePath) (data : Bytes) (changes : List FileChange)
    (fs after : FileSystem) : Prop where
  here : after.node? path = applyAll data (fs.node? path) changes
  elsewhere : ∀ other, other ≠ path → after.node? other = fs.node? other
  /-- What was changed is no directory. -/
  plain : changes ≠ [] → after.node? path ≠ some .directory
  settings : { after with nodes := fs.nodes } = fs
  unchanged : changes = [] → after = fs

section

variable {fs middle after : FileSystem} {path : FilePath} {data : Bytes}
  {changes others : List FileChange}

theorem Changed.refl : Changed path data [] fs fs :=
  ⟨rfl, fun _ _ => rfl, fun some => absurd rfl some, rfl, fun _ => rfl⟩

theorem Changed.faults_eq (changed : Changed path data changes fs after) :
    after.faults = fs.faults := by
  rw [← changed.settings]

theorem Changed.writeLimit_eq (changed : Changed path data changes fs after) :
    after.writeLimit = fs.writeLimit := by
  rw [← changed.settings]

theorem Changed.readLimit_eq (changed : Changed path data changes fs after) :
    after.readLimit = fs.readLimit := by
  rw [← changed.settings]

theorem Changed.trans (first : Changed path data changes fs middle)
    (second : Changed path data others middle after) :
    Changed path data (changes ++ others) fs after := by
  refine ⟨?_, fun other ne => ?_, fun some => ?_, ?_, fun none => ?_⟩
  · rw [second.here, first.here, applyAll, applyAll, applyAll, List.foldl_append]
  · rw [second.elsewhere other ne, first.elsewhere other ne]
  · by_cases last : others = []
    · rw [second.unchanged last]
      refine first.plain fun none => some ?_
      rw [none, last, List.append_nil]
    · exact second.plain last
  · rw [← first.settings, ← second.settings]
  · obtain ⟨none, last⟩ := List.append_eq_nil_iff.mp none
    rw [second.unchanged last, first.unchanged none]

theorem changed_remove (nonempty : path ≠ []) :
    Changed path data [.deleted] fs (fs.remove path) := by
  have gone : (fs.remove path).node? path = none := node?_remove nonempty
  exact ⟨gone, fun _ ne => node?_remove_of_ne ne, fun _ => by simp [gone], rfl,
    fun none => by cases none⟩

theorem changed_create (nonempty : path ≠ []) :
    Changed path data [.created] fs (fs.put path (.file [])) := by
  have made : (fs.put path (.file [])).node? path = some (.file []) := node?_put nonempty _
  exact ⟨made, fun _ ne => node?_put_of_ne ne _, fun _ => by simp [made], rfl,
    fun none => by cases none⟩

theorem changed_write {old : Bytes} (there : fs.node? path = some (.file old)) (count : Nat) :
    Changed path data [.written count] fs
      (fs.put path (.file (data.take count ++ old.drop count))) := by
  have put : (fs.put path (.file (data.take count ++ old.drop count))).node? path =
      some (.file (data.take count ++ old.drop count)) := node?_put (ne_nil_of_node? there) _
  refine ⟨?_, fun _ ne => node?_put_of_ne ne _, fun _ => by simp [put], rfl,
    fun none => by cases none⟩
  rw [put, there]
  rfl

theorem Changed.withFaults (changed : Changed path data changes fs after) (faults : Faults) :
    Changed path data changes { fs with faults := faults } { after with faults := faults } :=
  ⟨changed.here, changed.elsewhere, changed.plain, by rw [← changed.settings], fun none => by
    rw [changed.unchanged none]⟩

end

/-! ## Writing -/

section

variable {fs after : FileSystem} {path : FilePath} {data : Bytes}

theorem deleteFile_cases (fs : FileSystem) (path : FilePath) :
    (∃ error, outcome (deleteFile path) fs = (.error error, fs)) ∨
      path ≠ [] ∧ outcome (deleteFile path) fs = (.ok (), fs.remove path) := by
  unfold deleteFile
  rw [outcome_bind]
  have opened := opensFile_openFile fs path .write
  generalize outcome (openFile path .write) fs = result at opened
  cases opened with
  | failed error => exact .inl ⟨error, rfl⟩
  | made old create => cases create
  | mistaken error node create => cases create
  | found old there =>
    simp only [outcome_get_bind, outcome_check_bind]
    cases fs.faults.delete with
    | some status => exact .inl ⟨_, rfl⟩
    | none => exact .inr ⟨ne_nil_of_node? there, rfl⟩

theorem changed_deleteFile (fs : FileSystem) (path : FilePath) (data : Bytes) :
    Changed path data (fs.deletion path) fs (outcome (deleteFile path) fs).2 := by
  unfold deletion allows
  obtain ⟨error, failed⟩ | ⟨nonempty, done⟩ := deleteFile_cases fs path
  · rw [failed]
    exact .refl
  · rw [done]
    exact changed_remove nonempty

theorem changed_openFile (fs : FileSystem) (path : FilePath) (data : Bytes) :
    Changed path data (fs.creation path) fs
      (outcome (openFile path (.create (.file []))) fs).2 := by
  unfold creation allows
  rw [outcome_openFile_snd]
  have opened := opens_openNode fs path (.create (.file []))
  generalize outcome (openNode path (.create (.file []))) fs = result at opened ⊢
  cases opened with
  | failed error =>
    rw [if_neg fun both => by cases both.2]
    exact .refl
  | found node there =>
    rw [if_neg fun both => by simp [there] at both]
    exact .refl
  | made node create nothing =>
    cases create
    rw [if_pos ⟨nothing, rfl⟩]
    exact changed_create (ne_nil_of_node?_eq_none nothing)

theorem node?_of_openFile {old : Bytes}
    (done : outcome (openFile path (.create (.file []))) fs = (.ok old, after)) :
    after.node? path = some (.file old) := by
  have opened := opensFile_openFile fs path (.create (.file []))
  rw [done] at opened
  cases opened with
  | found _ there => exact there
  | made _ create nothing => exact node?_put (ne_nil_of_node?_eq_none nothing) (.file old)

/-- The second half of writing a file: once the old one is gone, or could not be deleted. -/
def fillFile (path : FilePath) (data : Bytes) : FileM Unit := do
  let old ← openFile path (.create (.file []))
  let fs ← get
  check fs.faults.write fun status => .writing status 0
  let room := fs.writeLimit.getD data.length
  set (fs.put path (.file (data.take room ++ old.drop (min room data.length))))
  if room < data.length then throw (.writing .volumeFull room)
  check fs.faults.flush .flushing

/-- Writes a file, where other calls may fail after the old one was to be deleted than before. -/
def writeFileAmid (later : Faults) (path : FilePath) (data : Bytes) : FileM Unit := do
  tryCatch (deleteFile path) fun _ => pure ()
  modify fun fs => { fs with faults := later }
  fillFile path data

theorem outcome_fillFile (fs : FileSystem) (path : FilePath) (data : Bytes) :
    outcome (fillFile path data) fs =
      match outcome (openFile path (.create (.file []))) fs with
      | (.error error, after) => (.error error, after)
      | (.ok old, after) =>
        match fs.faults.write with
        | some status => (.error (.writing status 0), after)
        | none =>
          let room := fs.writeLimit.getD data.length
          let count := min room data.length
          (if room < data.length then .error (.writing .volumeFull room)
            else match fs.faults.flush with
              | some status => .error (.flushing status)
              | none => .ok (),
            after.put path (.file (data.take count ++ old.drop count))) := by
  unfold fillFile
  rw [outcome_bind]
  rcases opened : outcome (openFile path (.create (.file []))) fs with ⟨result, after⟩
  have changed : Changed path data (fs.creation path) fs after := by
    simpa only [opened] using changed_openFile fs path data
  cases result with
  | error error => rfl
  | ok old =>
    simp only [outcome_get_bind, outcome_check_bind, outcome_set_bind, changed.faults_eq,
      changed.writeLimit_eq]
    cases fs.faults.write with
    | some status => rfl
    | none =>
      generalize fs.writeLimit.getD data.length = room
      have taken : data.take room = data.take (min room data.length) := by
        rw [List.take_eq_take_iff, Nat.min_assoc, Nat.min_self]
      rw [taken]
      by_cases short : room < data.length
      · simp only [short, if_true]
        rfl
      · simp only [short, if_false]
        cases fs.faults.flush with
        | some status => rfl
        | none => rfl

/-- What filling a file changes: it may be there from then on, and may have some bytes. -/
theorem changed_fillFile (fs : FileSystem) (path : FilePath) (data : Bytes) :
    Changed path data (fs.creation path ++ fs.writing path data) fs
      (outcome (fillFile path data) fs).2 := by
  rw [outcome_fillFile]
  unfold writing allows
  rcases opened : outcome (openFile path (.create (.file []))) fs with ⟨result, after⟩
  have created : Changed path data (fs.creation path) fs after := by
    simpa only [opened] using changed_openFile fs path data
  cases result with
  | error error =>
    rw [if_neg fun both => by cases both.1]
    exact created.trans .refl
  | ok old =>
    cases fs.faults.write with
    | some status =>
      rw [if_neg fun both => by cases both.2]
      exact created.trans .refl
    | none =>
      rw [if_pos ⟨rfl, rfl⟩]
      exact created.trans (changed_write (node?_of_openFile opened) _)

theorem ok_fillFile_iff : (outcome (fillFile path data) fs).1 = .ok () ↔
    FileChange.written data.length ∈ fs.writing path data ∧ fs.faults.flush = none := by
  rw [outcome_fillFile]
  unfold writing allows
  rcases outcome (openFile path (.create (.file []))) fs with ⟨result, after⟩
  cases result with
  | error error => simp [Except.isOk, Except.toBool]
  | ok old =>
    cases fs.faults.write with
    | some status => simp
    | none =>
      generalize fs.writeLimit.getD data.length = room
      have whole : data.length = min room data.length ↔ ¬room < data.length := by omega
      by_cases short : room < data.length
      · simp [short, whole, Except.isOk, Except.toBool]
      · cases fs.faults.flush <;> simp [short, whole, Except.isOk, Except.toBool]

/-- What writing a file changes, call by call. -/
def changes (fs : FileSystem) (later : Faults) (path : FilePath) (data : Bytes) :
    List FileChange :=
  let rest := { (outcome (deleteFile path) fs).2 with faults := later }
  fs.deletion path ++ (rest.creation path ++ rest.writing path data)

theorem outcome_writeFileAmid (later : Faults) (fs : FileSystem) (path : FilePath)
    (data : Bytes) : outcome (writeFileAmid later path data) fs =
      outcome (fillFile path data) { (outcome (deleteFile path) fs).2 with faults := later } := by
  unfold writeFileAmid
  rw [outcome_try_bind, outcome_modify_bind]

/-- Where the same calls fail all along, files are written as always. -/
theorem outcome_writeFileAmid_self (fs : FileSystem) (path : FilePath) (data : Bytes) :
    outcome (writeFileAmid fs.faults path data) fs = outcome (writeFile path data) fs := by
  have written : writeFile path data = (do
      tryCatch (deleteFile path) fun _ => pure ()
      fillFile path data) := rfl
  have faults := (changed_deleteFile fs path data).faults_eq
  rw [outcome_writeFileAmid, written, outcome_try_bind, ← faults]

/-- Writing a file changes it as the calls do that go through, and nothing but the file. -/
theorem changed_writeFileAmid (later : Faults) (fs : FileSystem) (path : FilePath)
    (data : Bytes) : Changed path data (fs.changes later path data) { fs with faults := later }
      (outcome (writeFileAmid later path data) fs).2 := by
  rw [outcome_writeFileAmid]
  exact ((changed_deleteFile fs path data).withFaults later).trans (changed_fillFile _ path data)

theorem written_notMem_deletion {count : Nat} : FileChange.written count ∉ fs.deletion path := by
  unfold deletion
  split
  · simp
  · simp

theorem written_notMem_creation {count : Nat} : FileChange.written count ∉ fs.creation path := by
  unfold creation
  split
  · simp
  · simp

/-- Writing a file succeeds exactly if all of its bytes were written and are safe. -/
theorem ok_writeFileAmid_iff {later : Faults} :
    (outcome (writeFileAmid later path data) fs).1 = .ok () ↔
      FileChange.written data.length ∈ fs.changes later path data ∧ later.flush = none := by
  rw [outcome_writeFileAmid, ok_fillFile_iff]
  simp only [changes, List.mem_append, written_notMem_deletion, written_notMem_creation, false_or]

end

end FileSystem

end BootManager.Firmware
