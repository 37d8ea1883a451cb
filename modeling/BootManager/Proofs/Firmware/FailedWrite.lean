import BootManager.Firmware.Variables
import BootManager.Proofs.Firmware.FileCalls

/-!
# Writing variables to files

A variable is written by several calls on its file. If one of them fails, what is read afterwards
depends on the calls that went through before it: the old file is deleted first, so that a variable
can be lost or be left empty. The main result is `VariableDirectory.setAmid_writeLaw`.
-/

namespace BootManager.Firmware

/-! ## Reading -/

namespace FileSystem

section

variable {fs after : FileSystem} {path : FilePath} {old data : Bytes} {changes : List FileChange}

/-- The bytes of a file. -/
def contentOf : Option FileNode → Option Bytes
  | some (.file old) => some old
  | _ => none

theorem holds_eq (fs : FileSystem) (path : FilePath) :
    fs.holds path = (outcome (openNode path .read) fs).1.isOk := by
  have asked : fs.ask (openNode path .read) = (outcome (openNode path .read) fs).1 := rfl
  unfold holds
  rw [asked]
  cases (outcome (openNode path .read) fs).1 with
  | ok node => rfl
  | error error => rfl

/-- Where there is no file there is no variable, whatever fails. -/
theorem outcome_readVariable_of_none (nothing : fs.node? path = none) :
    outcome (readVariable path) fs = (.ok none, fs) := by
  have absent : fs.holds path = false := by
    rw [holds_eq]
    have opened := opens_openNode fs path .read
    generalize outcome (openNode path .read) fs = result at opened
    cases opened with
    | failed error => rfl
    | found node there => simp [nothing] at there
    | made node create => cases create
  unfold readVariable
  rw [outcome_get_bind, absent]
  rfl

theorem outcome_openNode_of_healthy {node : FileNode} (there : fs.node? path = some node)
    (healthy : fs.faults = {}) : outcome (openNode path .read) fs = (.ok node, fs) := by
  have unbarred : ¬(fs.readOnly = true ∧ OpenMode.read ≠ OpenMode.read) := fun both => both.2 rfl
  unfold openNode openVolume
  simp only [bind_assoc, outcome_get_bind, outcome_check_bind, healthy, there, List.lookup_nil]
  rw [if_neg unbarred, outcome_pure]

theorem outcome_readContent_of_healthy (there : fs.node? path = some (.file old))
    (healthy : fs.faults = {}) (whole : fs.readLimit = none) :
    outcome (readContent path) fs = (.ok old, fs) := by
  have named : path.isEmpty = false := List.isEmpty_eq_false_iff.mpr (ne_nil_of_node? there)
  have known : fs.kind? path (.file old) = some (.file old) := by
    simp only [kind?, named, healthy, Bool.false_eq_true, if_false]
  have opened : outcome (openFile path .read) fs = (.ok old, fs) := by
    unfold openFile
    rw [outcome_bind_of_ok (outcome_openNode_of_healthy there healthy), outcome_get_bind]
    simp only [known, outcome_pure]
  unfold readContent
  rw [outcome_bind_of_ok opened]
  simp only [outcome_get_bind, outcome_check_bind, healthy, whole, Option.getD_none,
    List.take_length]
  by_cases empty : old.length + fs.sizeExtra = 0
  · have nil : old = [] := List.length_eq_zero_iff.mp (by omega)
    rw [if_pos empty, outcome_pure, nil]
  · rw [if_neg empty]
    rfl

/-- The bytes of a file are those of the variable, if no call fails. -/
theorem outcome_readVariable_of_file (there : fs.node? path = some (.file old))
    (healthy : fs.faults = {}) (whole : fs.readLimit = none) :
    outcome (readVariable path) fs = (.ok (some old), fs) := by
  have present : fs.holds path = true := by
    rw [holds_eq, outcome_openNode_of_healthy there healthy]
    rfl
  unfold readVariable
  rw [outcome_get_bind, present]
  exact outcome_bind_of_ok (outcome_readContent_of_healthy there healthy whole)

/-- If no call fails, that is read of a changed file which the changes have left. -/
theorem outcome_readVariable_of_changed (changed : Changed path data changes fs after)
    (some : changes ≠ []) (healthy : fs.faults = {}) (whole : fs.readLimit = none) :
    outcome (readVariable path) after =
      (.ok (contentOf (FileChange.applyAll data (fs.node? path) changes)), after) := by
  rw [← changed.here]
  cases there : after.node? path with
  | none => exact outcome_readVariable_of_none there
  | some node =>
    cases node with
    | directory => exact absurd there (changed.plain some)
    | file old =>
      exact outcome_readVariable_of_file there (changed.faults_eq.trans healthy)
        (changed.readLimit_eq.trans whole)

end

end FileSystem

/-! ## The filesystem of a handle -/

namespace Machine

section

variable {m : Machine} {place : Nat} {fs : FileSystem}

/-- The filesystem of a handle, whoever holds it. -/
def fsAt? (m : Machine) (place : Nat) : Option FileSystem :=
  (m.handles[place]?).bind (·.fs)

/-- The machine where other calls on the filesystem of a handle fail. -/
def withFaults (m : Machine) (place : Nat) (faults : Faults) : Machine :=
  { m with
    handles := m.handles.modify place fun handle =>
      { handle with fs := handle.fs.map fun fs => { fs with faults := faults } } }

/-- Replacing a filesystem by itself only changes what fails. -/
theorem setFs_self (there : m.fsAt? place = some fs) (faults : Faults) :
    m.setFs place { fs with faults := faults } = m.withFaults place faults := by
  unfold setFs withFaults
  congr 1
  apply List.ext_getElem?
  intro other
  rw [List.getElem?_modify, List.getElem?_modify]
  by_cases same : place = other
  · subst same
    unfold fsAt? at there
    cases present : m.handles[place]? with
    | none => rfl
    | some handle =>
      have fits : handle.fs = some fs := by simpa [present] using there
      simp [fits]
  · simp [same]

theorem fsAt?_setFs (there : m.fsAt? place = some fs) (other : FileSystem) :
    (m.setFs place other).fsAt? place = some other := by
  unfold fsAt? at there ⊢
  unfold setFs
  rw [List.getElem?_modify_eq]
  cases handle : m.handles[place]? with
  | none => simp [handle] at there
  | some handle => rfl

end

end Machine

/-! ## Running attempts -/

namespace Attempt

section

variable {α : Type}

theorem run_fsOf (place : Nat) (m : Machine) :
    (fsOf place).run.run m =
      pure ((m.fsAt? place).elim (.error (.firmware .unsupported)) .ok, m) := by
  have got : (get : Attempt Machine).run.run m = pure (.ok m, m) := rfl
  unfold fsOf Machine.fsAt?
  rw [ExceptT.run_bind, StateT.run_bind, got, pure_bind]
  dsimp only
  cases (m.handles[place]?).bind (·.fs) with
  | none => rfl
  | some fs => rfl

theorem run_ofExcept (result : Except Failure α) (m : Machine) :
    (ofExcept result : Attempt α).run.run m = pure (result, m) := by
  cases result with
  | ok a => rfl
  | error failure => rfl

theorem run_onFs (place : Nat) (operation : FileM α) (m : Machine) :
    (onFs place operation).run.run m =
      match m.fsAt? place with
      | none => pure (.error (.firmware .unsupported), m)
      | some fs =>
        pure ((FileSystem.outcome operation fs).1.mapError .file,
          m.setFs place (FileSystem.outcome operation fs).2) := by
  unfold onFs
  rw [ExceptT.run_bind, StateT.run_bind, run_fsOf, pure_bind]
  cases m.fsAt? place with
  | none => rfl
  | some fs => exact run_ofExcept _ _

end

end Attempt

/-! ## The file of a variable -/

namespace VariableDirectory

open Machine FileSystem

section

variable {α : Type} {dir : VariableDirectory} {name : String} {m : Machine} {path : FilePath}
  {fs : FileSystem} {faults : Faults}

/-- The path of the file of a variable, if the firmware has codes for it. -/
def path? (dir : VariableDirectory) (name : String) : Option FilePath :=
  (encodeText? (joinPath dir.path name)).map .ofText

/-- The file of a variable, with the filesystem that it is on, or why it cannot be reached. -/
def file? (dir : VariableDirectory) (name : String) (m : Machine) :
    Except Failure (FilePath × FileSystem) :=
  match dir.path? name, m.fsAt? dir.handle with
  | none, _ => .error .text
  | some _, none => .error (.firmware .unsupported)
  | some path, some fs => .ok (path, fs)

/-- An operation on the file of a variable. -/
def onFile (dir : VariableDirectory) (name : String) (operation : FilePath → FileM α) :
    StateT Machine Logged (Except Failure α) := ExceptT.run do
  let path ← dir.filePath name
  Attempt.onFs dir.handle (operation path)

theorem run_onFile (dir : VariableDirectory) (name : String) (operation : FilePath → FileM α)
    (m : Machine) : (dir.onFile name operation).run m =
      match dir.file? name m with
      | .error failure => pure (.error failure, m)
      | .ok (path, fs) =>
        pure ((outcome (operation path) fs).1.mapError .file,
          m.setFs dir.handle (outcome (operation path) fs).2) := by
  unfold onFile filePath Attempt.encode file? path?
  cases encodeText? (joinPath dir.path name) with
  | none => rfl
  | some path =>
    show (Attempt.onFs dir.handle (operation (.ofText path))).run.run m = _
    rw [Attempt.run_onFs]
    cases m.fsAt? dir.handle with
    | none => rfl
    | some fs => rfl

theorem file?_eq_ok_iff : dir.file? name m = .ok (path, fs) ↔
    dir.path? name = some path ∧ m.fsAt? dir.handle = some fs := by
  unfold file?
  cases dir.path? name with
  | none => simp
  | some text => cases m.fsAt? dir.handle <;> simp

theorem fsAt?_of_file? (reached : dir.file? name m = .ok (path, fs)) :
    m.fsAt? dir.handle = some fs :=
  (file?_eq_ok_iff.mp reached).2

/-- Whatever the filesystem becomes, the file of a variable stays at its path. -/
theorem file?_setFs (reached : dir.file? name m = .ok (path, fs)) (other : FileSystem) :
    dir.file? name (m.setFs dir.handle other) = .ok (path, other) := by
  obtain ⟨encoded, there⟩ := file?_eq_ok_iff.mp reached
  exact file?_eq_ok_iff.mpr ⟨encoded, fsAt?_setFs there other⟩

/-- What there is at the path of the file of a variable. -/
def node? (dir : VariableDirectory) (name : String) (m : Machine) : Option FileNode :=
  match dir.file? name m with
  | .error _ => none
  | .ok (path, fs) => fs.node? path

/-- A file that is at another path is only changed with its filesystem. -/
theorem node?_setFs {other : String} {after : FileSystem}
    (reached : dir.file? name m = .ok (path, fs)) (ne : dir.path? other ≠ dir.path? name)
    (elsewhere : ∀ place, place ≠ path → after.node? place = fs.node? place) :
    dir.node? other (m.setFs dir.handle after) = dir.node? other m := by
  obtain ⟨here, there⟩ := file?_eq_ok_iff.mp reached
  unfold node? file?
  rw [fsAt?_setFs there, there]
  cases named : dir.path? other with
  | none => rfl
  | some place =>
    refine elsewhere place fun same => ne ?_
    rw [named, here, same]

/-- What is read of a variable while some calls fail. -/
def readUnder (dir : VariableDirectory) (faults : Faults) (vendor : Guid) (name : String)
    (m : Machine) : Except Failure (Option Bytes) :=
  ((dir.backend.get vendor name).run (m.withFaults dir.handle faults)).value.1

theorem readUnder_of_file? (reached : dir.file? name m = .ok (path, fs)) (faults : Faults)
    (vendor : Guid) : dir.readUnder faults vendor name m =
      (outcome (readVariable path) { fs with faults := faults }).1.mapError .file := by
  have there := fsAt?_of_file? reached
  have get : dir.backend.get vendor name = dir.onFile name readVariable := rfl
  unfold readUnder
  rw [get, run_onFile, ← setFs_self there, file?_setFs reached]
  rfl

/-! ## Writing a variable -/

/-- Writes a variable that is not empty, where other calls may fail after its old file was to be
deleted than before. -/
def setAmid (dir : VariableDirectory) (later : Faults) (name : String) (data : Bytes) :
    StateT Machine Logged (Except Failure Unit) :=
  dir.onFile name fun path => writeFileAmid later path data

/-- What writing a variable changes, call by call. -/
def changes (dir : VariableDirectory) (later : Faults) (name : String) (data : Bytes)
    (m : Machine) : List FileChange :=
  match dir.file? name m with
  | .error _ => []
  | .ok (path, fs) => fs.changes later path data

/-- What becomes of a variable that is written, if any of the calls on its file may fail: those up
to the deletion of the old file as they do on the machine, and those after it as `later` has it. -/
structure WriteLaw (dir : VariableDirectory) (later : Faults) (vendor : Guid) (name : String)
    (data : Bytes) (persistent : Bool) (m : Machine) (result : Except Failure Unit)
    (after : Machine) : Prop where
  /-- If the same calls fail all along, this is what the backend does. -/
  plain : (∀ fs, m.fsAt? dir.handle = some fs → fs.faults = later) →
    (dir.backend.set vendor name data persistent).run m = pure (result, after)
  /-- It fails unless everything was written and is safe. -/
  succeeds : result = .ok () ↔
    FileChange.written data.length ∈ dir.changes later name data m ∧ later.flush = none
  /-- If no call changed anything, the same is read as before, whatever fails then. -/
  kept : dir.changes later name data m = [] →
    ∀ faults, dir.readUnder faults vendor name after = dir.readUnder faults vendor name m
  /-- If the old file was deleted and there is no new one, the variable is gone. -/
  gone : dir.changes later name data m = [.deleted] →
    ∀ faults, dir.readUnder faults vendor name after = .ok none
  /-- No other file is changed. -/
  others : ∀ other, dir.path? other ≠ dir.path? name →
    dir.node? other after = dir.node? other m
  /-- In general that is read which the calls have left. -/
  left : dir.changes later name data m ≠ [] →
    (∀ fs, m.fsAt? dir.handle = some fs → fs.readLimit = none) →
    dir.readUnder {} vendor name after =
      .ok (contentOf (FileChange.applyAll data (dir.node? name m) (dir.changes later name data m)))

theorem run_set_of_nonempty {data : Bytes} (nonempty : data ≠ []) (vendor : Guid)
    (persistent : Bool) {later : Faults}
    (same : ∀ fs, m.fsAt? dir.handle = some fs → fs.faults = later) :
    (dir.backend.set vendor name data persistent).run m = (dir.setAmid later name data).run m := by
  have set : dir.backend.set vendor name data persistent =
      dir.onFile name fun path => writeVariable path data := rfl
  have written (path : FilePath) : writeVariable path data = writeFile path data := by
    unfold writeVariable
    rw [List.isEmpty_eq_false_iff.mpr nonempty]
    rfl
  rw [set, setAmid, run_onFile, run_onFile]
  cases reached : dir.file? name m with
  | error failure => rfl
  | ok file =>
    obtain ⟨path, fs⟩ := file
    simp only [written, ← same fs (fsAt?_of_file? reached), outcome_writeFileAmid_self]

/-- What writing a variable does where its file can be reached. -/
theorem run_setAmid_of_file? (reached : dir.file? name m = .ok (path, fs)) (later : Faults)
    (data : Bytes) :
    (dir.setAmid later name data).run m =
      pure ((outcome (writeFileAmid later path data) fs).1.mapError .file,
        m.setFs dir.handle (outcome (writeFileAmid later path data) fs).2) := by
  rw [setAmid, run_onFile, reached]

theorem mapError_eq_ok_iff {result : Except FileError Unit} :
    result.mapError Failure.file = .ok () ↔ result = .ok () := by
  cases result with
  | ok => exact iff_of_true rfl rfl
  | error error => exact iff_of_false nofun nofun

theorem setAmid_writeLaw_of_file? {later : Faults} {vendor : Guid} {data : Bytes}
    {persistent : Bool} {result : Except FileError Unit} {after : FileSystem}
    (reached : dir.file? name m = .ok (path, fs))
    (plain : (∀ fs, m.fsAt? dir.handle = some fs → fs.faults = later) →
      (dir.backend.set vendor name data persistent).run m =
        pure (result.mapError .file, m.setFs dir.handle after))
    (succeeds : result = .ok () ↔
      FileChange.written data.length ∈ fs.changes later path data ∧ later.flush = none)
    (changed : Changed path data (fs.changes later path data) { fs with faults := later } after) :
    WriteLaw dir later vendor name data persistent m (result.mapError .file)
      (m.setFs dir.handle after) := by
  have made : dir.changes later name data m = fs.changes later path data := by
    rw [changes, reached]
  have before : dir.node? name m = fs.node? path := by rw [node?, reached]
  have read (faults : Faults) : dir.readUnder faults vendor name (m.setFs dir.handle after) =
      (outcome (readVariable path) { after with faults := faults }).1.mapError .file :=
    readUnder_of_file? (file?_setFs reached after) faults vendor
  refine ⟨plain, ?_, fun none faults => ?_, fun only faults => ?_, fun other ne => ?_,
    fun some whole => ?_⟩
  · rw [made]
    exact mapError_eq_ok_iff.trans succeeds
  · rw [made] at none
    rw [read, readUnder_of_file? reached, changed.unchanged none]
  · rw [made] at only
    have absent : ({ after with faults := faults } : FileSystem).node? path = none := by
      have here := (changed.withFaults faults).here
      rwa [only] at here
    rw [read, outcome_readVariable_of_none absent]
    rfl
  · exact node?_setFs reached ne changed.elsewhere
  · rw [made] at some ⊢
    rw [read, outcome_readVariable_of_changed (changed.withFaults {}) some rfl
      (whole fs (fsAt?_of_file? reached)), before]
    rfl

/-- Writing a variable leaves what the calls that went through have made of its file, and a write
that fails before any of them keeps the variable. -/
theorem setAmid_writeLaw (dir : VariableDirectory) (later : Faults) (vendor : Guid) (name : String)
    (data : Bytes) (persistent : Bool) (m : Machine) (nonempty : data ≠ []) :
    let written := ((dir.setAmid later name data).run m).value
    WriteLaw dir later vendor name data persistent m written.1 written.2 := by
  have plain (same : ∀ fs, m.fsAt? dir.handle = some fs → fs.faults = later) :
      (dir.backend.set vendor name data persistent).run m = (dir.setAmid later name data).run m :=
    run_set_of_nonempty nonempty vendor persistent same
  cases reached : dir.file? name m with
  | error failure =>
    have ran : (dir.setAmid later name data).run m = pure (.error failure, m) := by
      rw [setAmid, run_onFile, reached]
    have none : dir.changes later name data m = [] := by rw [changes, reached]
    rw [ran] at plain ⊢
    refine ⟨plain, ?_, fun _ _ => rfl, fun only => ?_, fun _ _ => rfl,
      fun some => absurd none some⟩
    · simp [none]
    · simp [none] at only
  | ok file =>
    obtain ⟨path, fs⟩ := file
    have ran := run_setAmid_of_file? reached later data
    rw [ran] at plain ⊢
    exact setAmid_writeLaw_of_file? reached plain ok_writeFileAmid_iff
      (changed_writeFileAmid later fs path data)

/-! ## A disk that cannot be written -/

/-- A machine with a variable on a disk that fails to write to files. -/
def faultyDisk : Machine where
  vendor := ""
  hasCsm := false
  clock := none
  pathTextFault := none
  image := none
  handles := [{
    path := none, block := none, partition := none, refused := []
    fs := some {
      label := none, size := none, readOnly := false, readLimit := none, writeLimit := none,
      sizeExtra := 0, faults := { write := some .deviceError },
      nodes := [(["vars"], .directory), (["vars", "x"], .file [111, 108, 100])] } }]
  nvram := []
  failGet := []
  failSet := []
  held := [0]
  console := ""

def faultyDirectory : VariableDirectory := ⟨0, "\\vars"⟩

theorem faultyDisk_writeLaw : ([110, 101, 119] : Bytes) ≠ [] ∧
    let written := ((faultyDirectory.setAmid { write := some .deviceError } "x"
      [110, 101, 119]).run faultyDisk).value
    WriteLaw faultyDirectory { write := some .deviceError } VariableStore.ownVendor "x"
      [110, 101, 119] true faultyDisk written.1 written.2 :=
  ⟨by decide, setAmid_writeLaw faultyDirectory { write := some .deviceError }
    VariableStore.ownVendor "x" [110, 101, 119] true faultyDisk (by decide)⟩

/-- The variable is empty after a write that failed. -/
theorem faultyDisk_forgets :
    let backend := faultyDirectory.backend
    let written := (backend.set VariableStore.ownVendor "x" [110, 101, 119] true).run faultyDisk
    written.value.1 = .error (.file (.writing .deviceError 0)) ∧
      ((backend.get VariableStore.ownVendor "x").run faultyDisk).value.1 =
        .ok (some [111, 108, 100]) ∧
      ((backend.get VariableStore.ownVendor "x").run written.value.2).value.1 = .ok (some []) := by
  refine ⟨rfl, rfl, rfl⟩

end

end VariableDirectory

end BootManager.Firmware
