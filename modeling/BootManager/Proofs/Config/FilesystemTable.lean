import BootManager.Config.KernelOptions
import BootManager.Proofs.Config.Encoded
import BootManager.Proofs.Config.WrittenLine

/-!
# Kernel options from a table of filesystems

A table of filesystems is read like a configuration: a device that is written as a key and a value
is cut in two, and slashes are read as backslashes. The options put the device together again, with
slashes for all backslashes. So they name the device as it is written exactly if it is written
without backslashes, as long as no other line is taken for the one that mounts the root. The main
result is `KernelOptions.read_tableLaw`.
-/

namespace BootManager.Config.KernelOptions

open Line (Gap IsPlain Word wordsFrom)

/-! ## Slashes -/

theorem notMem_withSlashes (s : String) : '\\' ∉ (withSlashes s).toList := by
  rw [withSlashes, String.toList_ofList]
  intro member
  obtain ⟨c, -, turned⟩ := List.mem_map.mp member
  split at turned
  next => exact absurd turned (by decide)
  next other => exact other turned

theorem withSlashes_of_notMem {s : String} (none : '\\' ∉ s.toList) : withSlashes s = s := by
  have same : s.toList.map (fun c => if c = '\\' then '/' else c) = s.toList.map id :=
    List.map_congr_left fun c member => if_neg (by rintro rfl; exact none member)
  rw [withSlashes, same, List.map_id, String.ofList_toList]

/-- What was a slash before it was read is one again. -/
theorem withSlashes_read (cs : List Char) :
    withSlashes (String.ofList (cs.map fun c => if c = '/' then '\\' else c)) =
      withSlashes (String.ofList cs) := by
  have turned (c : Char) : (if (if c = '/' then '\\' else c) = '\\' then '/'
      else if c = '/' then '\\' else c) = if c = '\\' then '/' else c := by
    by_cases slash : c = '/'
    · subst slash
      decide
    · rw [if_neg slash]
  rw [withSlashes, withSlashes, String.toList_ofList, String.toList_ofList, List.map_map]
  exact congrArg String.ofList (List.map_congr_left fun c _ => turned c)

theorem withSlashes_append (s t : String) :
    withSlashes (s ++ t) = withSlashes s ++ withSlashes t := by
  simp [withSlashes, String.ofList_append]

/-! ## Devices -/

/-- A word that is written without quotes. -/
structure Name where
  chars : List Char
  nonempty : chars ≠ []
  plain : ∀ c ∈ chars, IsPlain c

namespace Name

/-- The text of a name. -/
def text (name : Name) : String :=
  String.ofList name.chars

/-- The word of a line that a name is. -/
def word (name : Name) : Word :=
  .bare name.chars name.nonempty name.plain

/-- What is read of a name. -/
def read (name : Name) : String :=
  String.ofList name.word.text

theorem withSlashes_read (name : Name) : withSlashes name.read = withSlashes name.text :=
  KernelOptions.withSlashes_read name.chars

theorem read_ne_empty (name : Name) : name.read ≠ "" := by
  rw [read, word, Word.text, ← String.ofList_nil, Ne, String.ofList_inj, List.map_eq_nil_iff]
  exact name.nonempty

/-- A name is read as a lone backslash only if it is one, or a lone slash. -/
theorem read_eq_backslash_iff {name : Name} :
    name.read = "\\" ↔ name.chars = ['/'] ∨ name.chars = ['\\'] := by
  have alone (c : Char) : (if c = '/' then '\\' else c) = '\\' ↔ c = '/' ∨ c = '\\' := by
    by_cases slash : c = '/'
    · simp [slash]
    · simp [slash]
  have target : "\\" = String.ofList ['\\'] := rfl
  rw [read, word, Word.text, target, String.ofList_inj, List.map_eq_singleton_iff]
  constructor
  · rintro ⟨c, written, turned⟩
    rcases (alone c).mp turned with rfl | rfl
    · exact .inl written
    · exact .inr written
  · rintro (written | written)
    · exact ⟨'/', written, rfl⟩
    · exact ⟨'\\', written, rfl⟩

end Name

/-- A device in a table of filesystems. -/
inductive Device where
  | word (name : Name)
  /-- A key and a value, with an equals sign between them. -/
  | keyed (key value : Name) (notTarget : value.chars ≠ ['/'])

namespace Device

/-- The text of a device. -/
def text : Device → String
  | word name => name.text
  | keyed key value _ => key.text ++ "=" ++ value.text

/-- What the options name: the text with slashes for its backslashes, but only the key if the value
is a backslash alone. -/
def named : Device → String
  | word name => withSlashes name.text
  | keyed key value _ =>
    if value.chars = ['\\'] then withSlashes key.text
    else withSlashes (key.text ++ "=" ++ value.text)

/-- What is read of a device: a value that looks like the mount point leaves the key alone. -/
def read : Device → String
  | word name => name.read
  | keyed key value _ =>
    if value.chars = ['\\'] then key.read else key.read ++ "=" ++ value.read

/-- The words of a device, with the separators in front of each. -/
def spaced (indent : Gap) : Device → List (Gap × Word)
  | word name => [(indent, name.word)]
  | keyed key value _ => [(indent, key.word), (⟨['='], by simp [Line.separators]⟩, value.word)]

theorem read_ne_empty (device : Device) : device.read ≠ "" := by
  cases device with
  | word name => exact name.read_ne_empty
  | keyed key value notTarget =>
    rw [read]
    split
    · exact key.read_ne_empty
    · simp

theorem withSlashes_read (device : Device) : withSlashes device.read = device.named := by
  cases device with
  | word name => exact name.withSlashes_read
  | keyed key value notTarget =>
    rw [read, named]
    split
    · exact key.withSlashes_read
    · simp only [withSlashes_append, Name.withSlashes_read]

theorem notMem_named (device : Device) : '\\' ∉ device.named.toList := by
  cases device with
  | word name => exact notMem_withSlashes _
  | keyed key value notTarget =>
    rw [named]
    split
    · exact notMem_withSlashes _
    · exact notMem_withSlashes _

/-- The options name a device as it is written exactly if it is written without backslashes. -/
theorem named_eq_text_iff {device : Device} :
    device.named = device.text ↔ '\\' ∉ device.text.toList := by
  constructor
  · intro same
    rw [← same]
    exact device.notMem_named
  · intro none
    cases device with
    | word name => exact withSlashes_of_notMem none
    | keyed key value notTarget =>
      have more : value.chars ≠ ['\\'] := by
        intro alone
        refine none ?_
        simp [text, Name.text, alone]
      rw [named, if_neg more]
      exact withSlashes_of_notMem none

end Device

/-! ## Lines -/

/-- What a line of a table adds to the options. -/
def ofMount (line : Line) : List KernelOptions :=
  match (rootDevice? line).filter (· != "") with
  | some device => pair ("ro root=" ++ withSlashes device)
  | none => []

/-- A line is taken for one that mounts the root: the second of its words is a lone slash or
backslash, or else the third is. -/
def MountsRoot (words : Line) : Prop :=
  2 < words.length ∧
    (words[1]? = some "\\" ∧ words[0]? ≠ some "" ∨
      words[1]? ≠ some "\\" ∧ words[2]? = some "\\")

instance (words : Line) : Decidable (MountsRoot words) :=
  inferInstanceAs (Decidable (_ ∧ _))

theorem ofMount_of_rootDevice? {line : Line} {device : String}
    (found : rootDevice? line = some device) (nonempty : device ≠ "") :
    ofMount line = pair ("ro root=" ++ withSlashes device) := by
  rw [ofMount, found, Option.filter_some, if_pos (bne_iff_ne.mpr nonempty)]

theorem exists_pair_of_mountsRoot {line : Line} (mounts : MountsRoot line) :
    ∃ options, ofMount line = pair options := by
  obtain ⟨long, shape⟩ := mounts
  match line with
  | device :: target :: third :: rest =>
    simp only [List.getElem?_cons_succ, List.getElem?_cons_zero, Option.some_inj, Ne] at shape
    rcases shape with ⟨root, nonempty⟩ | ⟨other, root⟩
    · exact ⟨_, ofMount_of_rootDevice? (if_pos root) nonempty⟩
    · have keyed : rootDevice? (device :: target :: third :: rest) =
          some (device ++ "=" ++ target) :=
        (if_neg other).trans (if_pos root)
      exact ⟨_, ofMount_of_rootDevice? keyed (by simp)⟩

/-- Only a line that is taken for the root's adds anything. -/
theorem ofMount_eq_nil_iff {line : Line} : ofMount line = [] ↔ ¬MountsRoot line := by
  constructor
  · intro nothing mounts
    obtain ⟨options, some⟩ := exists_pair_of_mountsRoot mounts
    rw [nothing] at some
    cases some
  · intro other
    match line with
    | [] => rfl
    | [_] => rfl
    | [_, _] => rfl
    | device :: target :: third :: rest =>
      simp only [MountsRoot, List.length_cons, List.getElem?_cons_succ, List.getElem?_cons_zero,
        Option.some_inj, Ne, not_and, not_or] at other
      obtain ⟨notNamed, notKeyed⟩ := other (by omega)
      rw [ofMount, rootDevice?]
      by_cases root : target = "\\"
      · have empty : device = "" := Decidable.not_not.mp (notNamed root)
        rw [if_pos root, empty]
        rfl
      · rw [if_neg root, if_neg (notKeyed root)]
        rfl

/-- A table adds what its lines add, in order. -/
theorem ofFstab_eq (bytes : Bytes) :
    ofFstab bytes =
      (TextFile.lines (TextFile.ofBytes bytes).rest).flatMap
        fun line => ofMount (Line.ofText line) := by
  change (TextFile.ofBytes bytes).wordLines.flatMap ofMount = _
  rw [TextFile.wordLines]
  induction TextFile.lines (TextFile.ofBytes bytes).rest with
  | nil => rfl
  | cons line lines ih =>
    rw [List.flatMap_cons, ← ih, List.map_cons]
    cases words : Line.ofText line with
    | nil => rfl
    | cons word more => rfl

/-- The line of a table that mounts the root. -/
structure RootLine where
  indent : Gap
  device : Device
  beforeTarget : Gap
  apart : beforeTarget.chars ≠ []
  afterTarget : Gap
  ended : afterTarget.chars ≠ []
  /-- What follows, with at least one word in it. -/
  fields : List Char
  wordsFrom_ne_nil : wordsFrom false fields ≠ []

namespace RootLine

/-- The text of a line. -/
def text (line : RootLine) : String :=
  String.ofList (line.indent.chars ++ line.device.text.toList ++ line.beforeTarget.chars ++
    '/' :: (line.afterTarget.chars ++ line.fields))

/-- The mount point. -/
def target : Word :=
  .bare ['/'] (by decide) (by simp [IsPlain, Line.separators])

theorem text_eq (line : RootLine) :
    line.text.toList =
      Line.Written.spell (line.device.spaced line.indent ++ [(line.beforeTarget, target)]) ++
        (line.afterTarget.chars ++ line.fields) := by
  rw [text, String.toList_ofList]
  cases line.device <;>
    simp [Line.Written.spell, Device.spaced, Device.text, Name.text, Name.word, target,
      Word.written]

theorem ofText_text (line : RootLine) :
    Line.ofText line.text = ((line.device.spaced line.indent).map fun spaced =>
        String.ofList spaced.2.text) ++
      "\\" :: (wordsFrom false line.fields).map String.ofList := by
  have ended : Line.EndsBefore (line.afterTarget.chars ++ line.fields) :=
    Line.endsBefore_append line.afterTarget.endsWord fun none => absurd none line.ended
  have apart : ∀ spaced ∈ (line.device.spaced line.indent ++ [(line.beforeTarget, target)]).tail,
      spaced.1.chars ≠ [] := by
    cases line.device <;> simp [Device.spaced, line.apart]
  rw [Line.ofText, text_eq, Line.Written.wordsFrom_spell apart ended,
    Line.wordsFrom_append line.afterTarget.separate]
  simp [target, Word.text]

theorem rootDevice?_text (line : RootLine) :
    rootDevice? (Line.ofText line.text) = some line.device.read := by
  obtain ⟨field, fields, words⟩ := List.exists_cons_of_ne_nil line.wordsFrom_ne_nil
  rw [ofText_text, words]
  cases line.device with
  | word name =>
    change rootDevice? (name.read :: "\\" :: _ :: _) = _
    rw [rootDevice?, if_pos rfl, Device.read]
  | keyed key value notTarget =>
    change rootDevice? (key.read :: value.read :: "\\" :: _ :: _) = _
    rw [rootDevice?, Device.read]
    by_cases alone : value.chars = ['\\']
    · rw [if_pos (Name.read_eq_backslash_iff.mpr (.inr alone)), if_pos alone]
    · have other : value.read ≠ "\\" := fun same =>
        (Name.read_eq_backslash_iff.mp same).elim notTarget alone
      rw [if_neg other, if_pos rfl, if_neg alone]

/-- The line adds the options for its device. -/
theorem ofMount_text (line : RootLine) :
    ofMount (Line.ofText line.text) = pair ("ro root=" ++ line.device.named) := by
  rw [ofMount_of_rootDevice? line.rootDevice?_text line.device.read_ne_empty,
    line.device.withSlashes_read]

end RootLine

/-! ## Tables -/

/-- A table of filesystems in plain text, with a line that mounts the root. -/
structure FilesystemTable where
  text : String
  ascii : Encoding.IsAscii text
  small : text.length ≤ TextFile.sizeLimit
  before : List String
  root : RootLine
  after : List String
  lines_eq : TextFile.lines text.toList = before ++ root.text :: after

namespace FilesystemTable

/-- The file of a table. -/
def file (table : FilesystemTable) : Bytes :=
  Encoding.plain table.text

theorem ofFstab_file (table : FilesystemTable) :
    ofFstab table.file =
      (table.before.flatMap fun line => ofMount (Line.ofText line)) ++
        (pair ("ro root=" ++ table.root.device.named) ++
          table.after.flatMap fun line => ofMount (Line.ofText line)) := by
  have size : (Encoding.plain table.text).length ≤ TextFile.sizeLimit := by
    rw [TextFile.length_plain]
    exact table.small
  have held := TextFile.ofBytes_plain table.ascii.isNarrow size
    (TextFile.not_isTold_of_isAscii table.ascii)
  rw [ofFstab_eq, file, held, table.lines_eq, List.flatMap_append, List.flatMap_cons,
    table.root.ofMount_text]

/-- No other line is taken for the one that mounts the root. -/
def OnlyRoot (table : FilesystemTable) : Prop :=
  ∀ line ∈ table.before ++ table.after, ¬MountsRoot (Line.ofText line)

instance (table : FilesystemTable) : Decidable table.OnlyRoot :=
  List.decidableBAll (fun line => ¬MountsRoot (Line.ofText line)) (table.before ++ table.after)

/-- The options of a table are those for one device exactly if its root adds them, and no other
line adds any. -/
theorem ofFstab_eq_pair_iff {table : FilesystemTable} {options : String} :
    ofFstab table.file = pair options ↔
      options = "ro root=" ++ table.root.device.named ∧ table.OnlyRoot := by
  have onlyRoot : table.OnlyRoot ↔
      (table.before.flatMap fun line => ofMount (Line.ofText line)) = [] ∧
        (table.after.flatMap fun line => ofMount (Line.ofText line)) = [] := by
    simp only [OnlyRoot, List.forall_mem_append, List.flatMap_eq_nil_iff, ofMount_eq_nil_iff]
  rw [ofFstab_file, onlyRoot]
  constructor
  · intro same
    -- Two options leave no room for those of another line.
    have two := congrArg List.length same
    simp only [List.length_append, pair, List.length_cons, List.length_nil] at two
    have noneBefore : (table.before.flatMap fun line => ofMount (Line.ofText line)) = [] :=
      List.eq_nil_of_length_eq_zero (by omega)
    have noneAfter : (table.after.flatMap fun line => ofMount (Line.ofText line)) = [] :=
      List.eq_nil_of_length_eq_zero (by omega)
    rw [noneBefore, noneAfter, List.nil_append, List.append_nil] at same
    have first := congrArg KernelOptions.options (List.cons.inj same).1
    exact ⟨first.symm, noneBefore, noneAfter⟩
  · rintro ⟨rfl, noneBefore, noneAfter⟩
    rw [noneBefore, noneAfter, List.nil_append, List.append_nil]

theorem ofFstab_file_ne_nil (table : FilesystemTable) : ofFstab table.file ≠ [] := by
  rw [ofFstab_file]
  simp [pair]

end FilesystemTable

/-! ## Reading -/

/-- The path of an options file in a directory. -/
def pathIn (dir name : String) : String :=
  if dir = "" then name else dir ++ "\\" ++ name

/-- No file of that path can be read. -/
def IsUnread (source : Source) (path : String) : Prop :=
  (source.holds path).value = true → (source.read path).value = none

theorem value_readFirst_of_isUnread {source : Source} {dir : String} {names : List String}
    (unread : ∀ name ∈ names, IsUnread source (pathIn dir name)) :
    (readFirst source dir names).value = none := by
  induction names with
  | nil => rfl
  | cons name names ih =>
    obtain ⟨first, others⟩ := List.forall_mem_cons.mp unread
    have rest := ih others
    rw [IsUnread, pathIn] at first
    rw [readFirst]
    generalize (if dir = "" then name else dir ++ "\\" ++ name) = path at first ⊢
    rw [Logged.value_bind]
    split
    next held =>
      rw [Logged.value_bind, first held]
      exact rest
    next => exact rest

/-- The volume of a kernel has a table of filesystems, and no options file for the kernel. -/
structure HasOnlyTable (source : Source) (loader : String) (table : FilesystemTable) : Prop where
  noOptions : ∀ name ∈ fileNames, IsUnread source (pathIn (Path.directory loader) name)
  fstab : (source.read fstab).value = some table.file

theorem value_read_of_hasOnlyTable {source : Source} {loader : String} {table : FilesystemTable}
    (only : HasOnlyTable source loader table) (root : Option Volume) :
    (read source loader root).value = ofFstab table.file := by
  have some : (!(ofFstab table.file).isEmpty) = true := by
    rw [Bool.not_eq_true', List.isEmpty_eq_false_iff]
    exact table.ofFstab_file_ne_nil
  rw [read, Logged.value_bind, value_readFirst_of_isUnread only.noOptions]
  dsimp only
  rw [Logged.value_bind, only.fstab, Option.map_some, Option.filter_some, if_pos some]
  rfl

/-- How the options for a kernel name the root of a table. -/
structure TableLaw (table : FilesystemTable) (options : List KernelOptions) : Prop where
  /-- There are two of them, and they name the device with slashes for its backslashes. -/
  named : table.OnlyRoot → options = pair ("ro root=" ++ table.root.device.named)
  /-- They name the device as it is written exactly if it is written without backslashes. -/
  asWritten : options = pair ("ro root=" ++ table.root.device.text) ↔
    '\\' ∉ table.root.device.text.toList ∧ table.OnlyRoot

/-- The options that a table suggests name its root as it is written, unless a backslash is in the
way. -/
theorem read_tableLaw {source : Source} {loader : String} {table : FilesystemTable}
    (only : HasOnlyTable source loader table) (root : Option Volume) :
    TableLaw table (read source loader root).value := by
  rw [value_read_of_hasOnlyTable only]
  refine ⟨fun onlyRoot => FilesystemTable.ofFstab_eq_pair_iff.mpr ⟨rfl, onlyRoot⟩, ?_⟩
  rw [FilesystemTable.ofFstab_eq_pair_iff, String.append_right_inj, eq_comm,
    Device.named_eq_text_iff]

/-! ## Two tables -/

/-- A volume that has no file but a table. -/
def FilesystemTable.alone (table : FilesystemTable) : Source :=
  (MemoryFiles.empty.insert "\\etc\\fstab" table.file).source

theorem hasOnlyTable_alone (table : FilesystemTable) :
    HasOnlyTable table.alone "\\boot\\vmlinuz" table := by
  have noOptions : ∀ name ∈ fileNames, (MemoryFiles.empty.insert "\\etc\\fstab" []).holds
      (pathIn (Path.directory "\\boot\\vmlinuz") name) = false := by
    decide +kernel
  -- Which files there are does not depend on what is in them.
  have alike (path : String) : (table.alone.holds path).value =
      (MemoryFiles.empty.insert "\\etc\\fstab" []).holds path := by
    rw [FilesystemTable.alone, MemoryFiles.source, Logged.value_pure]
    rfl
  refine ⟨fun name member held => ?_, ?_⟩
  · rw [alike, noOptions name member] at held
    cases held
  · simp [FilesystemTable.alone, MemoryFiles.source, MemoryFiles.read?, MemoryFiles.insert,
      MemoryFiles.empty, fstab]

/-- A root with its mount point and the usual fields after it. -/
def plainRoot (device : Device) : RootLine where
  indent := ⟨[], by simp⟩
  device := device
  beforeTarget := ⟨[' '], by simp [Line.separators]⟩
  apart := by decide
  afterTarget := ⟨[' '], by simp [Line.separators]⟩
  ended := by decide
  fields := "ext4 rw 0 1".toList
  wordsFrom_ne_nil := by decide +kernel

/-- A root with an identifier, between a comment and another filesystem. -/
def homeTable : FilesystemTable where
  text := "# root\nUUID=1234-abcd / ext4 rw 0 1\n/dev/sda3 /home ext4 rw 0 2\n"
  ascii := by decide +kernel
  small := by decide +kernel
  before := ["# root"]
  root := plainRoot (.keyed
    ⟨"UUID".toList, by decide, by simp [IsPlain, Line.separators]⟩
    ⟨"1234-abcd".toList, by decide, by simp [IsPlain, Line.separators]⟩ (by decide))
  after := ["/dev/sda3 /home ext4 rw 0 2"]
  lines_eq := by decide +kernel

theorem homeTable_tableLaw :
    HasOnlyTable homeTable.alone "\\boot\\vmlinuz" homeTable ∧
      TableLaw homeTable (read homeTable.alone "\\boot\\vmlinuz" none).value ∧
        (read homeTable.alone "\\boot\\vmlinuz" none).value =
          pair "ro root=UUID=1234-abcd" := by
  have only := hasOnlyTable_alone homeTable
  have law := read_tableLaw only none
  have onlyRoot : homeTable.OnlyRoot := by
    decide +kernel
  have plain : '\\' ∉ homeTable.root.device.text.toList := by
    decide +kernel
  have text : "ro root=" ++ homeTable.root.device.text = "ro root=UUID=1234-abcd" := by
    decide +kernel
  exact ⟨only, law, text ▸ law.asWritten.mpr ⟨plain, onlyRoot⟩⟩

/-- A root with a blank in its label, written as an escape. -/
def escapedTable : FilesystemTable where
  text := "LABEL=My\\040Root / ext4 rw 0 1\n"
  ascii := by decide +kernel
  small := by decide +kernel
  before := []
  root := plainRoot (.keyed
    ⟨"LABEL".toList, by decide, by simp [IsPlain, Line.separators]⟩
    ⟨"My\\040Root".toList, by decide, by simp [IsPlain, Line.separators]⟩ (by decide))
  after := []
  lines_eq := by decide +kernel

/-- The backslash of the escape becomes a slash, and the options name another device. -/
theorem escapedTable_not_asWritten :
    HasOnlyTable escapedTable.alone "\\boot\\vmlinuz" escapedTable ∧ escapedTable.OnlyRoot ∧
      escapedTable.root.device.text = "LABEL=My\\040Root" ∧
        (read escapedTable.alone "\\boot\\vmlinuz" none).value =
          pair "ro root=LABEL=My/040Root" ∧
        (read escapedTable.alone "\\boot\\vmlinuz" none).value ≠
          pair ("ro root=" ++ escapedTable.root.device.text) := by
  have only := hasOnlyTable_alone escapedTable
  have onlyRoot : escapedTable.OnlyRoot := nofun
  have text : escapedTable.root.device.text = "LABEL=My\\040Root" := by
    decide +kernel
  have named : "ro root=LABEL=My/040Root" = "ro root=" ++ escapedTable.root.device.named := by
    decide +kernel
  have options : (read escapedTable.alone "\\boot\\vmlinuz" none).value =
      pair "ro root=LABEL=My/040Root" := by
    rw [value_read_of_hasOnlyTable only]
    exact FilesystemTable.ofFstab_eq_pair_iff.mpr ⟨named, onlyRoot⟩
  refine ⟨only, onlyRoot, text, options, ?_⟩
  rw [options, text]
  decide +kernel

end BootManager.Config.KernelOptions
