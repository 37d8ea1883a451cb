import BootManager.Config.Load
import BootManager.Proofs.Config.Place
import BootManager.Volume.Buffer

/-!
# Includes as copies

An include outside of blocks does what the lines of the file that it names would do in its place,
where the includes of that file count for nothing. Only an include that leads back to the primary
file by another name can tell the two apart, since it finds the file with more lines then. The main
result is `Inclusion.load_spliced`.
-/

namespace BootManager.Config

/-! ## Lines of files -/

namespace Source

/-- The lines of a file; none if it cannot be read. -/
def lines (source : Source) (path : String) : List Line :=
  match (source.read path).value with
  | none => []
  | some bytes => (TextFile.ofBytes bytes).wordLines

/-- The lines of a file without its includes outside of blocks. -/
def ownLines (source : Source) (path : String) : List Line :=
  Place.outside.ownLines (source.lines path)

/-- Two sources that differ in one file. The paths in `leads` are those of the file, which has the
lines `old` in one source and `new` in the other. -/
structure DifferIn (leads : String → Prop) (old new : List Line) (source other : Source) :
    Prop where
  lines_old : ∀ path, leads path → source.lines path = old
  lines_new : ∀ path, leads path → other.lines path = new
  lines_others : ∀ path, ¬ leads path → other.lines path = source.lines path
  holds : ∀ path, (other.holds path).value = (source.holds path).value

end Source

namespace MemoryFiles

/-- Files in memory differ in one of them after it got another content. -/
theorem differIn_insert (m : MemoryFiles) (path : String) {old new : Bytes}
    {oldLines newLines : List Line} (readsOld : (TextFile.ofBytes old).wordLines = oldLines)
    (readsNew : (TextFile.ofBytes new).wordLines = newLines) :
    Source.DifferIn (fun asked => key asked = key path) oldLines newLines
      (m.insert path old).source (m.insert path new).source where
  lines_old asked same := by simp [Source.lines, source, read?, insert, same, readsOld]
  lines_new asked same := by simp [Source.lines, source, read?, insert, same, readsNew]
  lines_others asked other := by
    have apart : (key asked == key path) = false := beq_eq_false_iff_ne.mpr other
    simp [Source.lines, source, read?, insert, List.lookup_cons, apart]
  holds asked := by simp [source, holds, insert]

end MemoryFiles

/-! ## Reading parts -/

namespace Draft

variable {source other : Source} {ctx : Context} {primary : String} {draft : Draft}
  {onInclude onOther : Line → Draft → Logged Draft}

theorem value_addItems (items : List Item) :
    (draft.addItems ctx onInclude items).value =
      items.foldl (fun draft item => (draft.addItem ctx onInclude item).value) draft := by
  simp [addItems]

theorem value_addItems_cons (item : Item) (items : List Item) :
    (draft.addItems ctx onInclude (item :: items)).value =
      ((draft.addItem ctx onInclude item).value.addItems ctx onInclude items).value := by
  simp [value_addItems]

theorem value_addItems_append (first rest : List Item) :
    (draft.addItems ctx onInclude (first ++ rest)).value =
      ((draft.addItems ctx onInclude first).value.addItems ctx onInclude rest).value := by
  simp [value_addItems]

/-- Only the includes among the parts matter for what reads them. -/
theorem value_addItems_congr {items : List Item}
    (same : ∀ line, .include line ∈ items →
      ∀ draft, (onInclude line draft).value = (onOther line draft).value) :
    (draft.addItems ctx onInclude items).value = (draft.addItems ctx onOther items).value := by
  induction items generalizing draft with
  | nil => rfl
  | cons item items ih =>
    have first : (draft.addItem ctx onInclude item).value =
        (draft.addItem ctx onOther item).value := by
      cases item with
      | directive line => rfl
      | «include» line => exact same line (List.mem_cons_self ..) draft
      | block header body => rfl
    rw [value_addItems_cons, value_addItems_cons, first]
    exact ih fun line member => same line (List.mem_cons_of_mem _ member)

/-- Includes that do nothing can be left out. -/
theorem value_addItems_filter (skips : ∀ line draft, (onInclude line draft).value = draft)
    (items : List Item) :
    (draft.addItems ctx onInclude items).value =
      (draft.addItems ctx onOther (items.filter fun item => !item.namesFile)).value := by
  induction items generalizing draft with
  | nil => rfl
  | cons item items ih =>
    rw [value_addItems_cons, ih]
    cases item with
    | directive line => rw [List.filter_cons_of_pos rfl, value_addItems_cons]; rfl
    | «include» line =>
      rw [List.filter_cons_of_neg (by simp [Item.namesFile]), addItem, skips]
    | block header body => rw [List.filter_cons_of_pos rfl, value_addItems_cons]; rfl

/-! ## Reading files -/

@[simp] theorem value_refuseInclude (file : String) (line : Line) :
    (refuseInclude file line draft).value = draft := by
  unfold refuseInclude
  cases includeTarget? line <;> rfl

theorem value_addFile (file : String) :
    (draft.addFile source ctx onInclude file).value =
      (draft.addItems ctx onInclude (Item.ofLines (source.lines (ctx.resolve file)))).value := by
  unfold addFile Source.lines
  rw [Logged.value_bind]
  cases (source.read (ctx.resolve file)).value with
  | none => simp [Item.ofLines, addItems]
  | some bytes => rfl

/-- A file whose includes do nothing reads like its other lines, whatever reads those. -/
theorem value_addFile_refuseInclude (onInclude : Line → Draft → Logged Draft)
    (named file : String) :
    (draft.addFile source ctx (refuseInclude named) file).value =
      (draft.addItems ctx onInclude (Item.ofLines (source.ownLines (ctx.resolve file)))).value := by
  rw [value_addFile, value_addItems_filter (fun line draft => value_refuseInclude named line),
    Source.ownLines, Item.ofLines_ownLines]

/-- What an include does depends on the lines of the file that it names. -/
theorem value_includeFile_congr {line : Line}
    (same : ∀ name, includeTarget? line = some name →
      Text.sameIgnoringCase name primary = false →
        source.ownLines (ctx.resolve name) = other.ownLines (ctx.resolve name)) :
    (includeFile source ctx primary line draft).value =
      (includeFile other ctx primary line draft).value := by
  unfold includeFile
  cases named : includeTarget? line with
  | none => rfl
  | some name =>
    dsimp only
    cases itself : Text.sameIgnoringCase name primary with
    | true => rfl
    | false =>
      simp only [Bool.false_eq_true, if_false]
      rw [value_addFile_refuseInclude (refuseInclude name), same name named itself,
        ← value_addFile_refuseInclude (refuseInclude name)]

end Draft

theorem value_hasIcons_congr {source other : Source} {ctx : Context}
    (holds : ∀ path, (other.holds path).value = (source.holds path).value) (s : Settings) :
    (hasIcons other ctx s).value = (hasIcons source ctx s).value := by
  unfold hasIcons
  rw [Logged.value_bind, Logged.value_bind, holds]
  split
  · rfl
  · cases s.text.get .iconsDir with
    | none => rfl
    | some dir => exact holds _

/-- What is read depends on the draft that the primary file leaves. -/
theorem value_load_congr {source other : Source} {ctx : Context} {primary : String}
    (holds : ∀ path, (other.holds path).value = (source.holds path).value)
    (drafts : ((Draft.start ctx).addFile other ctx (Draft.includeFile other ctx primary)
        primary).value =
      ((Draft.start ctx).addFile source ctx (Draft.includeFile source ctx primary) primary).value) :
    (load other ctx primary).value = (load source ctx primary).value := by
  simp [load, drafts, value_hasIcons_congr holds]

/-! ## Includes -/

/-- A primary file that includes another file outside of blocks, and the primary file that has the
lines of the other one instead. -/
structure Inclusion where
  ctx : Context
  /-- The name of the primary file. -/
  primary : String
  /-- The paths of the primary file. -/
  leads : String → Prop
  leads_primary : leads (ctx.resolve primary)
  /-- The lines in front of the include. -/
  before : List Line
  /-- The lines after the include. -/
  after : List Line
  outside : Place.outside.after before = .outside
  /-- The keyword of the include. -/
  keyword : String
  isInclude : Text.sameIgnoringCase keyword "include" = true
  /-- The name of the file that is included. -/
  target : String
  otherName : Text.sameIgnoringCase target primary = false
  otherFile : ¬ leads (ctx.resolve target)
  source : Source
  closed : Place.outside.after (source.lines (ctx.resolve target)) = .outside
  /-- The source with the lines of the included file in the primary file. -/
  spliced : Source
  differ : Source.DifferIn leads (before ++ [keyword, target] :: after)
    (before ++ source.ownLines (ctx.resolve target) ++ after) source spliced

namespace Inclusion

variable (i : Inclusion)

/-- The lines that stand instead of the include. There are none if the file cannot be read. -/
def copied : List Line :=
  i.source.ownLines (i.ctx.resolve i.target)

/-- Whether none of the other includes of the primary file reads that file again. -/
def ReadsOnce : Prop :=
  ∀ line name, .include line ∈ Item.ofLines (i.before ++ i.after) →
    Draft.includeTarget? line = some name → Text.sameIgnoringCase name i.primary = false →
      ¬ i.leads (i.ctx.resolve name)

theorem lines_source : i.source.lines (i.ctx.resolve i.primary) =
    i.before ++ [i.keyword, i.target] :: i.after :=
  i.differ.lines_old _ i.leads_primary

theorem lines_spliced : i.spliced.lines (i.ctx.resolve i.primary) =
    i.before ++ i.copied ++ i.after :=
  i.differ.lines_new _ i.leads_primary

theorem isInclude_line : Item.isInclude [i.keyword, i.target] = true := by
  simp [Item.isInclude, i.isInclude]

theorem closed_copied : Place.outside.after i.copied = .outside := by
  rw [copied, Source.ownLines, Place.after_ownLines, i.closed]

/-- A file keeps its lines other than includes, unless lines were copied into it. -/
theorem ownLines_spliced {path : String} (same : i.copied = [] ∨ ¬ i.leads path) :
    i.spliced.ownLines path = i.source.ownLines path := by
  unfold Source.ownLines
  by_cases primary : i.leads path
  · have none : i.copied = [] := same.resolve_right fun other => other primary
    have skipped : Place.outside.ownLines ([i.keyword, i.target] :: i.after) =
        Place.outside.ownLines i.after := by
      rw [Place.ownLines, if_pos ⟨rfl, i.isInclude_line⟩,
        Place.next_outside_of_isInclude i.isInclude_line]
    rw [i.differ.lines_new path primary, i.differ.lines_old path primary, ← copied, none,
      List.append_nil, Place.ownLines_append, Place.ownLines_append, i.outside, skipped]
  · rw [i.differ.lines_others path primary]

/-- An include reads the lines that can be copied in its place. -/
theorem value_includeFile (onInclude : Line → Draft → Logged Draft) (draft : Draft) :
    (Draft.includeFile i.source i.ctx i.primary [i.keyword, i.target] draft).value =
      (draft.addItems i.ctx onInclude (Item.ofLines i.copied)).value := by
  simp only [Draft.includeFile, Draft.includeTarget?, i.otherName, Bool.false_eq_true, if_false]
  exact Draft.value_addFile_refuseInclude onInclude i.target i.target

theorem value_load_spliced (once : i.copied = [] ∨ i.ReadsOnce) :
    (load i.spliced i.ctx i.primary).value = (load i.source i.ctx i.primary).value := by
  let onSource := Draft.includeFile i.source i.ctx i.primary
  let onSpliced := Draft.includeFile i.spliced i.ctx i.primary
  -- The other includes find the same lines, so what stands around the copy is read as before.
  have includes (line : Line) (member : .include line ∈ Item.ofLines (i.before ++ i.after))
      (draft : Draft) : (onSpliced line draft).value = (onSource line draft).value :=
    Draft.value_includeFile_congr fun name named other =>
      i.ownLines_spliced (once.imp_right fun once => once line name member named other)
  rw [Item.ofLines_append i.outside] at includes
  have front (draft : Draft) :
      (draft.addItems i.ctx onSpliced (Item.ofLines i.before)).value =
        (draft.addItems i.ctx onSource (Item.ofLines i.before)).value :=
    Draft.value_addItems_congr fun line member =>
      includes line (List.mem_append_left _ member)
  have back (draft : Draft) :
      (draft.addItems i.ctx onSpliced (Item.ofLines i.after)).value =
        (draft.addItems i.ctx onSource (Item.ofLines i.after)).value :=
    Draft.value_addItems_congr fun line member =>
      includes line (List.mem_append_right _ member)
  refine value_load_congr i.differ.holds ?_
  -- No block is open in front of the copy or after it, so it makes up parts of its own.
  rw [Draft.value_addFile, Draft.value_addFile, i.lines_source, i.lines_spliced,
    List.append_assoc, Item.ofLines_append i.outside, Item.ofLines_append i.closed_copied,
    Item.ofLines_append i.outside, Item.ofLines_cons_include i.isInclude_line]
  simp only [Draft.value_addItems_append, Draft.value_addItems_cons, Draft.addItem]
  rw [i.value_includeFile onSpliced, front, back]

theorem copied_of_unreadable
    (unreadable : (i.source.read (i.ctx.resolve i.target)).value = none) : i.copied = [] := by
  simp [copied, Source.ownLines, Source.lines, unreadable, Place.ownLines]

/-- Copying the lines of an included file in place of the include gives the same settings and
entries, unless the primary file is read again, which has more lines then. Nothing is copied from a
file that cannot be read. -/
theorem load_spliced :
    (i.copied = [] ∨ i.ReadsOnce →
        (load i.spliced i.ctx i.primary).value = (load i.source i.ctx i.primary).value) ∧
      ((i.source.read (i.ctx.resolve i.target)).value = none →
        i.copied = [] ∧
          (load i.spliced i.ctx i.primary).value = (load i.source i.ctx i.primary).value) :=
  ⟨i.value_load_spliced, fun unreadable =>
    have nothing := i.copied_of_unreadable unreadable
    ⟨nothing, i.value_load_spliced (.inl nothing)⟩⟩

/-- A primary file next to other files, of which it includes `extra.conf`. -/
def nextTo (files : MemoryFiles) (before after : List Line) (text spliced : String)
    (outside : Place.outside.after before = .outside)
    (closed : Place.outside.after
      ((files.insert "refind.conf" (Buffer.ascii text)).source.lines "extra.conf") = .outside)
    (reads : (TextFile.ofBytes (Buffer.ascii text)).wordLines =
      before ++ ["include", "extra.conf"] :: after)
    (readsSpliced : (TextFile.ofBytes (Buffer.ascii spliced)).wordLines =
      before ++ (files.insert "refind.conf" (Buffer.ascii text)).source.ownLines "extra.conf" ++
        after) : Inclusion where
  ctx :=
    { appleFirmware := false, arch := .x64, selfVolume := none, selfDir := "", minuteOfDay := none,
      volumes := [] }
  primary := "refind.conf"
  leads asked := MemoryFiles.key asked = MemoryFiles.key "refind.conf"
  leads_primary := rfl
  before := before
  after := after
  outside := outside
  keyword := "include"
  isInclude := by decide
  target := "extra.conf"
  otherName := by decide
  otherFile := by decide
  source := (files.insert "refind.conf" (Buffer.ascii text)).source
  closed := closed
  spliced := (files.insert "refind.conf" (Buffer.ascii spliced)).source
  differ := files.differIn_insert "refind.conf" reads readsSpliced

/-- The first of two includes is of a file with a submenu and an include. -/
def twoIncludes : Inclusion :=
  nextTo (.ofList
    [("extra.conf", Buffer.ascii
      "timeout 7\nmenuentry A \x7b\nsubmenuentry B \x7b\n\x7d\n\x7d\ninclude deeper.conf\n"),
      ("more.conf", Buffer.ascii "menuentry C \x7b\n\x7d\n")])
    [["timeout", "5"]] [["include", "more.conf"]]
    "timeout 5\ninclude extra.conf\ninclude more.conf\n"
    "timeout 5\ntimeout 7\nmenuentry A \x7b\nsubmenuentry B \x7b\n\x7d\n\x7d\ninclude more.conf\n"
    (by decide) (by decide +kernel) (by decide +kernel) (by decide +kernel)

/-- The include of a file that is not there, and one that reads the primary file again. -/
def missingFile : Inclusion :=
  nextTo .empty [["include", "\\refind.conf"]] []
    "include \\refind.conf\ninclude extra.conf\n" "include \\refind.conf\n"
    (by decide) (by decide +kernel) (by decide +kernel) (by decide +kernel)

theorem twoIncludes_missingFile_load :
    (twoIncludes.ReadsOnce ∧
        (load twoIncludes.spliced twoIncludes.ctx twoIncludes.primary).value =
          (load twoIncludes.source twoIncludes.ctx twoIncludes.primary).value) ∧
      (missingFile.source.read (missingFile.ctx.resolve missingFile.target)).value = none ∧
        missingFile.copied = [] ∧
          (load missingFile.spliced missingFile.ctx missingFile.primary).value =
            (load missingFile.source missingFile.ctx missingFile.primary).value := by
  have once : twoIncludes.ReadsOnce := by
    intro line name member named other
    have parts : Item.ofLines (twoIncludes.before ++ twoIncludes.after) =
        [.directive ["timeout", "5"], .include ["include", "more.conf"]] := by decide +kernel
    obtain rfl : line = ["include", "more.conf"] := by simpa [parts] using member
    obtain rfl : "more.conf" = name := by simpa [Draft.includeTarget?] using named
    change MemoryFiles.key "more.conf" ≠ MemoryFiles.key "refind.conf"
    decide
  have unreadable : (missingFile.source.read
      (missingFile.ctx.resolve missingFile.target)).value = none := by decide +kernel
  exact ⟨⟨once, twoIncludes.load_spliced.1 (.inr once)⟩, unreadable,
    missingFile.load_spliced.2 unreadable⟩

/-- The include of a file with a block, after one that reads the primary file again. -/
def rereading : Inclusion :=
  nextTo (.ofList [("extra.conf", Buffer.ascii "menuentry A \x7b\n\x7d\n")])
    [["include", "\\refind.conf"]] []
    "include \\refind.conf\ninclude extra.conf\n"
    "include \\refind.conf\nmenuentry A \x7b\n\x7d\n"
    (by decide) (by decide +kernel) (by decide +kernel) (by decide +kernel)

/-- There is a second entry if the block stands in the primary file, which is read twice. -/
theorem rereading_load_ne :
    (load rereading.spliced rereading.ctx rereading.primary).value ≠
      (load rereading.source rereading.ctx rereading.primary).value := by
  intro same
  have entries := congrArg (fun loaded => loaded.entries.length) same
  exact absurd entries (by decide +kernel)

end Inclusion

end BootManager.Config
