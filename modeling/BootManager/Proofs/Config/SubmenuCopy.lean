import BootManager.Proofs.Config.OwnLines

/-!
# Submenus without lines

A submenu begins with what its block has so far. If it has no lines of its own and is the last in
its block, its entry starts the same loader from the same volume as the block does. The command line
is put together in two places, one for blocks and one for submenus, and only that for blocks leaves
out empty words; so the options are the same exactly if no empty word was to be left out. The main
result is `EmptySubmenu.copyLaw`.
-/

namespace BootManager.Config.Stanza

variable {volumes : List Volume} {stanza : Stanza} {title : String}

/-! ## The command line -/

theorem merge_filter (options : Option String) (value : String) :
    merge (options.filter (· != "")) value = merge options value := by
  cases options with
  | none => rfl
  | some given =>
    by_cases empty : given = ""
    · simp [Option.filter, empty, merge]
    · simp [Option.filter, empty]

/-- What is put after options is not lost. -/
theorem some_merge_ne (options : Option String) (value : String) :
    some (merge options value) ≠ options.filter (· != "") := by
  cases options with
  | none => exact Option.some_ne_none _
  | some given =>
    by_cases empty : given = ""
    · simp [Option.filter, empty]
    · have longer : given ++ " " ++ value ≠ given := by
        intro same
        have lengths := congrArg String.length same
        rw [String.length_append, String.length_append] at lengths
        have blank : " ".length = 1 := rfl
        omega
      simpa [Option.filter, empty, merge] using longer

/-! ## The entry of an empty submenu -/

/-- The entry of a submenu without lines. -/
def copy (title : String) (stanza : Stanza) : SubEntry where
  title
  loader := stanza.entry.loader
  volume := stanza.entry.volume
  initrd := stanza.entry.initrd
  options :=
    match stanza.entry.initrd with
    | some initrd => some (merge stanza.options ("initrd=" ++ initrd))
    | none => stanza.options
  useGraphics := stanza.entry.useGraphics

theorem value_closeSubmenu_openSubmenu (on : stanza.enabled = true) :
    ((stanza.openSubmenu title).closeSubmenu volumes).value =
      { stanza with
        entry := { stanza.entry with submenus := stanza.entry.submenus ++ [stanza.copy title] }
        submenu := none } := by
  simp only [closeSubmenu, openSubmenu, Submenu.commit, on, if_true, Logged.value_bind,
    Logged.value_pure]
  rfl

/-- The options of a submenu without lines are those of its block unless an empty word is left out
of the latter: an empty initrd, or empty options without an initrd behind them. -/
theorem options_copy_iff :
    (stanza.copy title).options = (stanza.loaderEntry volumes).options ↔
      stanza.entry.initrd ≠ some "" ∧ (stanza.options = some "" → stanza.entry.initrd ≠ none) := by
  rw [copy, loaderEntry]
  cases stanza.entry.initrd with
  | none =>
    cases stanza.options with
    | none => simp
    | some given => simp [Option.filter]
  | some initrd =>
    by_cases empty : initrd = ""
    · have differ :
          some (merge stanza.options ("initrd=" ++ "")) ≠ stanza.options.filter (· != "") :=
        some_merge_ne stanza.options _
      simpa [Option.filter, empty] using differ
    · have kept : (some initrd).filter (· != "") = some initrd := by
        simp [Option.filter, empty]
      simp [kept, merge_filter, empty]

/-! ## Braces -/

theorem closeSubmenu_of_none (outside : stanza.submenu = none) :
    (stanza.closeSubmenu volumes).value = stanza := by
  rw [closeSubmenu, outside]
  rfl

/-- Braces do no more than to close the submenu, as the end of the block does. -/
theorem closeSubmenu_feedAll {closing : List Line}
    (braces : ∀ line ∈ closing, line.head? = some "\x7d") :
    ((stanza.feedAll volumes closing).value.closeSubmenu volumes).value =
      (stanza.closeSubmenu volumes).value := by
  induction closing generalizing stanza with
  | nil => rfl
  | cons line rest ih =>
    obtain ⟨brace, later⟩ := List.forall_mem_cons.mp braces
    have step := feed_spec volumes line stanza
    rw [value_feedAll_cons, ih later]
    generalize (stanza.feed volumes line).value = fed at step
    cases step with
    | leaves sub reading => exact closeSubmenu_of_none (submenu_closeSubmenu stanza)
    | stays sub reading plain => exact absurd brace plain
    | ends outside => rfl
    | enters title outside opens =>
      rw [submenuTitle?_of_brace brace] at opens
      cases opens
    | sets outside plain => exact absurd brace plain

/-! ## Blocks -/

theorem isSome_submenu_feedAll (lines : List Line) (stanza : Stanza) :
    (stanza.feedAll volumes lines).value.submenu.isSome =
      lines.foldl (fun inside line => (track inside line).2) stanza.submenu.isSome := by
  induction lines generalizing stanza with
  | nil => rfl
  | cons line rest ih =>
    have step := (feed_spec volumes line stanza).track_eq
    rw [value_feedAll_cons, ih, List.foldl_cons, step]

/-- Lines of a block that end with a submenu without lines. The block is not disabled, starts no
boot entry of the firmware and names a loader that is not empty. -/
structure EmptySubmenu where
  /-- The lines in front of the submenu. -/
  body : List Line
  /-- The line that opens it. -/
  opening : Line
  title : String
  /-- The braces behind it. A file may end without them. -/
  closing : List Line
  outside : leavesOpen body = false
  opens : submenuTitle? opening = some title
  braces : ∀ line ∈ closing, line.head? = some "\x7d"
  kept : ∀ line ∈ own false body, disables line = false
  noBootnum : valuesOf "firmware_bootnum" body = []
  someLoader : ∃ loader ∈ valuesOf "loader" body, loader ≠ ""

namespace EmptySubmenu

/-- All lines of the block. -/
def lines (e : EmptySubmenu) : List Line :=
  e.body ++ e.opening :: e.closing

/-- No empty word is left out of the options of the block: the last initrd that it names is not
empty, and neither are the last options, unless there is an initrd. -/
structure KeepsOptions (e : EmptySubmenu) : Prop where
  initrd : (valuesOf "initrd" e.body).getLast? ≠ some ""
  options : (valuesOf "options" e.body).getLast? = some "" → valuesOf "initrd" e.body ≠ []

theorem keepsOptions_iff (e : EmptySubmenu) :
    e.KeepsOptions ↔ (valuesOf "initrd" e.body).getLast? ≠ some "" ∧
      ((valuesOf "options" e.body).getLast? = some "" →
        (valuesOf "initrd" e.body).getLast? ≠ none) := by
  rw [Ne, Ne, List.getLast?_eq_none_iff]
  exact ⟨fun ⟨initrd, options⟩ => ⟨initrd, options⟩, fun ⟨initrd, options⟩ => ⟨initrd, options⟩⟩

/-- How the entry of the submenu relates to that of the block. -/
structure Copies (e : EmptySubmenu) (parent : MenuEntry) (sub : SubEntry) : Prop where
  title_eq : sub.title = e.title
  loader_eq : sub.loader = parent.loader
  volume_eq : sub.volume = parent.volume
  initrd_eq : sub.initrd = parent.initrd
  useGraphics_eq : sub.useGraphics = parent.useGraphics
  options_iff : sub.options = parent.options ↔ e.KeepsOptions

variable (e : EmptySubmenu) (volumes : List Volume) (name : Option String) (selfVolume : Option Nat)

/-- The block in front of the submenu. -/
def block : Stanza :=
  afterLines volumes name selfVolume e.body

theorem submenu_block : (e.block volumes name selfVolume).submenu = none := by
  have outside : (e.block volumes name selfVolume).submenu.isSome = leavesOpen e.body :=
    isSome_submenu_feedAll e.body (start name selfVolume)
  rwa [e.outside, Option.isSome_eq_false_iff, Option.isNone_iff_eq_none] at outside

theorem enabled_block : (e.block volumes name selfVolume).enabled = true :=
  (enabled_afterLines_iff volumes name selfVolume).mpr e.kept

theorem get_block (slot : Slot) :
    slot.get (e.block volumes name selfVolume) = (valuesOf slot.word e.body).getLast? :=
  get_afterLines volumes name selfVolume e.kept slot

theorem closeSubmenu_afterLines :
    ((afterLines volumes name selfVolume e.lines).closeSubmenu volumes).value =
      (((e.block volumes name selfVolume).openSubmenu e.title).closeSubmenu volumes).value := by
  let block := e.block volumes name selfVolume
  have opened : (block.feed volumes e.opening).value.2 = block.openSubmenu e.title :=
    congrArg Prod.snd (value_feed_of_title (e.submenu_block volumes name selfVolume) e.opens)
  have read : afterLines volumes name selfVolume e.lines =
      ((block.openSubmenu e.title).feedAll volumes e.closing).value := by
    rw [← opened, ← value_feedAll_cons]
    exact value_feedAll_append e.body (e.opening :: e.closing) (start name selfVolume)
  rw [read, closeSubmenu_feedAll e.braces]

theorem value_commit_afterLines :
    let block := e.block volumes name selfVolume
    ((afterLines volumes name selfVolume e.lines).commit volumes).value =
      some { block.loaderEntry volumes with
        submenus := block.entry.submenus ++ [block.copy e.title] } := by
  intro block
  have on : block.enabled = true := e.enabled_block volumes name selfVolume
  have bootnum : block.bootnum = none := by
    have last := e.get_block volumes name selfVolume .bootnum
    rwa [Slot.word, e.noBootnum] at last
  have enabled : (afterLines volumes name selfVolume e.lines).enabled = true := by
    rw [← enabled_closeSubmenu, e.closeSubmenu_afterLines, enabled_closeSubmenu]
    exact on
  rw [value_commit, if_pos enabled, e.closeSubmenu_afterLines,
    value_closeSubmenu_openSubmenu on, made]
  simp only [bootnum]
  rfl

/-- The last submenu entry of the block has all that the entry of the block has, and the same
options as well exactly if no empty word is left out of them. -/
theorem copyLaw :
    ∃ parent sub,
      ((afterLines volumes name selfVolume e.lines).commit volumes).value = some parent ∧
        parent.submenus.getLast? = some sub ∧ e.Copies parent sub := by
  let read := e.block volumes name selfVolume
  have hasLoader : read.hasLoader = true := by
    rw [show read.hasLoader = _ from hasLoader_afterLines volumes name selfVolume e.kept]
    simpa using e.someLoader
  have initrd : read.entry.initrd = _ := e.get_block volumes name selfVolume .initrd
  have options : read.options = _ := e.get_block volumes name selfVolume .options
  refine ⟨_, read.copy e.title, e.value_commit_afterLines volumes name selfVolume,
    List.getLast?_concat, rfl, ?_, rfl, rfl, rfl, ?_⟩
  · change _ = (read.loaderEntry volumes).loader
    rw [loaderEntry, hasLoader]
    rfl
  · change (read.copy e.title).options = (read.loaderEntry volumes).options ↔ _
    rw [options_copy_iff, initrd, options, e.keepsOptions_iff]
    rfl

/-- A block with an initrd and options, behind a submenu that is disabled. -/
def safeMode : EmptySubmenu where
  body :=
    [["loader", "vmlinuz"], ["submenuentry", "Old"], ["disabled"], ["\x7d"], ["initrd", "y"],
      ["options", "quiet"]]
  opening := ["SubmenuEntry", "Safe", "\x7b"]
  title := "Safe"
  closing := [["\x7d"], ["\x7d"]]
  outside := by decide
  opens := by decide
  braces := by decide
  kept := by decide
  noBootnum := by decide
  someLoader := ⟨"vmlinuz", by decide, by decide⟩

theorem safeMode_copyLaw :
    safeMode.KeepsOptions ∧ ∃ parent sub,
      ((afterLines [] (some "Linux") none safeMode.lines).commit []).value = some parent ∧
        parent.submenus.getLast? = some sub ∧ safeMode.Copies parent sub :=
  ⟨⟨by decide, by decide⟩, safeMode.copyLaw [] (some "Linux") none⟩

/-- A block whose initrd is the empty word. -/
def emptyInitrd : EmptySubmenu where
  body := [["loader", "x"], ["initrd", ""]]
  opening := ["submenuentry", "S"]
  title := "S"
  closing := [["\x7d"], ["\x7d"]]
  outside := by decide
  opens := by decide
  braces := by decide
  kept := by decide
  noBootnum := by decide
  someLoader := ⟨"x", by decide, by decide⟩

/-- The block has no options, but the submenu does. -/
theorem emptyInitrd_not_copied :
    ∃ parent sub,
      ((afterLines [] (some "A") none emptyInitrd.lines).commit []).value = some parent ∧
        parent.submenus.getLast? = some sub ∧ parent.options = none ∧
          sub.options = some "initrd=" := by
  let sub : SubEntry :=
    { title := "S", loader := some "x", initrd := some "", options := some "initrd=" }
  exact ⟨{ title := "Boot A", loader := some "x", initrd := some "", submenus := [sub] }, sub,
    by decide +kernel, rfl, rfl, rfl⟩

end EmptySubmenu

end BootManager.Config.Stanza
