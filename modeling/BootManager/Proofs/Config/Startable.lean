import BootManager.Proofs.Config.ListLines
import BootManager.Proofs.Config.OwnLines
import BootManager.Proofs.Config.Parts

/-!
# What entries start

An entry starts a boot entry of the firmware or a loader, never both. A block that names no loader
gets one, but a block that names a loader first and the empty word last keeps the empty word. The
main result is `load_startLaw`.
-/

namespace BootManager.Config

/-- There is something that an entry starts: a boot entry of the firmware and nothing else, or a
loader. -/
inductive MenuEntry.CanStart (entry : MenuEntry) : Prop where
  | firmware (number : UInt16) (names : entry.firmwareBootnum = some number)
      (loader : entry.loader = none) (initrd : entry.initrd = none) (options : entry.options = none)
  | loader (path : String) (other : entry.firmwareBootnum = none) (names : entry.loader = some path)
      (some : path ≠ "")

theorem MenuEntry.not_canStart {entry : MenuEntry} (other : entry.firmwareBootnum = none)
    (empty : entry.loader = some "") : ¬entry.CanStart := by
  rintro (⟨number, names, -, -, -⟩ | ⟨path, -, names, path_ne⟩)
  · rw [other] at names
    cases names
  · rw [empty] at names
    exact path_ne (Option.some.inj names).symm

namespace Stanza

/-- The own lines of a block take its loader away: the last loader that they name is the empty word,
but another is not, and no boot entry of the firmware is named. -/
structure LosesLoader (lines : List Line) : Prop where
  bootnum : valuesOf "firmware_bootnum" lines = []
  last : (valuesOf "loader" lines).getLast? = some ""
  other : ∃ loader ∈ valuesOf "loader" lines, loader ≠ ""

/-- What the entry of a block starts. -/
structure StartLaw (lines : List Line) (entry : MenuEntry) : Prop where
  /-- There is something to start unless the loader was taken away. -/
  canStart_iff : entry.CanStart ↔ ¬LosesLoader lines
  /-- Otherwise the loader is the empty word. -/
  loader_eq : LosesLoader lines → entry.firmwareBootnum = none ∧ entry.loader = some ""

variable {volumes : List Volume} {stanza : Stanza}

theorem canStart_firmwareEntry (unfinished : Unfinished stanza) (bootnum : String) :
    (stanza.firmwareEntry bootnum).CanStart :=
  .firmware _ rfl rfl rfl unfinished.options_eq

variable {lines : List Line}

theorem LosesLoader.any (loses : LosesLoader lines) :
    (valuesOf "loader" lines).any (· != "") = true := by
  obtain ⟨loader, member, filled⟩ := loses.other
  exact List.any_eq_true.mpr ⟨loader, member, bne_iff_ne.mpr filled⟩

theorem StartLaw.of_canStart {entry : MenuEntry} (starts : entry.CanStart)
    (never : ¬LosesLoader lines) : StartLaw lines entry where
  canStart_iff := iff_of_true starts never
  loader_eq loses := absurd loses never

/-- The loader of a block that starts no boot entry of the firmware is the last that its lines name,
if one of those that they name is not empty. -/
theorem loaderEntry_startLaw (unfinished : Unfinished stanza)
    (unnamed : valuesOf "firmware_bootnum" lines = [])
    (loader : stanza.entry.loader = (valuesOf "loader" lines).getLast?)
    (hasLoader : stanza.hasLoader = (valuesOf "loader" lines).any (· != "")) :
    StartLaw lines (stanza.loaderEntry volumes) := by
  have other : (stanza.loaderEntry volumes).firmwareBootnum = none := unfinished.firmwareBootnum_eq
  cases filled : stanza.hasLoader with
  | false =>
    have given : (stanza.loaderEntry volumes).loader = some defaultLoader := by
      rw [loaderEntry, filled]
      rfl
    have never : ¬LosesLoader lines := by
      intro loses
      rw [hasLoader, loses.any] at filled
      cases filled
    exact .of_canStart (.loader _ other given (by decide)) never
  | true =>
    obtain ⟨found, member, found_ne⟩ : ∃ found ∈ valuesOf "loader" lines, found ≠ "" := by
      simpa [filled] using hasLoader.symm
    obtain ⟨last, isLast⟩ : ∃ last, (valuesOf "loader" lines).getLast? = some last :=
      Option.isSome_iff_exists.mp (List.getLast?_isSome.mpr (List.ne_nil_of_mem member))
    have kept : (stanza.loaderEntry volumes).loader = some last := by
      rw [← isLast, ← loader, loaderEntry, filled]
      rfl
    by_cases empty : last = ""
    · subst empty
      have never : ¬(stanza.loaderEntry volumes).CanStart := MenuEntry.not_canStart other kept
      have loses : LosesLoader lines := ⟨unnamed, isLast, found, member, found_ne⟩
      exact ⟨iff_of_false never (not_not_intro loses), fun _ => ⟨other, kept⟩⟩
    · have never : ¬LosesLoader lines := by
        rintro ⟨-, last', -⟩
        rw [isLast] at last'
        exact empty (Option.some.inj last')
      exact .of_canStart (.loader last other kept empty) never

theorem made_startLaw (unfinished : Unfinished stanza)
    (bootnum : stanza.bootnum = (valuesOf "firmware_bootnum" lines).getLast?)
    (loader : stanza.entry.loader = (valuesOf "loader" lines).getLast?)
    (hasLoader : stanza.hasLoader = (valuesOf "loader" lines).any (· != "")) :
    StartLaw lines (stanza.made volumes) := by
  rw [made]
  cases named : stanza.bootnum with
  | some number =>
    have never : ¬LosesLoader lines := by
      rintro ⟨unnamed, -, -⟩
      rw [bootnum, unnamed] at named
      cases named
    exact .of_canStart (canStart_firmwareEntry unfinished number) never
  | none =>
    rw [bootnum, List.getLast?_eq_none_iff] at named
    exact loaderEntry_startLaw unfinished named loader hasLoader

theorem commit_startLaw {title : Option String} {selfVolume : Option Nat} {entry : MenuEntry}
    (commits : ((afterLines volumes title selfVolume lines).commit volumes).value = some entry) :
    StartLaw lines entry := by
  let read := afterLines volumes title selfVolume lines
  let closed := (read.closeSubmenu volumes).value
  have same : closed.base = read.base := base_closeSubmenu read
  rw [value_commit] at commits
  split at commits
  next on =>
    obtain rfl : closed.made volumes = entry := Option.some.inj commits
    have kept : ∀ line ∈ own false lines, disables line = false :=
      (enabled_afterLines_iff volumes title selfVolume).mp on
    have get (slot : Slot) : slot.get closed = (valuesOf slot.word lines).getLast? := by
      rw [← get_base, same, get_base]
      exact get_afterLines volumes title selfVolume kept slot
    have hasLoader : closed.hasLoader = (valuesOf "loader" lines).any (· != "") :=
      (congrArg Stanza.hasLoader same).trans (hasLoader_afterLines volumes title selfVolume kept)
    have unfinished : Unfinished closed :=
      (unfinished_afterLines volumes title selfVolume).closeSubmenu
    exact made_startLaw unfinished (get .bootnum) (get .loader) hasLoader
  next => cases commits

end Stanza

/-- Every entry comes from a block that is read, and starts something unless the lines of that block
take its loader away. -/
theorem load_startLaw {source : Source} {ctx : Context} {primary : String} {entry : MenuEntry}
    (member : entry ∈ (load source ctx primary).value.entries) :
    ∃ header body, .block header body ∈ source.allItems ctx primary ∧
      entryOfBlock? ctx header body = some entry ∧ Stanza.StartLaw body entry := by
  rw [value_load, List.mem_flatMap] at member
  obtain ⟨item, among, stands⟩ := member
  match item with
  | .block header body =>
    have makes : entryOfBlock? ctx header body = some entry := by
      simpa [Item.entries] using stands
    exact ⟨header, body, among, makes, Stanza.commit_startLaw makes⟩
  | .directive _ => cases stands
  | .include _ => cases stands

/-- A source with one file. -/
def oneFile (text : String) : Source :=
  (MemoryFiles.ofList [("refind.conf", Buffer.ascii text)]).source

/-- A block that names the empty word first and a loader last, and an initrd. -/
def namedLate : Source :=
  oneFile "menuentry A \x7b\nloader \"\"\ninitrd y\nloader x\n\x7d\n"

theorem namedLate_startLaw :
    let entry : MenuEntry :=
      { title := "Boot A", loader := some "x", initrd := some "y", options := some "initrd=y" }
    entry ∈ (load namedLate ListSetting.nowhere "refind.conf").value.entries ∧
      ∃ header body, .block header body ∈ namedLate.allItems ListSetting.nowhere "refind.conf" ∧
        entryOfBlock? ListSetting.nowhere header body = some entry ∧
        Stanza.StartLaw body entry := by
  intro entry
  have member : entry ∈ (load namedLate ListSetting.nowhere "refind.conf").value.entries := by
    decide +kernel
  exact ⟨member, load_startLaw member⟩

/-- The same with the empty word last. -/
def lostLoader : Source :=
  oneFile "menuentry A \x7b\nloader x\nloader \"\"\n\x7d\n"

/-- The entry keeps the empty word and starts nothing. -/
theorem lostLoader_not_canStart :
    ¬∀ entry ∈ (load lostLoader ListSetting.nowhere "refind.conf").value.entries,
      entry.CanStart := by
  intro all
  have entries : (load lostLoader ListSetting.nowhere "refind.conf").value.entries =
      [{ title := "Boot A", loader := some "" }] := by
    decide +kernel
  rw [entries] at all
  exact MenuEntry.not_canStart rfl rfl (all _ (List.mem_singleton_self _))

end BootManager.Config
