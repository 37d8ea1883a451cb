import BootManager.Proofs.Config.OwnLines
import BootManager.Proofs.Config.Parts

/-!
# The titles of blocks

The title of a block goes into the title of its entry, between what all entries have in common and
what is told by the rest of the entry, and nowhere else.
-/

namespace BootManager.Config

namespace Stanza

variable {volumes : List Volume} (title : String)

/-- A block under another title. -/
def retitle (stanza : Stanza) : Stanza :=
  { stanza with title, entry := { stanza.entry with title } }

theorem set_retitle (keyword : String) (value : Option String) (stanza : Stanza) :
    ((stanza.retitle title).set volumes keyword value).value =
      (stanza.set volumes keyword value).value.retitle title := by
  rw [value_set, value_set]
  rfl

theorem closeSubmenu_retitle (stanza : Stanza) :
    ((stanza.retitle title).closeSubmenu volumes).value =
      (stanza.closeSubmenu volumes).value.retitle title := by
  have same : (stanza.retitle title).submenu = stanza.submenu := rfl
  rw [closeSubmenu, closeSubmenu, same]
  cases stanza.submenu <;> rfl

theorem feed_retitle (line : Line) (stanza : Stanza) :
    ((stanza.retitle title).feed volumes line).value =
      ((stanza.feed volumes line).value.1, (stanza.feed volumes line).value.2.retitle title) := by
  have submenu : (stanza.retitle title).submenu = stanza.submenu := rfl
  have enabled : (stanza.retitle title).enabled = stanza.enabled := rfl
  cases line with
  | nil => rfl
  | cons keyword values =>
    rw [feed, feed, submenu, enabled]
    cases stanza.submenu with
    | some sub =>
      cases closes (keyword :: values) with
      | true => simp [closeSubmenu_retitle]
      | false => simp [retitle]
    | none =>
      cases closes (keyword :: values) with
      | true => rfl
      | false =>
        cases opensSubmenu (keyword :: values) with
        | true => rfl
        | false =>
          cases stanza.enabled with
          | true => simp [set_retitle]
          | false => rfl

theorem feedAll_retitle (lines : List Line) (stanza : Stanza) :
    ((stanza.retitle title).feedAll volumes lines).value =
      (stanza.feedAll volumes lines).value.retitle title := by
  induction lines generalizing stanza with
  | nil => rfl
  | cons line rest ih => rw [value_feedAll_cons, value_feedAll_cons, feed_retitle, ih]

end Stanza

/-- What stands after the title of its block in the title of an entry. -/
def MenuEntry.suffix (volumes : List Volume) (entry : MenuEntry) : String :=
  match entry.firmwareBootnum, entry.volume.bind fun place => volumes[place]? with
  | some _, _ => " [Firmware Boot Number]"
  | none, some volume => " from " ++ volume.name
  | none, none => ""

theorem Stanza.made_retitle {volumes : List Volume} {stanza : Stanza}
    (unfinished : Unfinished stanza) (title : String) :
    (stanza.retitle title).made volumes =
      { stanza.made volumes with
        title := "Boot " ++ title ++ (stanza.made volumes).suffix volumes } := by
  have bootnum : (stanza.retitle title).bootnum = stanza.bootnum := rfl
  rw [made, made, bootnum]
  cases stanza.bootnum with
  | some number => rfl
  | none =>
    have other : (stanza.loaderEntry volumes).firmwareBootnum = none :=
      unfinished.firmwareBootnum_eq
    have volume : (stanza.loaderEntry volumes).volume = stanza.entry.volume := rfl
    have onVolume : titleOn title (stanza.entry.volume.bind fun place => volumes[place]?) =
        "Boot " ++ title ++ (stanza.loaderEntry volumes).suffix volumes := by
      rw [MenuEntry.suffix, other, volume]
      cases stanza.entry.volume.bind fun place => volumes[place]? <;>
        simp [titleOn, String.append_assoc]
    dsimp only
    rw [← onVolume]
    rfl

/-- Under any title, a block makes the entry that it makes without one, but for the title. -/
theorem entryOfBlock?_eq_map (ctx : Context) (header : Line) (body : List Line) :
    entryOfBlock? ctx header body = (entryOfBlock? ctx [] body).map fun entry =>
      { entry with
        title := "Boot " ++ header[1]?.getD Stanza.unknownTitle ++ entry.suffix ctx.volumes } := by
  let title := header[1]?.getD Stanza.unknownTitle
  let read := Stanza.afterLines ctx.volumes none ctx.selfVolume body
  have untitled : entryOfBlock? ctx [] body = (read.commit ctx.volumes).value := rfl
  have titled : entryOfBlock? ctx header body = ((read.retitle title).commit ctx.volumes).value :=
    congrArg (fun stanza : Stanza => (stanza.commit ctx.volumes).value)
      (Stanza.feedAll_retitle title body (.start none ctx.selfVolume))
  have unfinished : Stanza.Unfinished (read.closeSubmenu ctx.volumes).value :=
    (Stanza.unfinished_afterLines ctx.volumes none ctx.selfVolume).closeSubmenu
  have enabled : (read.retitle title).enabled = read.enabled := rfl
  rw [titled, untitled, Stanza.value_commit, Stanza.value_commit, Stanza.closeSubmenu_retitle,
    Stanza.made_retitle unfinished, enabled]
  cases read.enabled <;> rfl

/-- The title of an entry is put together of the title of its block and what stands after it. -/
theorem title_of_entryOfBlock? {ctx : Context} {header : Line} {body : List Line}
    {entry : MenuEntry} (makes : entryOfBlock? ctx header body = some entry) :
    entry.title =
      "Boot " ++ header[1]?.getD Stanza.unknownTitle ++ entry.suffix ctx.volumes := by
  rw [entryOfBlock?_eq_map, Option.map_eq_some_iff] at makes
  obtain ⟨untitled, -, rfl⟩ := makes
  rfl

end BootManager.Config
