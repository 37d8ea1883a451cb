import BootManager.Proofs.Config.BlockTitle

/-!
# Volumes of entries

A block begins at the volume that the boot manager was started from, and moves to another only if a
line names one that is usable; a submenu begins where its block is. So an entry never points at a
volume that is not usable, unless it was started from that. The main result is `load_volumesLaw`.
-/

namespace BootManager.Config

open Text

namespace Stanza

variable {volumes : List Volume}

/-! ## Usable volumes -/

/-- The place is that of a volume that a block may use. -/
def IsUsable (volumes : List Volume) (place : Nat) : Prop :=
  ∃ v, volumes[place]? = some v ∧ v.isReadable = true ∧ v.hasRoot = true

theorem isUsable_iff {place : Nat} :
    IsUsable volumes place ↔ (volumes[place]?.any fun v => v.isReadable && v.hasRoot) = true := by
  simp only [IsUsable, Option.any_eq_true, Bool.and_eq_true]

theorem value_usableVolume (wanted : String) :
    (usableVolume volumes wanted).value = (Volume.find? volumes wanted).value.filter fun place =>
      volumes[place]?.any fun v => v.isReadable && v.hasRoot := by
  rw [usableVolume, Logged.value_bind]
  cases (Volume.find? volumes wanted).value with
  | none => rfl
  | some place =>
    rw [Option.filter_some]
    cases there : volumes[place]? with
    | none => simp [there]
    | some v => cases usable : v.isReadable && v.hasRoot <;> simp [there, usable]

theorem usableVolume_eq_some_iff {wanted : String} {place : Nat} :
    (usableVolume volumes wanted).value = some place ↔
      (Volume.find? volumes wanted).value = some place ∧ IsUsable volumes place := by
  rw [value_usableVolume, Option.filter_eq_some_iff, isUsable_iff]

/-! ## One line -/

/-- A block and its submenus point at nothing but what has a property, and neither would the submenu
being read if it named a loader. -/
structure PointsIn (P : Option Nat → Prop) (stanza : Stanza) : Prop where
  entry : P stanza.entry.volume
  submenus : ∀ sub ∈ stanza.entry.submenus, P sub.volume
  reading : ∀ sub ∈ stanza.submenu, P sub.entry.volume ∧ P sub.currentVolume

variable {P : Option Nat → Prop} {line : Line} {stanza : Stanza} {fed : Feed × Stanza}

theorem or_of_moves {old : Option Nat} (named : ∀ place ∈ moves? volumes line, P (some place))
    (holds : P old) : P ((moves? volumes line).or old) := by
  cases moved : moves? volumes line with
  | none => exact holds
  | some place => exact named place moved

theorem Submenu.feed_pointsIn {sub : Submenu}
    (named : ∀ place ∈ moves? volumes line, P (some place))
    (points : P sub.entry.volume ∧ P sub.currentVolume) :
    P (sub.feed volumes line).value.entry.volume ∧
      P (sub.feed volumes line).value.currentVolume := by
  obtain ⟨atEntry, current⟩ := points
  by_cases on : sub.enabled = true
  · rw [Submenu.value_feed on]
    refine ⟨or_of_moves named ?_, or_of_moves named current⟩
    cases valueOf? "loader" line with
    | none => exact atEntry
    | some loader => exact current
  · have same : (sub.feed volumes line).value = sub := by
      cases line <;> simp [Submenu.feed, on]
    rw [same]
    exact ⟨atEntry, current⟩

theorem Submenu.volume_commit {sub : Submenu} {entry : SubEntry}
    (commits : (sub.commit volumes).value = some entry) : entry.volume = sub.entry.volume := by
  unfold Submenu.commit at commits
  split at commits
  next => rw [← Option.some.inj commits]
  next => cases commits

namespace PointsIn

theorem closeSubmenu (points : PointsIn P stanza) :
    PointsIn P (stanza.closeSubmenu volumes).value where
  entry := by
    have kept : (stanza.closeSubmenu volumes).value.entry.volume = stanza.entry.volume :=
      congrArg (·.entry.volume) (base_closeSubmenu stanza)
    rw [kept]
    exact points.entry
  submenus := by
    intro entry member
    rw [submenus_closeSubmenu, List.mem_append, Option.mem_toList] at member
    rcases member with old | commits
    · exact points.submenus entry old
    · obtain ⟨sub, reading, commits⟩ := Option.bind_eq_some_iff.mp commits
      rw [Submenu.volume_commit commits]
      exact (points.reading sub reading).1
  reading := by
    intro sub reading
    rw [submenu_closeSubmenu] at reading
    cases reading

theorem take (named : ∀ place ∈ moves? volumes line, P (some place)) (points : PointsIn P stanza) :
    PointsIn P (stanza.take volumes line) where
  entry := by
    cases line with
    | nil => exact points.entry
    | cons keyword values =>
      rw [Stanza.take]
      split
      · rw [value_set, assign_volume]
        exact or_of_moves named points.entry
      · exact points.entry
  submenus := by
    rw [submenus_take]
    exact points.submenus
  reading := by
    rw [submenu_take]
    exact points.reading

/-- A line adds no volume to those that are pointed at, but the one that it moves to. -/
theorem feed (named : ∀ place ∈ moves? volumes line, P (some place)) (points : PointsIn P stanza)
    (step : Fed volumes line stanza fed) : PointsIn P fed.2 := by
  cases step with
  | leaves sub reading brace => exact points.closeSubmenu
  | stays sub reading plain =>
    refine ⟨points.entry, points.submenus, ?_⟩
    rintro _ ⟨⟩
    exact Submenu.feed_pointsIn named (points.reading sub reading)
  | ends outside brace => exact points
  | enters title outside opens =>
    refine ⟨points.entry, points.submenus, ?_⟩
    rintro _ ⟨⟩
    exact ⟨points.entry, points.entry⟩
  | sets outside plain opens => exact points.take named

theorem feedAll {lines : List Line}
    (named : ∀ line ∈ lines, ∀ place ∈ moves? volumes line, P (some place))
    (points : PointsIn P stanza) : PointsIn P (stanza.feedAll volumes lines).value := by
  induction lines generalizing stanza with
  | nil => exact points
  | cons line rest ih =>
    obtain ⟨first, later⟩ := List.forall_mem_cons.mp named
    rw [value_feedAll_cons]
    exact ih later (points.feed first (feed_spec volumes line stanza))

theorem commit (points : PointsIn P stanza) {entry : MenuEntry}
    (commits : (stanza.commit volumes).value = some entry) :
    P entry.volume ∧ ∀ sub ∈ entry.submenus, P sub.volume := by
  have closed : PointsIn P (stanza.closeSubmenu volumes).value := points.closeSubmenu
  rw [value_commit] at commits
  split at commits
  next =>
    rw [← Option.some.inj commits, submenus_made]
    refine ⟨?_, closed.submenus⟩
    unfold made
    split
    · exact closed.entry
    · exact closed.entry
  next => cases commits

end PointsIn

/-! ## Lines that name no usable volume -/

section

variable {keyword wanted : String} (rest : List String) (word : lower keyword = "volume")
  (unusable : (usableVolume volumes wanted).value = none)

include word unusable

theorem Submenu.value_feed_of_unusable (sub : Submenu) :
    (sub.feed volumes (keyword :: wanted :: rest)).value = sub := by
  rw [Submenu.feed]
  split
  · simp [Submenu.value_set, assign, word, unusable]
  · rfl

theorem value_feed_of_unusable (stanza : Stanza) :
    (stanza.feed volumes (keyword :: wanted :: rest)).value = (.more, stanza) := by
  refine value_feed_of_idle ?_ (fun _ => ?_) (Submenu.value_feed_of_unusable rest word unusable) ?_
  · rintro ⟨⟩
    exact absurd word (by decide)
  · have other : lower keyword ≠ lower "submenuentry" := by
      rw [word]
      decide
    rw [submenuTitle?, if_neg (mt sameIgnoringCase_iff.mp other)]
  · rw [take]
    split
    · simp [value_set, assign, assignType, word, unusable]
    · rfl

end

theorem usableVolume_eq_none {wanted : String}
    (unusable : ∀ place, (Volume.find? volumes wanted).value = some place →
      ¬IsUsable volumes place) : (usableVolume volumes wanted).value = none := by
  rw [Option.eq_none_iff_forall_ne_some]
  intro place found
  obtain ⟨found, usable⟩ := usableVolume_eq_some_iff.mp found
  exact unusable place found usable

end Stanza

/-! ## Entries -/

open Stanza (IsUsable valueOf?)

/-- What an entry may point at whose block has such lines: the volume that the boot manager was
started from, or a usable one that is found for the value of a line. -/
def IsNamed (ctx : Context) (lines : List Line) (volume : Option Nat) : Prop :=
  volume = ctx.selfVolume ∨ ∃ place, volume = some place ∧ IsUsable ctx.volumes place ∧
    ∃ line ∈ lines, ∃ wanted, valueOf? "volume" line = some wanted ∧
      (Volume.find? ctx.volumes wanted).value = some place

theorem isNamed_of_moves {ctx : Context} {line : Line} {lines : List Line}
    (member : line ∈ lines) :
    ∀ place ∈ Stanza.moves? ctx.volumes line, IsNamed ctx lines (some place) := by
  intro place moved
  obtain ⟨wanted, given, found⟩ := Option.bind_eq_some_iff.mp moved
  obtain ⟨found, usable⟩ := Stanza.usableVolume_eq_some_iff.mp found
  exact .inr ⟨place, rfl, usable, line, member, wanted, given, found⟩

/-- Where the entry of a block points, and its submenus, and how its title tells. -/
structure VolumeLaw (ctx : Context) (header : Line) (body : List Line) (entry : MenuEntry) :
    Prop where
  volume : IsNamed ctx body entry.volume
  submenus : ∀ sub ∈ entry.submenus, IsNamed ctx body sub.volume
  /-- The title of an entry that starts a loader names the volume, if it is among the known ones. -/
  title_eq : entry.firmwareBootnum = none →
    entry.title =
      match entry.volume.bind fun place => ctx.volumes[place]? with
      | some volume => "Boot " ++ header[1]?.getD Stanza.unknownTitle ++ " from " ++ volume.name
      | none => "Boot " ++ header[1]?.getD Stanza.unknownTitle

theorem volumeLaw_of_entryOfBlock? {ctx : Context} {header : Line} {body : List Line}
    {entry : MenuEntry} (makes : entryOfBlock? ctx header body = some entry) :
    VolumeLaw ctx header body entry := by
  have begun : Stanza.PointsIn (IsNamed ctx body) (.start header[1]? ctx.selfVolume) :=
    ⟨.inl rfl, nofun, nofun⟩
  obtain ⟨atEntry, atSubmenus⟩ := (begun.feedAll fun _ => isNamed_of_moves).commit makes
  refine ⟨atEntry, atSubmenus, fun loads => ?_⟩
  rw [title_of_entryOfBlock? makes, MenuEntry.suffix, loads]
  cases entry.volume.bind fun place => ctx.volumes[place]? <;> simp [String.append_assoc]

/-- Where the entries of a configuration point. -/
structure VolumesLaw (source : Source) (ctx : Context) (primary : String) : Prop where
  /-- Every entry comes from a block that is read, whose lines tell where it points. -/
  entries : ∀ entry ∈ (load source ctx primary).value.entries,
    ∃ header body, .block header body ∈ source.allItems ctx primary ∧
      entryOfBlock? ctx header body = some entry ∧ VolumeLaw ctx header body entry
  /-- A line does nothing at all, wherever it stands in a block, if the volume that it names is not
  there or not usable. -/
  unusable : ∀ line wanted, valueOf? "volume" line = some wanted →
    (∀ place, (Volume.find? ctx.volumes wanted).value = some place →
      ¬IsUsable ctx.volumes place) →
    ∀ stanza : Stanza, (stanza.feed ctx.volumes line).value = (.more, stanza)

/-- Entries only point at usable volumes, or at the one that the boot manager was started from. -/
theorem load_volumesLaw (source : Source) (ctx : Context) (primary : String) :
    VolumesLaw source ctx primary where
  entries := by
    intro entry member
    obtain ⟨header, body, among, makes⟩ := exists_block_of_mem_load member
    exact ⟨header, body, among, makes, volumeLaw_of_entryOfBlock? makes⟩
  unusable := by
    intro line wanted given unusable stanza
    match line with
    | keyword :: value :: rest =>
      rw [Stanza.valueOf?_cons (by decide)] at given
      split at given
      next word =>
        obtain rfl : value = wanted := Option.some.inj given
        exact Stanza.value_feed_of_unusable rest word (Stanza.usableVolume_eq_none unusable) stanza
      next => cases given

end BootManager.Config
