import BootManager.Proofs.Config.BlockLine

/-!
# What the lines of a submenu say

A submenu that no line disables holds what its lines say last, and where they say nothing what it
began with. One equation tells what a line does (`Submenu.value_feed`), and `Submenu.has_feedAll`
what is held after many.
-/

namespace BootManager.Config.Stanza

open Text

variable {volumes : List Volume}

/-! ## What a line says -/

/-- Whether a line disables the block or the submenu that it stands in. -/
def disables (line : Line) : Bool :=
  line.head?.any fun keyword => sameIgnoringCase keyword "disabled"

/-- What a line gives to a keyword: its value, or nothing where it has none. -/
def givenTo? (word : String) : Line → Option (Option String)
  | keyword :: values => if sameIgnoringCase keyword word then some values.head? else none
  | [] => none

/-- The options after a line, which may set them, take them away, or add to them. -/
def optionsAfter (options : Option String) (line : Line) : Option String :=
  match givenTo? "options" line with
  | some given => given
  | none => ((valueOf? "add_options" line).map (merge options)).or options

theorem givenTo?_cons {word : String} (small : lower word = word) (keyword : String)
    (values : List String) :
    givenTo? word (keyword :: values) =
      if lower keyword = word then some values.head? else none := by
  simp only [givenTo?, sameIgnoringCase_iff, small]

theorem disables_cons (keyword : String) (values : List String) :
    disables (keyword :: values) = decide (lower keyword = "disabled") := by
  have small : lower "disabled" = "disabled" := by decide
  rw [Bool.eq_iff_iff, decide_eq_true_iff]
  simp [disables, sameIgnoringCase_iff, small]

theorem optionsAfter_cons (options : Option String) (keyword : String) (values : List String) :
    optionsAfter options (keyword :: values) =
      if lower keyword = "options" then values.head?
      else assign "add_options" keyword (values.head?.map (merge options)) options := by
  rw [optionsAfter, givenTo?_cons (by decide), assign_map (by decide)]
  by_cases named : lower keyword = "options"
  · rw [if_pos named, if_pos named]
  · rw [if_neg named, if_neg named]

/-! ## What lines say -/

/-- The last thing that lines say, if one of them says anything. -/
def lastOf? {α : Type} (view : Line → Option α) (lines : List Line) : Option α :=
  (lines.filterMap view).getLast?

theorem lastOf?_cons {α : Type} (view : Line → Option α) (line : Line) (rest : List Line) :
    lastOf? view (line :: rest) = (lastOf? view rest).or (view line) := by
  rw [lastOf?, List.filterMap_cons, lastOf?]
  cases view line with
  | none => rw [Option.or_none]
  | some value =>
    rw [List.getLast?_cons]
    cases (rest.filterMap view).getLast? <;> rfl

/-! ## Submenus -/

namespace Submenu

/-- What a line does to a submenu that is enabled. -/
theorem value_feed {sub : Submenu} (on : sub.enabled = true) (line : Line) :
    (sub.feed volumes line).value =
      { entry :=
          { title := sub.entry.title
            loader := (valueOf? "loader" line).or sub.entry.loader
            volume := (moves? volumes line).or
              ((valueOf? "loader" line).elim sub.entry.volume fun _ => sub.currentVolume)
            initrd := (givenTo? "initrd" line).getD sub.entry.initrd
            options := optionsAfter sub.entry.options line
            useGraphics := ((valueOf? "graphics" line).map (sameIgnoringCase · "on")).or
              sub.entry.useGraphics }
        currentVolume := (moves? volumes line).or sub.currentVolume
        namesVolume := sub.namesVolume || (moves? volumes line).isSome
        enabled := !disables line } := by
  cases line with
  | nil => simp [feed, ← on, disables, valueOf?, givenTo?, moves?, optionsAfter]
  | cons keyword values =>
    have small : lower "volume" = "volume" := by decide
    rw [feed, if_pos on, value_set, optionsAfter_cons, disables_cons, givenTo?_cons (by decide),
      assign_head? (by decide), assign_map (by decide), assign_map (by decide), assign_volume,
      assign_volume, mk.injEq, SubEntry.mk.injEq]
    refine ⟨⟨rfl, rfl, ?_, ?_, rfl, rfl⟩, rfl, ?_, ?_⟩
    · rw [valueOf?_cons (by decide)]
      by_cases loader : lower keyword = "loader"
      · have other : moves? volumes (keyword :: values) = none := by
          simp [moves?, valueOf?_cons small, loader]
        rw [if_pos loader, if_pos loader, other, Option.none_or]
      · rw [if_neg loader, if_neg loader, Option.elim_none]
    · split <;> rfl
    · rw [moves?, valueOf?_cons small]
      by_cases volume : lower keyword = "volume"
      · rw [if_pos volume, if_pos volume]
        cases values <;> simp
      · rw [if_neg volume, if_neg volume]
        simp
    · split <;> simp [*]

/-- What a submenu holds after lines that do not disable it. -/
structure Has (volumes : List Volume) (lines : List Line) (sub read : Submenu) : Prop where
  title_eq : read.entry.title = sub.entry.title
  loader_eq : read.entry.loader = (lastOf? (valueOf? "loader") lines).or sub.entry.loader
  volume_eq : read.entry.volume = read.currentVolume
  currentVolume_eq : read.currentVolume = (lastOf? (moves? volumes) lines).or sub.currentVolume
  namesVolume_eq : read.namesVolume = (sub.namesVolume || (lastOf? (moves? volumes) lines).isSome)
  initrd_eq : read.entry.initrd = (lastOf? (givenTo? "initrd") lines).getD sub.entry.initrd
  options_eq : read.entry.options = lines.foldl optionsAfter sub.entry.options
  useGraphics_eq : read.entry.useGraphics =
    ((lastOf? (valueOf? "graphics") lines).map (sameIgnoringCase · "on")).or sub.entry.useGraphics

theorem has_feedAll {lines : List Line} {sub : Submenu} (on : sub.enabled = true)
    (kept : ∀ line ∈ lines, disables line = false)
    (atVolume : sub.entry.volume = sub.currentVolume) :
    Has volumes lines sub (lines.foldl (fun sub line => (sub.feed volumes line).value) sub) := by
  induction lines generalizing sub with
  | nil => exact ⟨rfl, rfl, atVolume, rfl, (Bool.or_false _).symm, rfl, rfl, rfl⟩
  | cons line rest ih =>
    obtain ⟨goesOn, later⟩ := List.forall_mem_cons.mp kept
    have step : (sub.feed volumes line).value = _ := value_feed on line
    rw [List.foldl_cons]
    generalize (sub.feed volumes line).value = next at step
    have still : next.enabled = true := by
      rw [step, goesOn]
      rfl
    have beside : next.entry.volume = next.currentVolume := by
      rw [step, atVolume]
      cases valueOf? "loader" line <;> rfl
    have has := ih still later beside
    subst step
    refine ⟨has.title_eq, ?_, has.volume_eq, ?_, ?_, ?_, has.options_eq, ?_⟩
    · rw [has.loader_eq, lastOf?_cons, Option.or_assoc]
    · rw [has.currentVolume_eq, lastOf?_cons, Option.or_assoc]
    · rw [has.namesVolume_eq, lastOf?_cons, Option.isSome_or, Bool.or_assoc,
        Bool.or_comm (Option.isSome _)]
    · rw [has.initrd_eq, lastOf?_cons]
      cases lastOf? (givenTo? "initrd") rest <;> rfl
    · rw [has.useGraphics_eq, lastOf?_cons, Option.map_or, Option.or_assoc]

theorem enabled_set (keyword : String) (value : Option String) (sub : Submenu) :
    (sub.set volumes keyword value).value.enabled =
      (sub.enabled && !sameIgnoringCase keyword "disabled") := by
  have word : sameIgnoringCase keyword "disabled" = (lower keyword == "disabled") := rfl
  rw [value_set, word]
  by_cases disables : lower keyword = "disabled" <;> simp [disables]

theorem enabled_feed (line : Line) (sub : Submenu) :
    (sub.feed volumes line).value.enabled = (sub.enabled && !disables line) := by
  cases line with
  | nil => simp [feed, disables]
  | cons keyword values =>
    by_cases enabled : sub.enabled = true
    · simp [feed, enabled, enabled_set, disables]
    · simp [feed, enabled]

theorem isSome_commit (sub : Submenu) : (sub.commit volumes).value.isSome = sub.enabled := by
  unfold commit
  cases sub.enabled <;> rfl

theorem value_commit {sub : Submenu} (on : sub.enabled = true) : (sub.commit volumes).value =
    some { sub.entry with
      title :=
        match (if sub.namesVolume then sub.currentVolume.bind fun place => volumes[place]?
          else none) with
        | some volume => "Boot " ++ sub.entry.title ++ " from " ++ volume.name
        | none => sub.entry.title
      options :=
        match sub.entry.initrd with
        | some initrd => some (merge sub.entry.options ("initrd=" ++ initrd))
        | none => sub.entry.options } := by
  rw [commit, if_pos on]
  dsimp only
  cases (if sub.namesVolume then sub.currentVolume.bind fun place => volumes[place]? else none) with
  | none => rfl
  | some volume => rfl

end Submenu

end BootManager.Config.Stanza
