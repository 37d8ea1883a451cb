import BootManager.Config.Stanza

/-!
# What one line sets in a block

A line that a block reads for itself gives its value to one field, which its keyword names, and
leaves the others alone. What becomes of a field is told by one equation for all (`value_set`), and
by another one for the lines of a submenu (`Submenu.value_set`).
-/

namespace BootManager.Config.Stanza

open Text

variable {volumes : List Volume}

/-- What a field holds that has the name `word`, after a line with a keyword and maybe a value. -/
def assign {α : Type} (word keyword : String) (value old : Option α) : Option α :=
  if lower keyword = word then value.or old else old

/-- The kind of operating system that a value names is its first character, if it has one. -/
def assignType (keyword : String) (value : Option String) (old : Option Char) : Option Char :=
  if lower keyword = "ostype" then value.elim old (·.toList.head?) else old

theorem value_set (keyword : String) (value : Option String) (stanza : Stanza) :
    (stanza.set volumes keyword value).value =
      { stanza with
        entry := { stanza.entry with
          loader := assign "loader" keyword value stanza.entry.loader
          volume := assign "volume" keyword
            (value.bind fun named => (usableVolume volumes named).value) stanza.entry.volume
          initrd := assign "initrd" keyword value stanza.entry.initrd
          osType := assignType keyword value stanza.entry.osType
          icon := assign "icon" keyword value stanza.entry.icon
          useGraphics := assign "graphics" keyword (value.map (sameIgnoringCase · "on"))
            stanza.entry.useGraphics }
        options := assign "options" keyword value stanza.options
        bootnum := assign "firmware_bootnum" keyword value stanza.bootnum
        hasLoader :=
          if lower keyword = "loader" then stanza.hasLoader || value.any (· != "")
          else stanza.hasLoader
        enabled := if lower keyword = "disabled" then false else stanza.enabled } := by
  unfold set
  split
  case h_2 named word =>
    rw [Logged.value_bind]
    cases usable : (usableVolume volumes named).value <;> simp [assign, assignType, word, usable]
  case h_10 given _ _ _ _ _ _ _ _ _ _ _ =>
    -- Without a value no field is named, and with one the keyword is none of their names.
    cases given with
    | none => simp_all [assign, assignType]
    | some named => simp_all [assign, assignType]
  all_goals simp [assign, assignType, *]

/-- In a submenu, a line without a value takes the initrd or the options away, options can be added,
and a loader is looked for on the volume that was named last. -/
theorem Submenu.value_set (keyword : String) (value : Option String) (sub : Submenu) :
    (sub.set volumes keyword value).value =
      { sub with
        entry := { sub.entry with
          loader := assign "loader" keyword value sub.entry.loader
          volume :=
            if lower keyword = "loader" then value.elim sub.entry.volume fun _ => sub.currentVolume
            else assign "volume" keyword
              (value.bind fun named => (usableVolume volumes named).value) sub.entry.volume
          initrd := if lower keyword = "initrd" then value else sub.entry.initrd
          options :=
            if lower keyword = "options" then value
            else assign "add_options" keyword (value.map (merge sub.entry.options))
              sub.entry.options
          useGraphics := assign "graphics" keyword (value.map (sameIgnoringCase · "on"))
            sub.entry.useGraphics }
        currentVolume := assign "volume" keyword
          (value.bind fun named => (usableVolume volumes named).value) sub.currentVolume
        namesVolume :=
          if lower keyword = "volume" then
            sub.namesVolume || value.any fun named => (usableVolume volumes named).value.isSome
          else sub.namesVolume
        enabled := if lower keyword = "disabled" then false else sub.enabled } := by
  unfold Submenu.set
  split
  case h_2 named word =>
    rw [Logged.value_bind]
    cases usable : (usableVolume volumes named).value <;> simp [assign, word, usable]
  case h_8 given _ _ _ _ _ _ _ _ _ =>
    cases given with
    | none => simp_all [assign]
    | some named => simp_all [assign]
  all_goals simp [assign, *]

/-! ## What a line says -/

/-- The value that a line gives to a keyword. -/
def valueOf? (word : String) : Line → Option String
  | keyword :: value :: _ => if sameIgnoringCase keyword word then some value else none
  | _ => none

theorem valueOf?_cons {word : String} (small : lower word = word) (keyword : String)
    (values : List String) :
    valueOf? word (keyword :: values) = if lower keyword = word then values.head? else none := by
  match values with
  | [] => rw [List.head?_nil, ite_self]; rfl
  | value :: _ => simp only [valueOf?, sameIgnoringCase_iff, small, List.head?_cons]

/-- The usable volume that a line moves to. -/
def moves? (volumes : List Volume) (line : Line) : Option Nat :=
  (valueOf? "volume" line).bind fun wanted => (usableVolume volumes wanted).value

/-- A field is assigned what is made of the value that a line gives to its keyword. -/
theorem assign_bind {α : Type} {word : String} (small : lower word = word) (keyword : String)
    (values : List String) (made : String → Option α) (old : Option α) :
    assign word keyword (values.head?.bind made) old =
      ((valueOf? word (keyword :: values)).bind made).or old := by
  rw [assign, valueOf?_cons small]
  split
  · rfl
  · rfl

theorem assign_map {α : Type} {word : String} (small : lower word = word) (keyword : String)
    (values : List String) (made : String → α) (old : Option α) :
    assign word keyword (values.head?.map made) old =
      ((valueOf? word (keyword :: values)).map made).or old := by
  rw [Option.map_eq_bind, assign_bind small, Option.map_eq_bind]

theorem assign_head? {word : String} (small : lower word = word) (keyword : String)
    (values : List String) (old : Option String) :
    assign word keyword values.head? old = (valueOf? word (keyword :: values)).or old := by
  simpa using assign_map small keyword values id old

theorem assign_volume (keyword : String) (values : List String) (old : Option Nat) :
    assign "volume" keyword (values.head?.bind fun wanted => (usableVolume volumes wanted).value)
        old =
      (moves? volumes (keyword :: values)).or old :=
  assign_bind (by decide) keyword values _ old

end BootManager.Config.Stanza
