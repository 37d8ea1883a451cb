import BootManager.Proofs.Config.BlockTitle
import BootManager.Proofs.Config.Deletion
import BootManager.Proofs.Config.Spelling
import Mathlib.Data.List.Forall2

/-!
# The braces of headers

Headers are written with a brace at their end, but nobody who reads them looks for it. So a brace is
only punctuation behind a title; a header without a title has its brace for a title, and means
something else when the brace is taken away. The main result is `Unbracing.load_bare`.
-/

namespace BootManager.Config

open Text

/-! ## Headers -/

/-- A line, and the line without the brace at its end if it has one and its keyword is that of a
header. -/
inductive Line.Unbraced : Line → Line → Prop where
  | same (line : Line) : Unbraced line line
  | bare {keyword : String} (values : List String)
      (opens : sameIgnoringCase keyword "menuentry" = true ∨
        sameIgnoringCase keyword "submenuentry" = true) :
      Unbraced (keyword :: (values ++ ["\x7b"])) (keyword :: values)

namespace Place

/-- Whether a line is a header without a title: one of a block outside of blocks, or one of a
submenu in a block. -/
def isUntitled : Place → Line → Bool
  | outside, [keyword] => sameIgnoringCase keyword "menuentry"
  | block, [keyword] => sameIgnoringCase keyword "submenuentry"
  | _, _ => false

/-- The places of the headers that are left without a title when they lose their brace. -/
def losses : Place → List Line → List Line → List Place
  | place, line :: rest, line' :: rest' =>
    let later := losses (place.next line) rest rest'
    if line ≠ line' ∧ place.isUntitled line' = true then place :: later else later
  | _, _, _ => []

variable {place : Place} {line line' : Line} {rest rest' : List Line}

theorem mem_losses_cons (differ : line ≠ line') (untitled : place.isUntitled line' = true) :
    place ∈ place.losses (line :: rest) (line' :: rest') := by
  rw [losses, if_pos ⟨differ, untitled⟩]
  exact List.mem_cons_self

theorem losses_subset_cons (place : Place) (line line' : Line) (rest rest' : List Line) :
    (place.next line).losses rest rest' ⊆ place.losses (line :: rest) (line' :: rest') := by
  rw [losses]
  split
  · exact List.subset_cons_self place _
  · exact List.Subset.refl _

end Place

namespace Stanza

variable {volumes : List Volume} {keyword : String} (opens : lower keyword = "menuentry" ∨
  lower keyword = "submenuentry")

include opens

theorem Submenu.value_feed_of_opens (values : List String) (sub : Submenu) :
    (sub.feed volumes (keyword :: values)).value = sub := by
  rw [Submenu.feed]
  split
  · rcases opens with word | word <;> simp [Submenu.value_set, assign, word]
  · rfl

/-- In a block, a line with the keyword of a header opens a submenu or does nothing. -/
theorem value_feed_of_opens (values : List String) (stanza : Stanza) :
    (stanza.feed volumes (keyword :: values)).value =
      (.more, if stanza.submenu.isSome then stanza
        else (submenuTitle? (keyword :: values)).elim stanza stanza.openSubmenu) := by
  have plain : (keyword :: values).head? ≠ some "\x7d" := by
    rintro ⟨⟩
    exact absurd opens (by decide)
  have inSubmenu (sub : Submenu) : (sub.feed volumes (keyword :: values)).value = sub :=
    Submenu.value_feed_of_opens opens values sub
  have inBlock : stanza.take volumes (keyword :: values) = stanza := by
    rw [take]
    split
    · rcases opens with word | word <;> simp [value_set, assign, assignType, word]
    · rfl
  cases reading : stanza.submenu with
  | some sub =>
    have never : stanza.submenu = none → submenuTitle? (keyword :: values) = none := by
      simp [reading]
    exact value_feed_of_idle plain never inSubmenu inBlock
  | none =>
    cases opened : submenuTitle? (keyword :: values) with
    | none => exact value_feed_of_idle plain (fun _ => opened) inSubmenu inBlock
    | some title => exact value_feed_of_title reading opened

end Stanza

/-! ## Lines of blocks -/

section

variable {volumes : List Volume} {line line' : Line} {lines lines' : List Line}

theorem Line.Unbraced.isHeader_eq (unbraced : line.Unbraced line') :
    Item.isHeader line' = Item.isHeader line := by
  cases unbraced <;> rfl

theorem Line.Unbraced.isInclude_eq (unbraced : line.Unbraced line') :
    Item.isInclude line' = Item.isInclude line := by
  cases unbraced <;> rfl

/-- A header keeps its title, or its brace was all that it had for a title. -/
theorem Line.Unbraced.title_cases {header header' : Line} (unbraced : header.Unbraced header') :
    header'[1]? = header[1]? ∨
      ∃ keyword, header = [keyword, "\x7b"] ∧ header' = [keyword] := by
  cases unbraced with
  | same => exact .inl rfl
  | @bare keyword values =>
    match values with
    | _ :: _ => exact .inl rfl
    | [] => exact .inr ⟨keyword, rfl, rfl⟩

/-- In a block, the brace of a line does nothing unless the line has no title without it. -/
theorem value_feed_of_unbraced (unbraced : line.Unbraced line') (stanza : Stanza)
    (titled : line ≠ line' →
      ¬(Place.within stanza.submenu.isSome).isUntitled line' = true) :
    (stanza.feed volumes line').value = (stanza.feed volumes line).value := by
  cases unbraced with
  | same => rfl
  | @bare keyword values opens =>
    have word : lower keyword = "menuentry" ∨ lower keyword = "submenuentry" :=
      opens.imp sameIgnoringCase_iff.mp sameIgnoringCase_iff.mp
    rw [Stanza.value_feed_of_opens word, Stanza.value_feed_of_opens word]
    cases reading : stanza.submenu.isSome with
    | true => rfl
    | false =>
      match values with
      | _ :: _ => rfl
      | [] =>
        have titled : ¬sameIgnoringCase keyword "submenuentry" = true := by
          rw [reading] at titled
          exact titled (by simp)
        simp [Stanza.submenuTitle?, titled]

/-- As far as no submenu loses its title, the braces of headers do nothing in a block, nor to where
it ends. -/
theorem value_readBlock_of_unbraced (unbraced : List.Forall₂ Line.Unbraced lines lines')
    (volumes : List Volume) (stanza : Stanza)
    (titled : ∀ place ∈ (Place.within stanza.submenu.isSome).losses lines lines',
      place = .outside) :
    (Place.readBlock volumes lines' stanza).value.1 =
        (Place.readBlock volumes lines stanza).value.1 ∧
      List.Forall₂ Line.Unbraced (Place.readBlock volumes lines stanza).value.2
        (Place.readBlock volumes lines' stanza).value.2 ∧
      Place.outside.losses (Place.readBlock volumes lines stanza).value.2
          (Place.readBlock volumes lines' stanza).value.2 ⊆
        (Place.within stanza.submenu.isSome).losses lines lines' := by
  -- Both readings leave the same block after every line, so they stand in the same place.
  induction unbraced generalizing stanza with
  | nil => exact ⟨rfl, .nil, List.Subset.refl _⟩
  | @cons line line' rest rest' first later ih =>
    have same : (stanza.feed volumes line').value = (stanza.feed volumes line).value :=
      value_feed_of_unbraced first stanza fun differ untitled =>
        Place.within_ne_outside _ (titled _ (Place.mem_losses_cons differ untitled))
    have next := Place.next_within volumes line stanza
    have fewer := Place.losses_subset_cons (.within stanza.submenu.isSome) line line' rest rest'
    rw [Place.readBlock, Place.readBlock, Logged.value_bind, Logged.value_bind, same]
    generalize (stanza.feed volumes line).value = fed at next ⊢
    obtain ⟨answer, read⟩ := fed
    cases answer with
    | finished =>
      rw [next] at fewer
      exact ⟨rfl, later, fewer⟩
    | more =>
      rw [next] at fewer
      obtain ⟨body, after, ofRest⟩ := ih read fun place lost => titled place (fewer lost)
      exact ⟨body, after, List.Subset.trans ofRest fewer⟩

theorem cutBlock_of_unbraced (unbraced : List.Forall₂ Line.Unbraced lines lines')
    (titled : ∀ place ∈ Place.block.losses lines lines', place = .outside) (volumes : List Volume)
    {stanza : Stanza} (outside : stanza.submenu = none) :
    (stanza.feedAll volumes (Item.cutBlock false lines').1).value =
        (stanza.feedAll volumes (Item.cutBlock false lines).1).value ∧
      List.Forall₂ Line.Unbraced (Item.cutBlock false lines).2 (Item.cutBlock false lines').2 ∧
      Place.outside.losses (Item.cutBlock false lines).2 (Item.cutBlock false lines').2 ⊆
        Place.block.losses lines lines' := by
  have closed : stanza.submenu.isSome = false := by rw [outside, Option.isSome_none]
  have read := value_readBlock_of_unbraced unbraced volumes stanza
  rw [closed, Place.value_readBlock, Place.value_readBlock, closed] at read
  exact read titled

end

/-! ## Parts of files -/

namespace Item

/-- Two parts that mean the same, but for the title of a block if `mayLose` holds. -/
inductive Alike (volumes : List Volume) (mayLose : Prop) : Item → Item → Prop where
  | directive {line line' : Line} (same : line' = line ∨
      Directive.carriedOut? line = none ∧ Directive.carriedOut? line' = none) :
      Alike volumes mayLose (.directive line) (.directive line')
  | include (line : Line) : Alike volumes mayLose (.include line) (.include line)
  | block {header header' : Line} {body body' : List Line} (unbraced : header.Unbraced header')
      (titled : header'[1]? = header[1]? ∨ mayLose)
      (read : ∀ stanza : Stanza, stanza.submenu = none →
        (stanza.feedAll volumes body').value = (stanza.feedAll volumes body).value) :
      Alike volumes mayLose (.block header body) (.block header' body')

variable {volumes : List Volume} {mayLose : Prop} {line line' : Line}

theorem eq_of_unbraced_of_isInclude (unbraced : line.Unbraced line')
    (names : isInclude line = true) : line' = line := by
  cases unbraced with
  | same => rfl
  | @bare keyword values opens =>
    have word : lower keyword = lower "include" := sameIgnoringCase_iff.mp names
    rw [sameIgnoringCase_iff, sameIgnoringCase_iff, word] at opens
    exact absurd opens (by decide)

theorem title_of_unbraced {header header' : Line} (unbraced : header.Unbraced header')
    (opens : isHeader header = true) :
    header'[1]? = header[1]? ∨
      header ≠ header' ∧ Place.outside.isUntitled header' = true := by
  refine unbraced.title_cases.imp_right ?_
  rintro ⟨keyword, rfl, rfl⟩
  exact ⟨by simp, opens⟩

theorem directive_of_unbraced (unbraced : line.Unbraced line') (plain : isHeader line = false) :
    line' = line ∨ Directive.carriedOut? line = none ∧ Directive.carriedOut? line' = none := by
  cases unbraced with
  | same => exact .inl rfl
  | @bare keyword values opens =>
    have opens : sameIgnoringCase keyword "submenuentry" = true :=
      opens.resolve_left (Bool.eq_false_iff.mp plain)
    have unknown : Directive.lookup keyword = none := by
      rw [Directive.lookup_congr opens]
      decide +kernel
    exact .inr ⟨by simp [Directive.carriedOut?, unknown], by simp [Directive.carriedOut?, unknown]⟩

theorem alike_ofLines {lines lines' : List Line}
    (unbraced : List.Forall₂ Line.Unbraced lines lines')
    (titled : ∀ place ∈ Place.outside.losses lines lines', place = .outside ∧ mayLose) :
    List.Forall₂ (Alike volumes mayLose) (ofLines lines) (ofLines lines') := by
  fun_induction ofLines lines generalizing lines' with
  | case1 =>
    cases unbraced
    rw [ofLines]
    exact .nil
  | case2 line rest names ih =>
    cases unbraced with
    | @cons _ line' _ rest' first later =>
      have fewer := Place.losses_subset_cons .outside line line' rest rest'
      rw [Place.next_outside_of_isInclude names] at fewer
      obtain rfl := eq_of_unbraced_of_isInclude first names
      rw [ofLines_cons_include names]
      exact .cons (.include line') (ih later fun place lost => titled place (fewer lost))
  | case3 header rest other opens ih =>
    cases unbraced with
    | @cons _ header' _ rest' first later =>
      have fewer := Place.losses_subset_cons .outside header header' rest rest'
      rw [Place.next, if_pos opens] at fewer
      have cut (stanza : Stanza) (outside : stanza.submenu = none) :=
        cutBlock_of_unbraced later (fun place lost => (titled place (fewer lost)).1) volumes outside
      obtain ⟨-, after, ofRest⟩ := cut (.start none none) rfl
      have kept : header'[1]? = header[1]? ∨ mayLose :=
        (title_of_unbraced first opens).imp_right fun lost =>
          (titled .outside (Place.mem_losses_cons lost.1 lost.2)).2
      rw [ofLines, if_neg (first.isInclude_eq ▸ other), if_pos (first.isHeader_eq ▸ opens)]
      exact .cons (.block first kept fun stanza outside => (cut stanza outside).1)
        (ih after fun place lost => titled place (fewer (ofRest lost)))
  | case4 line rest other plain ih =>
    cases unbraced with
    | @cons _ line' _ rest' first later =>
      have fewer := Place.losses_subset_cons .outside line line' rest rest'
      rw [Place.next, if_neg plain] at fewer
      rw [ofLines, if_neg (first.isInclude_eq ▸ other), if_neg (first.isHeader_eq ▸ plain)]
      exact .cons (.directive (directive_of_unbraced first (Bool.eq_false_iff.mpr plain)))
        (ih later fun place lost => titled place (fewer lost))

/-- Two parts are blocks with different titles. -/
def LosesTitle : Item → Item → Prop
  | .block header _, .block header' _ => header'[1]? ≠ header[1]?
  | _, _ => False

end Item

/-- The second entry is the first, or it is the entry of a block that has no title any more. -/
inductive MenuEntry.Retitled : MenuEntry → MenuEntry → Prop where
  | same (entry : MenuEntry) : Retitled entry entry
  | untitled (entry : MenuEntry) (suffix : String) :
      Retitled { entry with title := "Boot \x7b" ++ suffix }
        { entry with title := "Boot Unknown" ++ suffix }

namespace Item.Alike

variable {ctx : Context} {mayLose : Prop} {item item' : Item}

theorem namesFile_eq (alike : Alike ctx.volumes mayLose item item') :
    item'.namesFile = item.namesFile := by
  cases alike <;> rfl

theorem path?_eq (alike : Alike ctx.volumes mayLose item item') (primary : String) :
    item'.path? ctx primary = item.path? ctx primary := by
  cases alike <;> rfl

/-- The entries are the same, but for the title of a block that makes one. -/
theorem entries_spec (alike : Alike ctx.volumes mayLose item item') :
    List.Forall₂ MenuEntry.Retitled (item.entries ctx) (item'.entries ctx) ∧
      (item'.entries ctx = item.entries ctx ↔ (item.LosesTitle item' → item.entries ctx = [])) := by
  cases alike with
  | directive => exact ⟨.nil, by simp [entries]⟩
  | «include» => exact ⟨.nil, by simp [entries]⟩
  | @block header header' body body' unbraced titled read =>
    have sameBody : entryOfBlock? ctx header' body' = entryOfBlock? ctx header' body := by
      rw [entryOfBlock?, entryOfBlock?, read _ rfl]
    rw [entries, entries, sameBody, entryOfBlock?_eq_map ctx header,
      entryOfBlock?_eq_map ctx header', LosesTitle]
    obtain same | ⟨keyword, rfl, rfl⟩ := unbraced.title_cases
    · rw [same]
      exact ⟨List.forall₂_same.mpr fun entry _ => .same entry, by simp⟩
    · cases entryOfBlock? ctx [] body with
      | none => exact ⟨.nil, by simp⟩
      | some entry =>
        have differ : "Boot " ++ Stanza.unknownTitle ≠ "Boot \x7b" := by decide
        exact ⟨.cons (.untitled entry (entry.suffix ctx.volumes)) .nil, by simp [differ]⟩

end Item.Alike

/-! ## Many parts -/

section

variable {ctx : Context} {mayLose : Prop} {items items' : List Item}

theorem value_applyAll_of_alike (alike : List.Forall₂ (Item.Alike ctx.volumes mayLose) items items')
    (s : Settings) :
    (s.applyAll ctx (items'.flatMap (Item.settingLines fun _ => []))).value =
      (s.applyAll ctx (items.flatMap (Item.settingLines fun _ => []))).value := by
  induction alike generalizing s with
  | nil => rfl
  | @cons item item' rest rest' first later ih =>
    have one : (s.applyAll ctx (item'.settingLines fun _ => [])).value =
        (s.applyAll ctx (item.settingLines fun _ => [])).value := by
      cases first with
      | directive same =>
        rcases same with rfl | ⟨nothing, nothing'⟩
        · rfl
        · rw [Settings.applyAll_of_inert (by simpa [Item.settingLines] using nothing'),
            Settings.applyAll_of_inert (by simpa [Item.settingLines] using nothing)]
      | «include» => rfl
      | block => rfl
    rw [List.flatMap_cons, List.flatMap_cons, Settings.value_applyAll_append,
      Settings.value_applyAll_append, one, ih]

/-- Lists that are put together of parts of the same length are the same if all their parts are. -/
theorem flatMap_eq_flatMap_iff {α β : Type} {f g : α → List β} {xs ys : List α}
    (lengths : List.Forall₂ (fun x y => (f x).length = (g y).length) xs ys) :
    ys.flatMap g = xs.flatMap f ↔ List.Forall₂ (fun x y => g y = f x) xs ys := by
  induction lengths with
  | nil => simp
  | @cons x y xs ys first later ih =>
    rw [List.flatMap_cons, List.flatMap_cons, List.forall₂_cons, ← ih]
    constructor
    · exact fun same => List.append_inj same first.symm
    · rintro ⟨same, rest⟩
      rw [same, rest]

theorem retitled_entries (alike : List.Forall₂ (Item.Alike ctx.volumes mayLose) items items') :
    List.Forall₂ MenuEntry.Retitled (items.flatMap (Item.entries ctx))
      (items'.flatMap (Item.entries ctx)) :=
  List.rel_flatMap alike fun _ _ alike => alike.entries_spec.1

theorem entries_eq_iff (alike : List.Forall₂ (Item.Alike ctx.volumes mayLose) items items') :
    items'.flatMap (Item.entries ctx) = items.flatMap (Item.entries ctx) ↔
      List.Forall₂ (fun item item' => item.LosesTitle item' → item.entries ctx = [])
        items items' := by
  rw [flatMap_eq_flatMap_iff (alike.imp fun _ _ alike => alike.entries_spec.1.length_eq)]
  constructor
  · exact alike.mp fun _ _ alike => alike.entries_spec.2.mp
  · exact alike.mp fun _ _ alike => alike.entries_spec.2.mpr

end

/-! ## Configurations -/

/-- A configuration from which braces of headers are taken away. -/
structure Unbracing where
  ctx : Context
  /-- The name of the primary file. -/
  primary : String
  source : Source
  /-- The source without the braces. -/
  bare : Source
  unbraced : ∀ path, List.Forall₂ Line.Unbraced (source.lines path) (bare.lines path)
  holds : ∀ path, (bare.holds path).value = (source.holds path).value

theorem Source.DifferIn.forall₂_unbraced {leads : String → Prop} {old new : List Line}
    {source other : Source} (differ : source.DifferIn leads old new other)
    (unbraced : List.Forall₂ Line.Unbraced old new) (path : String) :
    List.Forall₂ Line.Unbraced (source.lines path) (other.lines path) := by
  by_cases led : leads path
  · rwa [differ.lines_old path led, differ.lines_new path led]
  · rw [differ.lines_others path led]
    exact List.forall₂_same.mpr fun line _ => .same line

namespace Unbracing

variable (u : Unbracing)

/-- The places of the headers that lose their title, in all files that are read. -/
def losses : List Place :=
  (u.source.pathsRead u.ctx u.primary).flatMap fun path =>
    Place.outside.losses (u.source.lines path) (u.bare.lines path)

/-- What is read with the braces. -/
def loaded : Loaded :=
  (load u.source u.ctx u.primary).value

/-- What is read without them. -/
def loadedBare : Loaded :=
  (load u.bare u.ctx u.primary).value

variable {u} {mayLose : Prop} (titled : ∀ place ∈ u.losses, place = .outside ∧ mayLose)

include titled

theorem alike_items {path : String} (read : path ∈ u.source.pathsRead u.ctx u.primary) :
    List.Forall₂ (Item.Alike u.ctx.volumes mayLose) (u.source.items path) (u.bare.items path) :=
  Item.alike_ofLines (u.unbraced path) fun place lost =>
    titled place (List.mem_flatMap.mpr ⟨path, read, lost⟩)

theorem alike_ownItems {path : String} (read : path ∈ u.source.pathsRead u.ctx u.primary) :
    List.Forall₂ (Item.Alike u.ctx.volumes mayLose) (u.source.ownItems path)
      (u.bare.ownItems path) :=
  List.rel_filter (fun _ _ alike => by simp [alike.namesFile_eq]) (alike_items titled read)

theorem alike_expand {item item' : Item} (alike : item.Alike u.ctx.volumes mayLose item')
    (member : item ∈ u.source.items (u.ctx.resolve u.primary)) :
    List.Forall₂ (Item.Alike u.ctx.volumes mayLose) (u.source.expand u.ctx u.primary item)
      (u.bare.expand u.ctx u.primary item') := by
  rw [Source.expand, Source.expand, alike.namesFile_eq, alike.path?_eq]
  split
  next =>
    cases leads : item.path? u.ctx u.primary with
    | none => exact .nil
    | some path =>
      have read : path ∈ u.source.pathsRead u.ctx u.primary :=
        List.mem_cons_of_mem _ (List.mem_filterMap.mpr ⟨item, member, leads⟩)
      exact alike_ownItems titled read
  next => exact .cons alike .nil

theorem alike_allItems :
    List.Forall₂ (Item.Alike u.ctx.volumes mayLose) (u.source.allItems u.ctx u.primary)
      (u.bare.allItems u.ctx u.primary) := by
  have primary := alike_items titled List.mem_cons_self
  have both := (List.forall₂_and_left _ _).mpr ⟨fun _ member => member, primary⟩
  exact List.rel_flatMap both fun _ _ ⟨member, alike⟩ => alike_expand titled alike member

theorem settings_eq : u.loadedBare.settings = u.loaded.settings := by
  have read : u.bare.settingsRead u.ctx u.primary = u.source.settingsRead u.ctx u.primary :=
    value_applyAll_of_alike (alike_allItems titled) _
  rw [loadedBare, loaded, value_load, value_load, read, value_hasIcons_congr u.holds]

theorem retitled : List.Forall₂ MenuEntry.Retitled u.loaded.entries u.loadedBare.entries := by
  rw [loadedBare, loaded, value_load, value_load]
  exact retitled_entries (alike_allItems titled)

/-- The configuration is the same exactly if no block that loses its title makes an entry. -/
theorem unchanged_iff : u.loadedBare = u.loaded ↔
    List.Forall₂ (fun item item' => item.LosesTitle item' → item.entries u.ctx = [])
      (u.source.allItems u.ctx u.primary) (u.bare.allItems u.ctx u.primary) := by
  have settings := settings_eq titled
  rw [← entries_eq_iff (alike_allItems titled)]
  rw [loadedBare, loaded, value_load, value_load] at settings ⊢
  rw [Loaded.mk.injEq]
  exact and_iff_right settings

omit titled

/-- What the braces of headers are to a configuration. -/
structure Law (u : Unbracing) : Prop where
  /-- They are only punctuation where every header keeps a title. -/
  unchanged : u.losses = [] → u.loadedBare = u.loaded
  /-- Where every submenu does, a block that loses its title was called after its brace before, and
  is called unknown without it. -/
  retitled : (∀ place ∈ u.losses, place = .outside) →
    u.loadedBare.settings = u.loaded.settings ∧
      List.Forall₂ MenuEntry.Retitled u.loaded.entries u.loadedBare.entries
  /-- So the configuration is the same exactly if no such block makes an entry. -/
  unchanged_iff : (∀ place ∈ u.losses, place = .outside) →
    (u.loadedBare = u.loaded ↔
      List.Forall₂ (fun item item' => item.LosesTitle item' → item.entries u.ctx = [])
        (u.source.allItems u.ctx u.primary) (u.bare.allItems u.ctx u.primary))
  /-- The header of a submenu that loses its title was one with its brace for a title before, and
  without it the lines that follow are read as if there was no such line. -/
  submenu : ∀ keyword, sameIgnoringCase keyword "submenuentry" = true →
    ∀ (rest : List Line) (stanza : Stanza), stanza.submenu = none →
      (Place.readBlock u.ctx.volumes ([keyword, "\x7b"] :: rest) stanza).value =
          (Place.readBlock u.ctx.volumes rest (stanza.openSubmenu "\x7b")).value ∧
        (Place.readBlock u.ctx.volumes ([keyword] :: rest) stanza).value =
          (Place.readBlock u.ctx.volumes rest stanza).value

/-- Braces are only punctuation, unless a header has nothing else for a title. -/
theorem load_bare (u : Unbracing) : u.Law where
  unchanged := by
    intro kept
    have titled : ∀ place ∈ u.losses, place = .outside ∧ False := by
      rw [kept]
      exact nofun
    refine (unchanged_iff titled).mpr ((alike_allItems titled).imp fun item item' alike lost => ?_)
    cases alike with
    | directive => exact lost.elim
    | «include» => exact lost.elim
    | block unbraced same => exact absurd (same.resolve_right not_false) lost
  retitled titled :=
    have titled (place : Place) (lost : place ∈ u.losses) := And.intro (titled place lost) trivial
    ⟨settings_eq titled, Unbracing.retitled titled⟩
  unchanged_iff titled :=
    Unbracing.unchanged_iff fun place lost => ⟨titled place lost, trivial⟩
  submenu := by
    intro keyword opens rest stanza outside
    have word : lower keyword = "menuentry" ∨ lower keyword = "submenuentry" :=
      .inr (sameIgnoringCase_iff.mp opens)
    constructor
    · rw [Place.readBlock, Logged.value_bind, Stanza.value_feed_of_opens word]
      simp [outside, Stanza.submenuTitle?, opens]
    · rw [Place.readBlock, Logged.value_bind, Stanza.value_feed_of_opens word]
      simp [outside, Stanza.submenuTitle?]

/-- A file in memory from which braces are taken away. -/
def inOneFile (text bare : String) (lines lines' : List Line)
    (reads : (TextFile.ofBytes (Buffer.ascii text)).wordLines = lines)
    (readsBare : (TextFile.ofBytes (Buffer.ascii bare)).wordLines = lines')
    (unbraced : List.Forall₂ Line.Unbraced lines lines') : Unbracing where
  ctx := ListSetting.nowhere
  primary := "refind.conf"
  source := (MemoryFiles.empty.insert "refind.conf" (Buffer.ascii text)).source
  bare := (MemoryFiles.empty.insert "refind.conf" (Buffer.ascii bare)).source
  unbraced := (MemoryFiles.empty.differIn_insert "refind.conf" reads readsBare).forall₂_unbraced
    unbraced
  holds := (MemoryFiles.empty.differIn_insert "refind.conf" reads readsBare).holds

/-- A block with a submenu, both with a title, and a submenu's header that stands outside. -/
def titledHeaders : Unbracing :=
  inOneFile "menuentry A \x7b\nSubMenuEntry B \x7b\n\x7d\n\x7d\nsubmenuentry \x7b\n"
    "menuentry A\nSubMenuEntry B\n\x7d\n\x7d\nsubmenuentry\n"
    [["menuentry", "A", "\x7b"], ["SubMenuEntry", "B", "\x7b"], ["\x7d"], ["\x7d"],
      ["submenuentry", "\x7b"]]
    [["menuentry", "A"], ["SubMenuEntry", "B"], ["\x7d"], ["\x7d"], ["submenuentry"]]
    (by decide +kernel) (by decide +kernel)
    (.cons (.bare ["A"] (by decide)) (.cons (.bare ["B"] (by decide)) (.cons (.same _)
      (.cons (.same _) (.cons (.bare [] (by decide)) .nil)))))

theorem titledHeaders_load_bare :
    titledHeaders.losses = [] ∧ titledHeaders.loadedBare = titledHeaders.loaded ∧
      titledHeaders.loaded.entries.map (fun entry => (entry.title, entry.submenus.map (·.title))) =
        [("Boot A", ["B"])] := by
  have kept : titledHeaders.losses = [] := by decide +kernel
  exact ⟨kept, titledHeaders.load_bare.unchanged kept, by decide +kernel⟩

/-- A block without a title. -/
def untitledHeader : Unbracing :=
  inOneFile "menuentry \x7b\n\x7d\n" "menuentry\n\x7d\n"
    [["menuentry", "\x7b"], ["\x7d"]] [["menuentry"], ["\x7d"]]
    (by decide +kernel) (by decide +kernel)
    (.cons (.bare [] (by decide)) (.cons (.same _) .nil))

/-- It is called after its brace, and unknown without it. -/
theorem untitledHeader_changed :
    untitledHeader.loaded.entries.map (·.title) = ["Boot \x7b"] ∧
      untitledHeader.loadedBare.entries.map (·.title) = ["Boot Unknown"] ∧
      ¬∀ u : Unbracing, u.loadedBare = u.loaded := by
  have titles : untitledHeader.loaded.entries.map (·.title) = ["Boot \x7b"] ∧
      untitledHeader.loadedBare.entries.map (·.title) = ["Boot Unknown"] := by
    decide +kernel
  refine ⟨titles.1, titles.2, fun unchanged => ?_⟩
  rw [unchanged, titles.1] at titles
  exact absurd titles.2 (by decide)

end Unbracing

end BootManager.Config
