import BootManager.Proofs.Config.Apply
import BootManager.Proofs.Config.Parts
import BootManager.Proofs.Config.Submenu

/-!
# Lines that are deleted

Deleting a whole block from a file takes away the entry of that block, wherever the file is read,
and nothing else. Deleting any other line outside of blocks leaves the entries, and a line that does
nothing can be deleted altogether. The main result is `Deletion.load_shorter`.
-/

namespace BootManager.Config

/-! ## Lists that are left out -/

/-- The second list is the first one with `xs` left out at a number of places. -/
inductive LeftOut {α : Type} (xs : List α) : Nat → List α → List α → Prop where
  | nil : LeftOut xs 0 [] []
  | keep {count : Nat} {whole rest : List α} (a : α) (out : LeftOut xs count whole rest) :
      LeftOut xs count (a :: whole) (a :: rest)
  | drop {count : Nat} {whole rest : List α} (out : LeftOut xs count whole rest) :
      LeftOut xs (count + 1) (xs ++ whole) rest

namespace LeftOut

variable {α β : Type} {xs : List α} {count : Nat} {whole rest : List α}

theorem refl (xs l : List α) : LeftOut xs 0 l l := by
  induction l with
  | nil => exact .nil
  | cons a l ih => exact .keep a ih

theorem append {more : Nat} {whole' rest' : List α} (first : LeftOut xs count whole rest)
    (second : LeftOut xs more whole' rest') :
    LeftOut xs (count + more) (whole ++ whole') (rest ++ rest') := by
  induction first with
  | nil => simpa using second
  | keep a out ih => exact .keep a ih
  | drop out ih =>
    rw [List.append_assoc, Nat.add_right_comm]
    exact .drop ih

theorem once (before after : List α) :
    LeftOut xs 1 (before ++ (xs ++ after)) (before ++ after) := by
  have out := (refl xs before).append (.drop (refl xs after))
  rwa [Nat.zero_add] at out

theorem eq_of_nil (out : LeftOut [] count whole rest) : whole = rest := by
  induction out with
  | nil => rfl
  | keep a out ih => rw [ih]
  | drop out ih => exact ih

theorem flatMap (out : LeftOut xs count whole rest) (f : α → List β) :
    LeftOut (xs.flatMap f) count (whole.flatMap f) (rest.flatMap f) := by
  induction out with
  | nil => exact .nil
  | keep a out ih =>
    have both := (refl (xs.flatMap f) (f a)).append ih
    rwa [Nat.zero_add] at both
  | drop out ih =>
    rw [List.flatMap_append]
    exact .drop ih

/-- Leaving out once in the lists of some elements leaves out as often as there are such. -/
theorem flatMap_countP {f g : β → List α} {p : β → Bool}
    (each : ∀ b, LeftOut xs (if p b then 1 else 0) (f b) (g b)) (l : List β) :
    LeftOut xs (l.countP p) (l.flatMap f) (l.flatMap g) := by
  induction l with
  | nil => exact .nil
  | cons b l ih =>
    rw [List.countP_cons, Nat.add_comm]
    exact (each b).append ih

end LeftOut

/-! ## Whole blocks -/

namespace Stanza

/-- Whether a block whose header is followed by `body` and `after` reads `body`: the last line of it
is the one that ends the block, or no line does and nothing follows. -/
def IsBody (body after : List Line) : Prop :=
  (∃ inner brace, body = inner ++ [brace] ∧ .finished ∉ verdicts false inner ∧
      .finished ∈ verdicts false body) ∨
    (.finished ∉ verdicts false body ∧ after = [])

theorem cutBlock_cons_track (inside : Bool) (line : Line) (rest : List Line) :
    Item.cutBlock inside (line :: rest) =
      match track inside line with
      | (.finished, _) => ([line], rest)
      | (.more, later) =>
        (line :: (Item.cutBlock later rest).1, (Item.cutBlock later rest).2) := by
  rw [Item.cutBlock, track]
  by_cases brace : line.head? = some "\x7d"
  · have closed : closes line = true := closes_iff.mpr brace
    cases inside <;> simp [brace, closed]
  · have plain : closes line = false := eq_false_of_ne_true (brace ∘ closes_iff.mp)
    cases inside <;> simp [brace, plain, opensSubmenu_eq]

theorem cutBlock_of_unfinished {inside : Bool} {lines : List Line}
    (unfinished : .finished ∉ verdicts inside lines) :
    Item.cutBlock inside lines = (lines, []) := by
  induction lines generalizing inside with
  | nil => rfl
  | cons line rest ih =>
    rw [verdicts, List.mem_cons, not_or] at unfinished
    obtain ⟨goes, later⟩ := unfinished
    rw [cutBlock_cons_track]
    generalize track inside line = answered at goes later ⊢
    obtain ⟨answer, next⟩ := answered
    cases answer with
    | finished => exact absurd rfl goes
    | more => simp [ih later]

theorem cutBlock_of_finished {inside : Bool} {inner : List Line} {brace : Line}
    (unfinished : .finished ∉ verdicts inside inner)
    (finished : .finished ∈ verdicts inside (inner ++ [brace])) (after : List Line) :
    Item.cutBlock inside (inner ++ brace :: after) = (inner ++ [brace], after) := by
  induction inner generalizing inside with
  | nil =>
    rw [List.nil_append, verdicts] at finished
    rw [List.nil_append, cutBlock_cons_track]
    generalize track inside brace = answered at finished ⊢
    obtain ⟨answer, next⟩ := answered
    cases answer with
    | finished => rfl
    | more => simp [verdicts] at finished
  | cons line inner ih =>
    rw [verdicts, List.mem_cons, not_or] at unfinished
    rw [List.cons_append, verdicts, List.mem_cons] at finished
    rw [List.cons_append, cutBlock_cons_track]
    generalize track inside line = answered at unfinished finished ⊢
    obtain ⟨answer, next⟩ := answered
    cases answer with
    | finished => exact absurd rfl unfinished.1
    | more =>
      have later := finished.resolve_left unfinished.1
      simp [ih unfinished.2 later]

theorem IsBody.cutBlock_eq {body after : List Line} (whole : IsBody body after) :
    Item.cutBlock false (body ++ after) = (body, after) := by
  rcases whole with ⟨inner, brace, rfl, unfinished, finished⟩ | ⟨unfinished, rfl⟩
  · rw [List.append_assoc, List.singleton_append]
    exact cutBlock_of_finished unfinished finished after
  · rw [List.append_nil]
    exact cutBlock_of_unfinished unfinished

end Stanza

/-! ## Lines that do nothing -/

/-- A line outside of blocks that does nothing. -/
inductive Line.IsInert (line : Line) : Prop where
  /-- Its keyword is known to nothing. -/
  | unknown (other : Item.isInclude line = false) (plain : Item.isHeader line = false)
      (unknown : line.head?.bind Directive.lookup = none)
  /-- Its directive asks for another number of words. -/
  | miscounted (found : Directive.Found) (arity : Nat)
      (known : line.head?.bind Directive.lookup = some found)
      (exact : found.directive.arity = some arity) (miscounted : line.length ≠ arity)
  /-- It is an include that does not name just one file. -/
  | malformed (names : Item.isInclude line = true) (malformed : line.length ≠ 2)

namespace Directive

/-- The keyword of includes, and that of blocks. -/
def reserved : List (List Char) :=
  [['i', 'n', 'c', 'l', 'u', 'd', 'e'], ['m', 'e', 'n', 'u', 'e', 'n', 't', 'r', 'y']]

/-- No directive has one of these keywords. -/
theorem lookup_of_reserved {word keyword : String} (known : (Text.lower word).toList ∈ reserved)
    (same : Text.sameIgnoringCase keyword word = true) : lookup keyword = none := by
  have apart : ∀ d ∈ table, ∀ other ∈ d.word :: d.aliases.map (·.word),
      other.toList.map Char.toLower ∉ reserved := by decide +kernel
  rw [Option.eq_none_iff_forall_ne_some]
  intro found looked
  obtain ⟨other, named, again⟩ := exists_word_of_lookup looked
  rw [← Text.sameIgnoringCase_iff.mp same, ← Text.sameIgnoringCase_iff.mp again,
    Text.toList_lower] at known
  exact apart found.directive (mem_table_of_lookup looked) other named known

end Directive

namespace Item

theorem lookup_of_isInclude {line : Line} (names : isInclude line = true) :
    line.head?.bind Directive.lookup = none := by
  obtain ⟨keyword, first, same⟩ := (Option.any_eq_true _ _).mp names
  rw [first, Option.bind_some, Directive.lookup_of_reserved (by decide) same]

theorem lookup_of_isHeader {line : Line} (opens : isHeader line = true) :
    line.head?.bind Directive.lookup = none := by
  obtain ⟨keyword, first, same⟩ := (Option.any_eq_true _ _).mp opens
  rw [first, Option.bind_some, Directive.lookup_of_reserved (by decide) same]

end Item

theorem Line.IsInert.cases {line : Line} (inert : line.IsInert) :
    (Item.isInclude line = true ∧ line.length ≠ 2) ∨
      Item.isHeader line = false ∧ Item.isInclude line = false ∧
        Directive.carriedOut? line = none := by
  cases inert with
  | unknown other plain unknown =>
    exact .inr ⟨plain, other, by rw [Directive.carriedOut?, unknown, Option.filter_none]⟩
  | miscounted found arity known exact miscounted =>
    have plain : Item.isHeader line = false := by
      refine eq_false_of_ne_true fun opens => ?_
      rw [Item.lookup_of_isHeader opens] at known
      cases known
    have other : Item.isInclude line = false := by
      refine eq_false_of_ne_true fun names => ?_
      rw [Item.lookup_of_isInclude names] at known
      cases known
    refine .inr ⟨plain, other, ?_⟩
    rw [Directive.carriedOut?, known, Option.filter_some, exact, if_neg]
    simpa using miscounted.symm
  | malformed names malformed => exact .inl ⟨names, malformed⟩

namespace Settings

variable {ctx : Context} {s : Settings}

theorem applyAll_of_inert {lines : List Line}
    (inert : ∀ line ∈ lines, Directive.carriedOut? line = none) :
    (s.applyAll ctx lines).value = s := by
  induction lines generalizing s with
  | nil => rfl
  | cons line lines ih =>
    rw [value_applyAll_cons, settings_apply, inert line List.mem_cons_self]
    exact ih fun line member => inert line (List.mem_cons_of_mem _ member)

theorem applyAll_leftOut {xs lines rest : List Line} {count : Nat}
    (out : LeftOut xs count lines rest)
    (inert : ∀ line ∈ xs, Directive.carriedOut? line = none) (s : Settings) :
    (s.applyAll ctx lines).value = (s.applyAll ctx rest).value := by
  induction out generalizing s with
  | nil => rfl
  | keep line out ih => rw [value_applyAll_cons, value_applyAll_cons, ih]
  | drop out ih => rw [value_applyAll_append, applyAll_of_inert inert, ih]

end Settings

/-! ## Deletions -/

/-- A file from which lines are deleted that stand outside of blocks. -/
structure Deletion where
  ctx : Context
  /-- The name of the primary file. -/
  primary : String
  /-- Whether a path is one of the file that lines are deleted from. -/
  isFile : String → Bool
  /-- The lines in front of those that are deleted. -/
  before : List Line
  removed : List Line
  /-- The lines after those that are deleted. -/
  after : List Line
  outside : Place.outside.after before = .outside
  source : Source
  /-- The source without the lines. -/
  shorter : Source
  differ : Source.DifferIn (fun path => isFile path = true) (before ++ (removed ++ after))
    (before ++ after) source shorter

namespace Deletion

variable (d : Deletion)

/-- How often the file is read. -/
def timesRead : Nat :=
  (d.source.pathsRead d.ctx d.primary).countP d.isFile

/-- What is read with the lines. -/
def loaded : Loaded :=
  (load d.source d.ctx d.primary).value

/-- What is read without them. -/
def loadedShorter : Loaded :=
  (load d.shorter d.ctx d.primary).value

/-- The deleted lines are a part of their own, which leads to no other file. -/
structure IsPart (item : Item) : Prop where
  ofLines_eq : Item.ofLines (d.removed ++ d.after) = item :: Item.ofLines d.after
  path?_eq : item.path? d.ctx d.primary = none

variable {d}

/-- Elsewhere in the same file the parts are as before. -/
theorem items_of_isFile {item : Item} (part : d.IsPart item) {path : String}
    (there : d.isFile path = true) :
    d.source.items path = Item.ofLines d.before ++ ([item] ++ Item.ofLines d.after) ∧
      d.shorter.items path = Item.ofLines d.before ++ Item.ofLines d.after := by
  rw [Source.items, Source.items, d.differ.lines_old path there, d.differ.lines_new path there,
    Item.ofLines_append d.outside, Item.ofLines_append d.outside, part.ofLines_eq]
  exact ⟨rfl, rfl⟩

theorem items_of_not_isFile {path : String} (other : ¬d.isFile path = true) :
    d.shorter.items path = d.source.items path := by
  rw [Source.items, Source.items, d.differ.lines_others path other]

/-- Where the file is included, what the part stands for is left out once. -/
theorem leftOut_ownItems {item : Item} (part : d.IsPart item) (path : String) :
    LeftOut (d.source.expand d.ctx d.primary item) (if d.isFile path then 1 else 0)
      (d.source.ownItems path) (d.shorter.ownItems path) := by
  have alone : d.source.expand d.ctx d.primary item =
      [item].filter fun item => !item.namesFile := by
    rw [Source.expand, part.path?_eq]
    cases named : item.namesFile <;> simp [named]
  by_cases there : d.isFile path = true
  · obtain ⟨old, new⟩ := items_of_isFile part there
    rw [if_pos there, alone, Source.ownItems, Source.ownItems, old, new, List.filter_append,
      List.filter_append, List.filter_append]
    exact .once _ _
  · rw [if_neg there, Source.ownItems, Source.ownItems, items_of_not_isFile there]
    exact .refl _ _

theorem leftOut_expand {item : Item} (part : d.IsPart item) (other : Item) :
    LeftOut (d.source.expand d.ctx d.primary item)
      (if (other.path? d.ctx d.primary).any d.isFile then 1 else 0)
      (d.source.expand d.ctx d.primary other) (d.shorter.expand d.ctx d.primary other) := by
  generalize removed : d.source.expand d.ctx d.primary item = xs
  have same := leftOut_ownItems part
  rw [removed] at same
  unfold Source.expand
  cases named : other.namesFile with
  | false =>
    have nowhere : other.path? d.ctx d.primary = none := by
      cases other with
      | «include» line => cases named
      | directive line => rfl
      | block header body => rfl
    rw [nowhere]
    exact .refl _ _
  | true =>
    cases other.path? d.ctx d.primary with
    | none => exact .refl _ _
    | some path => exact same path

/-- Of all parts that are read, what the part stands for is left out once for every time that its
file is read. -/
theorem leftOut_allItems {item : Item} (part : d.IsPart item) :
    LeftOut (d.source.expand d.ctx d.primary item) d.timesRead
      (d.source.allItems d.ctx d.primary) (d.shorter.allItems d.ctx d.primary) := by
  have each (items : List Item) := LeftOut.flatMap_countP (leftOut_expand part) items
  have times : d.timesRead = (d.source.items (d.ctx.resolve d.primary)).countP
      (fun other => (other.path? d.ctx d.primary).any d.isFile) +
        if d.isFile (d.ctx.resolve d.primary) then 1 else 0 := by
    rw [timesRead, Source.pathsRead, List.countP_cons, List.countP_filterMap]
    congr 2
    funext other
    cases other.path? d.ctx d.primary <;> rfl
  rw [times, Source.allItems, Source.allItems]
  by_cases there : d.isFile (d.ctx.resolve d.primary) = true
  · obtain ⟨old, new⟩ := items_of_isFile part there
    have skipped : ([item].countP fun other => (other.path? d.ctx d.primary).any d.isFile) = 0 := by
      simp [part.path?_eq]
    have before := each (Item.ofLines d.before)
    have after := each (Item.ofLines d.after)
    rw [if_pos there, old, new, List.flatMap_append, List.flatMap_append, List.flatMap_append,
      List.countP_append, List.countP_append, skipped, Nat.zero_add, List.flatMap_singleton,
      Nat.add_assoc]
    exact before.append (.drop after)
  · rw [if_neg there, items_of_not_isFile there]
    exact each _

theorem leftOut_entries {item : Item} (part : d.IsPart item) :
    LeftOut ((d.source.expand d.ctx d.primary item).flatMap (Item.entries d.ctx)) d.timesRead
      d.loaded.entries d.loadedShorter.entries := by
  rw [loaded, loadedShorter, value_load, value_load]
  exact (leftOut_allItems part).flatMap (Item.entries d.ctx)

/-- The settings stay the same if the lines that the part stands for do nothing. -/
theorem settingsRead_eq {item : Item} (part : d.IsPart item)
    (inert : ∀ line ∈ (d.source.expand d.ctx d.primary item).flatMap
      (Item.settingLines fun _ => []), Directive.carriedOut? line = none) :
    d.source.settingsRead d.ctx d.primary = d.shorter.settingsRead d.ctx d.primary :=
  Settings.applyAll_leftOut ((leftOut_allItems part).flatMap _) inert _

theorem settings_loaded_eq
    (same : d.source.settingsRead d.ctx d.primary = d.shorter.settingsRead d.ctx d.primary) :
    d.loadedShorter.settings = d.loaded.settings := by
  rw [loaded, loadedShorter, value_load, value_load, same, value_hasIcons_congr d.differ.holds]

theorem isPart_block {header : Line} {body : List Line} (lines : d.removed = header :: body)
    (opens : Item.isHeader header = true) (whole : Stanza.IsBody body d.after) :
    d.IsPart (.block header body) where
  ofLines_eq := by
    have other : ¬Item.isInclude header = true := by
      intro names
      rw [Place.isHeader_eq_false names] at opens
      cases opens
    rw [lines, List.cons_append, Item.ofLines, if_neg other, if_pos opens, whole.cutBlock_eq]
  path?_eq := rfl

theorem isPart_directive {line : Line} (lines : d.removed = [line])
    (plain : Item.isHeader line = false) (other : Item.isInclude line = false) :
    d.IsPart (.directive line) where
  ofLines_eq := by simp [lines, Item.ofLines, plain, other]
  path?_eq := rfl

theorem isPart_malformed {line : Line} (lines : d.removed = [line])
    (names : Item.isInclude line = true) (malformed : line.length ≠ 2) :
    d.IsPart (.include line) where
  ofLines_eq := by
    rw [lines, List.singleton_append, Item.ofLines_cons_include names]
  path?_eq := by
    have nowhere : Draft.includeTarget? line = none := by
      match line with
      | [] => rfl
      | [_] => rfl
      | [_, _] => exact absurd rfl malformed
      | _ :: _ :: _ :: _ => rfl
    rw [Item.path?, nowhere]
    rfl

theorem loaded_eq (settings : d.loadedShorter.settings = d.loaded.settings)
    (entries : d.loadedShorter.entries = d.loaded.entries) : d.loadedShorter = d.loaded := by
  generalize d.loadedShorter = shorter at settings entries
  generalize d.loaded = loaded at settings entries
  cases shorter
  cases loaded
  simp_all

/-- What deleting lines does to a configuration. -/
structure Law (d : Deletion) : Prop where
  /-- Without a whole block, the settings are the same, and of the entries only that of the block is
  missing, if it makes one, once for every time that its file is read. -/
  block : ∀ header body, d.removed = header :: body → Item.isHeader header = true →
    Stanza.IsBody body d.after → d.loadedShorter.settings = d.loaded.settings ∧
      LeftOut (entryOfBlock? d.ctx header body).toList d.timesRead d.loaded.entries
        d.loadedShorter.entries
  /-- Without a line that is neither an include nor a header, the entries are the same. -/
  directive : ∀ line, d.removed = [line] → Item.isHeader line = false →
    Item.isInclude line = false → d.loadedShorter.entries = d.loaded.entries
  /-- Without a line that does nothing, everything is the same. -/
  inert : ∀ line, d.removed = [line] → line.IsInert → d.loadedShorter = d.loaded

/-- Blocks and directives do not interfere: deleting one of them takes away what it stands for and
nothing else. -/
theorem load_shorter (d : Deletion) : d.Law := by
  have directive (line : Line) (lines : d.removed = [line]) (plain : Item.isHeader line = false)
      (other : Item.isInclude line = false) : d.loadedShorter.entries = d.loaded.entries :=
    (leftOut_entries (isPart_directive lines plain other)).eq_of_nil.symm
  refine ⟨?_, directive, ?_⟩
  · intro header body lines opens whole
    have part := isPart_block lines opens whole
    have entries := leftOut_entries part
    refine ⟨settings_loaded_eq (settingsRead_eq part ?_), ?_⟩
    · intro line member
      cases member
    · have alone : d.source.expand d.ctx d.primary (.block header body) =
          [.block header body] := rfl
      rwa [alone, List.flatMap_singleton] at entries
  · intro line lines inert
    rcases inert.cases with ⟨names, malformed⟩ | ⟨plain, other, nothing⟩
    · have part := isPart_malformed lines names malformed
      have alone : d.source.expand d.ctx d.primary (.include line) = [] := by
        rw [Source.expand, part.path?_eq]
        rfl
      have entries := leftOut_entries part
      rw [alone] at entries
      refine loaded_eq (settings_loaded_eq (settingsRead_eq part ?_)) entries.eq_of_nil.symm
      intro line member
      rw [alone] at member
      cases member
    · have part := isPart_directive lines plain other
      refine loaded_eq (settings_loaded_eq (settingsRead_eq part ?_))
        (directive line lines plain other)
      intro same member
      obtain rfl : same = line := List.mem_singleton.mp member
      exact nothing

/-- A primary file that includes another one twice. -/
def twoIncludes : MemoryFiles :=
  MemoryFiles.empty.insert "a" (Buffer.ascii "include x\ninclude X")

/-- A block in the file that is included. -/
def twiceRead : Deletion where
  ctx :=
    { appleFirmware := false, arch := .x64, selfVolume := none, selfDir := "", minuteOfDay := none,
      volumes := [] }
  primary := "a"
  isFile path := decide (MemoryFiles.key path = MemoryFiles.key "x")
  before := []
  removed := [["menuentry", "B"], ["\x7d"]]
  after := [["timeout", "5"]]
  outside := rfl
  source := (twoIncludes.insert "x" (Buffer.ascii "menuentry B\n\x7d\ntimeout 5")).source
  shorter := (twoIncludes.insert "x" (Buffer.ascii "timeout 5")).source
  differ := by
    simp only [decide_eq_true_eq]
    exact twoIncludes.differIn_insert "x" (by decide +kernel) (by decide +kernel)

/-- Its entry is there twice, and both are missing without the block. -/
theorem twiceRead_shorter : Item.isHeader ["menuentry", "B"] = true ∧
    Stanza.IsBody [["\x7d"]] twiceRead.after ∧ twiceRead.timesRead = 2 ∧
    twiceRead.loadedShorter.settings = twiceRead.loaded.settings ∧
      LeftOut (entryOfBlock? twiceRead.ctx ["menuentry", "B"] [["\x7d"]]).toList 2
        twiceRead.loaded.entries twiceRead.loadedShorter.entries := by
  have opens : Item.isHeader ["menuentry", "B"] = true := by decide
  have whole : Stanza.IsBody [["\x7d"]] twiceRead.after :=
    .inl ⟨[], ["\x7d"], rfl, by decide, by decide⟩
  have times : twiceRead.timesRead = 2 := by decide +kernel
  have without := twiceRead.load_shorter.block ["menuentry", "B"] [["\x7d"]] rfl opens whole
  rw [times] at without
  exact ⟨opens, whole, times, without⟩

end Deletion

end BootManager.Config
