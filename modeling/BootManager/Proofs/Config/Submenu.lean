import BootManager.Proofs.Config.Place
import BootManager.Proofs.Config.SubmenuLines

/-!
# Blocks and their submenus

Which line ends a block is told by an automaton with two states, whatever else the lines say. A
block makes an entry unless a line outside of submenus disables it, and the submenus of the entry
are those in which no line does. The main result is `Stanza.feed_blockLaw`.
-/

namespace BootManager.Config

open Text

namespace Stanza

/-! ## What lines mean -/

/-- The title of the submenu that a line outside of submenus opens. -/
def submenuTitle? : Line → Option String
  | keyword :: title :: _ =>
    if sameIgnoringCase keyword "submenuentry" then some title else none
  | _ => none

/-- One step of the automaton: what a line means for the end of the block, and whether it leaves a
submenu open. `inside` tells whether one is open before. -/
def track (inside : Bool) (line : Line) : Feed × Bool :=
  if line.head? = some "\x7d" then (if inside then .more else .finished, false)
  else (.more, inside || (submenuTitle? line).isSome)

/-- Whether lines leave a submenu open. -/
def leavesOpen (lines : List Line) : Bool :=
  lines.foldl (fun inside line => (track inside line).2) false

/-- What the automaton says to lines, one by one. -/
def verdicts : Bool → List Line → List Feed
  | _, [] => []
  | inside, line :: rest => (track inside line).1 :: verdicts (track inside line).2 rest

/-- What a block answers to lines that are fed to it, one by one. -/
def answers (volumes : List Volume) : List Line → Stanza → List Feed
  | [], _ => []
  | line :: rest, stanza =>
    (stanza.feed volumes line).value.1 :: answers volumes rest (stanza.feed volumes line).value.2

/-- The lines that stand in no submenu. -/
def own : Bool → List Line → List Line
  | _, [] => []
  | inside, line :: rest =>
    if inside then own (track inside line).2 rest else line :: own (track inside line).2 rest

/-- The lines in front of the next brace. -/
def untilBrace (lines : List Line) : List Line :=
  lines.takeWhile fun line => line.head? != some "\x7d"

/-- A submenu among the lines of a block. -/
structure Nested where
  /-- The lines in front of it. -/
  before : List Line
  title : String
  /-- Its lines, up to the brace that closes it; all that follow if none does. -/
  body : List Line
  deriving DecidableEq, Repr

/-- The submenus that lines open, where `before` stand in front of all of them. -/
def nestedFrom : Bool → List Line → List Line → List Nested
  | _, _, [] => []
  | inside, before, line :: rest =>
    let later := nestedFrom (track inside line).2 (before ++ [line]) rest
    match submenuTitle? line with
    | some title => if inside then later else ⟨before, title, untilBrace rest⟩ :: later
    | none => later

/-- The submenus among the lines of a block. -/
def nested (lines : List Line) : List Nested :=
  nestedFrom false [] lines

theorem closes_iff {line : Line} : closes line = true ↔ line.head? = some "\x7d" := by
  simp [closes]

theorem opensSubmenu_eq (line : Line) : opensSubmenu line = (submenuTitle? line).isSome := by
  match line with
  | [] => rfl
  | [_] => rfl
  | keyword :: title :: _ =>
    have small : lower "submenuentry" = "submenuentry" := by decide
    rw [opensSubmenu, submenuTitle?, sameIgnoringCase, small]
    cases lower keyword == "submenuentry" <;> rfl

theorem submenuTitle?_of_brace {line : Line} (brace : line.head? = some "\x7d") :
    submenuTitle? line = none := by
  match line with
  | [_] => rfl
  | keyword :: _ :: _ =>
    obtain rfl : keyword = "\x7d" := by simpa using brace
    rfl

theorem disables_of_title {line : Line} {title : String} (opens : submenuTitle? line = some title) :
    disables line = false := by
  match line with
  | keyword :: _ :: _ =>
    rw [submenuTitle?] at opens
    split at opens
    next named =>
      have word : lower keyword = lower "submenuentry" := sameIgnoringCase_iff.mp named
      have other : lower "submenuentry" ≠ lower "disabled" := by decide
      simpa [disables, ← Bool.not_eq_true, sameIgnoringCase_iff, word] using other
    next => cases opens

/-! ## One line -/

variable {volumes : List Volume}

theorem enabled_set (keyword : String) (value : Option String) (stanza : Stanza) :
    (stanza.set volumes keyword value).value.enabled =
      (stanza.enabled && !sameIgnoringCase keyword "disabled") := by
  have word : sameIgnoringCase keyword "disabled" = (lower keyword == "disabled") := rfl
  rw [value_set, word]
  by_cases disables : lower keyword = "disabled" <;> simp [disables]

theorem submenus_set (keyword : String) (value : Option String) (stanza : Stanza) :
    (stanza.set volumes keyword value).value.entry.submenus = stanza.entry.submenus := by
  rw [value_set]

theorem enabled_closeSubmenu (stanza : Stanza) :
    (stanza.closeSubmenu volumes).value.enabled = stanza.enabled := by
  unfold closeSubmenu
  cases stanza.submenu <;> rfl

/-- What a line does that stands in no submenu and neither opens one nor ends the block. -/
def take (volumes : List Volume) (stanza : Stanza) : Line → Stanza
  | [] => stanza
  | keyword :: values =>
    if stanza.enabled then (stanza.set volumes keyword values.head?).value else stanza

/-- What a block does with a line. -/
inductive Fed (volumes : List Volume) (line : Line) (stanza : Stanza) :
    Feed × Stanza → Prop where
  | leaves (sub : Submenu) (reading : stanza.submenu = some sub)
      (brace : line.head? = some "\x7d") :
      Fed volumes line stanza (.more, (stanza.closeSubmenu volumes).value)
  | stays (sub : Submenu) (reading : stanza.submenu = some sub)
      (plain : line.head? ≠ some "\x7d") :
      Fed volumes line stanza (.more, { stanza with submenu := some (sub.feed volumes line).value })
  | ends (outside : stanza.submenu = none) (brace : line.head? = some "\x7d") :
      Fed volumes line stanza (.finished, stanza)
  | enters (title : String) (outside : stanza.submenu = none)
      (opens : submenuTitle? line = some title) :
      Fed volumes line stanza (.more, stanza.openSubmenu title)
  | sets (outside : stanza.submenu = none) (plain : line.head? ≠ some "\x7d")
      (opens : submenuTitle? line = none) :
      Fed volumes line stanza (.more, stanza.take volumes line)

theorem feed_spec (volumes : List Volume) (line : Line) (stanza : Stanza) :
    Fed volumes line stanza (stanza.feed volumes line).value := by
  cases line with
  | nil =>
    cases reading : stanza.submenu with
    | some sub =>
      have same : stanza = { stanza with submenu := some (sub.feed volumes []).value } := by
        simp [Submenu.feed, ← reading]
      have stays : Fed volumes [] stanza (.more, { stanza with submenu := some _ }) :=
        .stays sub reading (by simp)
      rwa [← same] at stays
    | none => exact .sets reading (by simp) rfl
  | cons keyword values =>
    unfold feed
    cases reading : stanza.submenu with
    | some sub =>
      by_cases brace : closes (keyword :: values) = true
      · simp only [brace, if_true, Logged.value_bind, Logged.value_pure]
        exact .leaves sub reading (closes_iff.mp brace)
      · simp only [brace, Bool.false_eq_true, if_false, Logged.value_bind, Logged.value_pure]
        exact .stays sub reading (brace ∘ closes_iff.mpr)
    | none =>
      by_cases brace : closes (keyword :: values) = true
      · simp only [brace, if_true]
        exact .ends reading (closes_iff.mp brace)
      · have plain := brace ∘ closes_iff.mpr
        simp only [brace, Bool.false_eq_true, if_false, opensSubmenu_eq]
        cases opens : submenuTitle? (keyword :: values) with
        | some title =>
          have first : values.headD "" = title := by
            cases values with
            | nil => cases opens
            | cons title' rest =>
              rw [submenuTitle?] at opens
              split at opens
              next => exact Option.some.inj opens
              next => cases opens
          simp only [Option.isSome_some, if_true, first]
          exact .enters title reading opens
        | none =>
          have sets : Fed volumes (keyword :: values) stanza _ := .sets reading plain opens
          by_cases enabled : stanza.enabled = true
          · simpa [take, enabled] using sets
          · simpa [take, enabled] using sets

/-- A line does nothing if it is no brace, opens no submenu and sets nothing. -/
theorem value_feed_of_idle {line : Line} {stanza : Stanza} (plain : line.head? ≠ some "\x7d")
    (opens : stanza.submenu = none → submenuTitle? line = none)
    (inSubmenu : ∀ sub : Submenu, (sub.feed volumes line).value = sub)
    (inBlock : stanza.take volumes line = stanza) :
    (stanza.feed volumes line).value = (.more, stanza) := by
  have step := feed_spec volumes line stanza
  generalize (stanza.feed volumes line).value = fed at step ⊢
  cases step with
  | leaves sub reading brace => exact absurd brace plain
  | stays sub reading => rw [inSubmenu, ← reading]
  | ends outside brace => exact absurd brace plain
  | enters title outside opens' =>
    rw [opens outside] at opens'
    cases opens'
  | sets => rw [inBlock]

theorem value_feed_of_title {line : Line} {stanza : Stanza} {title : String}
    (outside : stanza.submenu = none) (opens : submenuTitle? line = some title) :
    (stanza.feed volumes line).value = (.more, stanza.openSubmenu title) := by
  have step := feed_spec volumes line stanza
  generalize (stanza.feed volumes line).value = fed at step ⊢
  cases step with
  | leaves sub reading => cases outside.symm.trans reading
  | stays sub reading => cases outside.symm.trans reading
  | ends _ brace =>
    rw [submenuTitle?_of_brace brace] at opens
    cases opens
  | enters title' _ opens' =>
    obtain rfl : title' = title := Option.some.inj (opens'.symm.trans opens)
    rfl
  | sets _ _ none => cases none.symm.trans opens

theorem submenu_take (line : Line) (stanza : Stanza) :
    (stanza.take volumes line).submenu = stanza.submenu := by
  cases line with
  | nil => rfl
  | cons keyword values =>
    rw [take]
    split
    · exact Place.submenu_set volumes keyword values.head? stanza
    · rfl

theorem submenus_take (line : Line) (stanza : Stanza) :
    (stanza.take volumes line).entry.submenus = stanza.entry.submenus := by
  cases line with
  | nil => rfl
  | cons keyword values =>
    rw [take]
    split
    · exact submenus_set keyword values.head? stanza
    · rfl

theorem enabled_take (line : Line) (stanza : Stanza) :
    (stanza.take volumes line).enabled = (stanza.enabled && !disables line) := by
  cases line with
  | nil => simp [take, disables]
  | cons keyword values =>
    by_cases enabled : stanza.enabled = true
    · simp [take, enabled, enabled_set, disables]
    · simp [take, enabled]

variable {line : Line} {stanza : Stanza} {fed : Feed × Stanza}

theorem Fed.track_eq (step : Fed volumes line stanza fed) :
    track stanza.submenu.isSome line = (fed.1, fed.2.submenu.isSome) := by
  cases step with
  | leaves sub reading brace => simp [track, reading, brace, closeSubmenu]
  | stays sub reading plain => simp [track, reading, plain]
  | ends outside brace => simp [track, outside, brace]
  | enters title outside opens =>
    have plain : line.head? ≠ some "\x7d" := by
      intro brace
      rw [submenuTitle?_of_brace brace] at opens
      cases opens
    simp [track, outside, plain, opens, openSubmenu]
  | sets outside plain opens => simp [track, outside, plain, opens, submenu_take]

/-- A line disables the block if it stands in no submenu. -/
theorem Fed.enabled_eq (step : Fed volumes line stanza fed) :
    fed.2.enabled = (stanza.enabled && (stanza.submenu.isSome || !disables line)) := by
  cases step with
  | leaves sub reading brace => simp [enabled_closeSubmenu, reading]
  | stays sub reading plain => simp [reading]
  | ends outside brace =>
    have never : disables line = false := by
      cases line with
      | nil => rfl
      | cons keyword values =>
        obtain rfl : keyword = "\x7d" := by simpa using brace
        rfl
    simp [outside, never]
  | enters title outside opens => simp [openSubmenu, outside, disables_of_title opens]
  | sets outside plain opens => simp [outside, enabled_take]

/-! ## Many lines -/

theorem value_feedAll_cons (line : Line) (rest : List Line) (stanza : Stanza) :
    (stanza.feedAll volumes (line :: rest)).value =
      ((stanza.feed volumes line).value.2.feedAll volumes rest).value := by
  simp [feedAll]

theorem value_feedAll_append (first rest : List Line) (stanza : Stanza) :
    (stanza.feedAll volumes (first ++ rest)).value =
      ((stanza.feedAll volumes first).value.feedAll volumes rest).value := by
  simp [feedAll]

/-- A block answers to lines as the automaton does. -/
theorem answers_eq (lines : List Line) (stanza : Stanza) :
    answers volumes lines stanza = verdicts stanza.submenu.isSome lines := by
  induction lines generalizing stanza with
  | nil => rfl
  | cons line rest ih =>
    have step := (feed_spec volumes line stanza).track_eq
    rw [answers, verdicts, step, ih]

theorem enabled_feedAll (lines : List Line) (stanza : Stanza) :
    (stanza.feedAll volumes lines).value.enabled =
      (stanza.enabled && !(own stanza.submenu.isSome lines).any disables) := by
  induction lines generalizing stanza with
  | nil => simp [feedAll, own]
  | cons line rest ih =>
    have step := feed_spec volumes line stanza
    rw [value_feedAll_cons, ih, own, step.enabled_eq, step.track_eq]
    cases stanza.submenu.isSome with
    | true => simp
    | false => simp [Bool.and_assoc]

/-! ## Submenus -/

/-- The entry of the submenu being read, if it makes one, when `lines` are the rest of it. -/
def pendingCommit? (volumes : List Volume) (lines : List Line) (stanza : Stanza) :
    Option SubEntry :=
  stanza.submenu.bind fun sub =>
    let read := lines.foldl (fun sub line => (sub.feed volumes line).value) sub
    (read.commit volumes).value

/-- The entry of a submenu, if it makes one, in a block that begins as `start`. -/
def Nested.commit? (volumes : List Volume) (start : Stanza) (n : Nested) : Option SubEntry :=
  ((start.feedAll volumes n.before).value.openSubmenu n.title).pendingCommit? volumes n.body

theorem submenus_closeSubmenu (stanza : Stanza) :
    (stanza.closeSubmenu volumes).value.entry.submenus =
      stanza.entry.submenus ++ (stanza.pendingCommit? volumes []).toList := by
  unfold closeSubmenu pendingCommit?
  cases stanza.submenu with
  | none => simp
  | some sub => rfl

theorem pendingCommit?_of_none (outside : stanza.submenu = none) (lines : List Line) :
    stanza.pendingCommit? volumes lines = none := by
  rw [pendingCommit?, outside, Option.bind_none]

theorem submenu_closeSubmenu (stanza : Stanza) :
    (stanza.closeSubmenu volumes).value.submenu = none := by
  unfold closeSubmenu
  cases reading : stanza.submenu with
  | none => exact reading
  | some sub => rfl

theorem untilBrace_cons_of_brace (brace : line.head? = some "\x7d") (rest : List Line) :
    untilBrace (line :: rest) = [] := by
  simp [untilBrace, brace]

theorem untilBrace_cons_of_plain (plain : line.head? ≠ some "\x7d") (rest : List Line) :
    untilBrace (line :: rest) = line :: untilBrace rest := by
  simp [untilBrace, plain]

/-- After lines, a block has the submenus that it had, the one that was open if there was one, and
those that the lines opened. -/
theorem submenus_feedAll {start stanza : Stanza} {before : List Line}
    (came : (start.feedAll volumes before).value = stanza) (lines : List Line) :
    ((stanza.feedAll volumes lines).value.closeSubmenu volumes).value.entry.submenus =
      stanza.entry.submenus ++ ((stanza.pendingCommit? volumes (untilBrace lines)).toList ++
        (nestedFrom stanza.submenu.isSome before lines).filterMap (·.commit? volumes start)) := by
  induction lines generalizing before stanza with
  | nil => simp [feedAll, nestedFrom, submenus_closeSubmenu, untilBrace]
  | cons line rest ih =>
    have next : (start.feedAll volumes (before ++ [line])).value =
        (stanza.feed volumes line).value.2 := by
      rw [value_feedAll_append, came]
      simp [feedAll]
    have step := feed_spec volumes line stanza
    rw [value_feedAll_cons, ih next, nestedFrom, step.track_eq]
    generalize (stanza.feed volumes line).value = fed at step
    cases step with
    | leaves sub reading brace =>
      rw [submenuTitle?_of_brace brace, untilBrace_cons_of_brace brace,
        pendingCommit?_of_none (submenu_closeSubmenu stanza), submenus_closeSubmenu]
      simp
    | stays sub reading plain =>
      let fed : Stanza := { stanza with submenu := some (sub.feed volumes line).value }
      have pending : fed.pendingCommit? volumes (untilBrace rest) =
          stanza.pendingCommit? volumes (untilBrace (line :: rest)) := by
        simp [fed, pendingCommit?, reading, untilBrace_cons_of_plain plain]
      rw [pending, reading]
      cases submenuTitle? line <;> simp
    | ends outside brace =>
      rw [submenuTitle?_of_brace brace, pendingCommit?_of_none outside,
        pendingCommit?_of_none outside]
    | enters title outside opens =>
      have entry : (⟨before, title, untilBrace rest⟩ : Nested).commit? volumes start =
          (stanza.openSubmenu title).pendingCommit? volumes (untilBrace rest) := by
        rw [Nested.commit?, came]
      have kept : (stanza.openSubmenu title).entry.submenus = stanza.entry.submenus := rfl
      rw [opens, pendingCommit?_of_none outside, outside, kept]
      simp only [Option.isSome_none, Bool.false_eq_true, if_false, List.filterMap_cons, entry]
      cases (stanza.openSubmenu title).pendingCommit? volumes (untilBrace rest) <;> simp
    | sets outside plain opens =>
      have after : (stanza.take volumes line).submenu = none := by
        rw [submenu_take, outside]
      rw [opens, pendingCommit?_of_none outside, pendingCommit?_of_none after, submenus_take]

/-! ## The entry of a block -/

theorem isSome_pendingCommit? {sub : Submenu} (reading : stanza.submenu = some sub)
    (lines : List Line) :
    (stanza.pendingCommit? volumes lines).isSome = (sub.enabled && !lines.any disables) := by
  have enabled (sub : Submenu) :
      (lines.foldl (fun sub line => (sub.feed volumes line).value) sub).enabled =
        (sub.enabled && !lines.any disables) := by
    induction lines generalizing sub with
    | nil => simp
    | cons line rest ih => simp [ih, Submenu.enabled_feed, Bool.and_assoc]
  rw [pendingCommit?, reading, Option.bind_some, ← enabled sub]
  exact Submenu.isSome_commit _

/-- A submenu begins at a line outside of submenus that opens one, and goes up to the next brace. -/
theorem mem_nestedFrom_iff {n : Nested} {inside : Bool} {lines before : List Line} :
    n ∈ nestedFrom inside before lines ↔ ∃ front opening rest,
      lines = front ++ opening :: rest ∧ n.before = before ++ front ∧
        front.foldl (fun inside line => (track inside line).2) inside = false ∧
          submenuTitle? opening = some n.title ∧ n.body = untilBrace rest := by
  induction lines generalizing inside before with
  | nil => simp [nestedFrom]
  | cons line lines ih =>
    rw [nestedFrom]
    constructor
    · intro member
      have later (member : n ∈ nestedFrom (track inside line).2 (before ++ [line]) lines) :
          ∃ front opening rest, line :: lines = front ++ opening :: rest ∧
            n.before = before ++ front ∧
              front.foldl (fun inside line => (track inside line).2) inside = false ∧
                submenuTitle? opening = some n.title ∧ n.body = untilBrace rest := by
        obtain ⟨front, opening, rest, rfl, same, others⟩ := ih.mp member
        exact ⟨line :: front, opening, rest, rfl, by simpa using same, others⟩
      split at member
      next title opens =>
        split at member
        next => exact later member
        next outside =>
          rcases List.mem_cons.mp member with rfl | member
          · exact ⟨[], line, lines, rfl, (List.append_nil before).symm, by simpa using outside,
              opens, rfl⟩
          · exact later member
      next => exact later member
    · rintro ⟨front, opening, rest, parts, same, outside, opens, body⟩
      cases front with
      | nil =>
        obtain ⟨rfl, rfl⟩ := List.cons.inj parts
        obtain rfl : inside = false := outside
        have this : n = ⟨before, n.title, untilBrace lines⟩ := by
          rw [← body, ← List.append_nil before, ← same]
        rw [opens]
        exact List.mem_cons.mpr (.inl this)
      | cons first front =>
        obtain ⟨rfl, rfl⟩ := List.cons.inj parts
        have same : n.before = before ++ [line] ++ front := by simpa using same
        have later := ih.mpr ⟨front, opening, rest, rfl, same, outside, opens, body⟩
        split
        next =>
          split
          next => exact later
          next => exact List.mem_cons_of_mem _ later
        next => exact later

theorem mem_nested_iff {n : Nested} {lines : List Line} : n ∈ nested lines ↔
    ∃ opening rest, lines = n.before ++ opening :: rest ∧ leavesOpen n.before = false ∧
      submenuTitle? opening = some n.title ∧ n.body = untilBrace rest := by
  rw [nested, mem_nestedFrom_iff]
  constructor
  · rintro ⟨front, opening, rest, parts, same, others⟩
    obtain rfl : n.before = front := same
    exact ⟨opening, rest, parts, others⟩
  · rintro ⟨opening, rest, parts, others⟩
    exact ⟨n.before, opening, rest, parts, rfl, others⟩

theorem pairwise_nestedFrom (inside : Bool) (before lines : List Line) :
    (nestedFrom inside before lines).Pairwise fun n m => n.before.length < m.before.length := by
  induction lines generalizing inside before with
  | nil => exact .nil
  | cons line lines ih =>
    rw [nestedFrom]
    split
    next =>
      split
      next => exact ih _ _
      next =>
        refine .cons (fun n member => ?_) (ih _ _)
        obtain ⟨front, _, _, _, same, _⟩ := mem_nestedFrom_iff.mp member
        rw [same]
        simp only [List.length_append, List.length_singleton]
        omega
    next => exact ih _ _

/-- In a block that is not disabled, the submenus that make an entry are those that no line of
theirs disables. -/
theorem isSome_commit? {start : Stanza} {lines : List Line}
    (on : (start.feedAll volumes lines).value.enabled = true) {n : Nested}
    (member : n ∈ nested lines) : (n.commit? volumes start).isSome = !n.body.any disables := by
  obtain ⟨opening, rest, rfl, -⟩ := mem_nested_iff.mp member
  rw [value_feedAll_append, enabled_feedAll, Bool.and_eq_true] at on
  have opened : ((start.feedAll volumes n.before).value.openSubmenu n.title).submenu = some _ := rfl
  rw [Nested.commit?, isSome_pendingCommit? opened]
  simp [on.1]

/-- The entry that a block without an open submenu makes, if it is enabled. -/
def made (volumes : List Volume) (stanza : Stanza) : MenuEntry :=
  match stanza.bootnum with
  | some bootnum => stanza.firmwareEntry bootnum
  | none => stanza.loaderEntry volumes

theorem value_commit (stanza : Stanza) :
    (stanza.commit volumes).value =
      if stanza.enabled then some ((stanza.closeSubmenu volumes).value.made volumes) else none := by
  have kept : (stanza.closeSubmenu volumes).value.enabled = stanza.enabled :=
    enabled_closeSubmenu stanza
  rw [← kept, commit, Logged.value_bind, made]
  generalize (stanza.closeSubmenu volumes).value = closed
  cases closed.enabled with
  | true => cases closed.bootnum <;> rfl
  | false => rfl

theorem submenus_made (stanza : Stanza) :
    (stanza.made volumes).submenus = stanza.entry.submenus := by
  unfold made
  cases stanza.bootnum <;> rfl

theorem isSome_commit (stanza : Stanza) :
    (stanza.commit volumes).value.isSome = stanza.enabled := by
  rw [value_commit]
  cases stanza.enabled <;> rfl

theorem submenus_commit {entry : MenuEntry} (commits : (stanza.commit volumes).value = some entry) :
    entry.submenus = (stanza.closeSubmenu volumes).value.entry.submenus := by
  rw [value_commit] at commits
  split at commits
  · rw [← Option.some.inj commits, submenus_made]
  · cases commits

/-- What the entry of a submenu holds, where the block is `block` in front of it. -/
structure Nested.Holds (volumes : List Volume) (block : Stanza) (n : Nested) (entry : SubEntry) :
    Prop where
  /-- Its title is the one that it was opened with, and the volume that its lines name last. -/
  title_eq : entry.title =
    match (lastOf? (moves? volumes) n.body).bind fun place => volumes[place]? with
    | some volume => "Boot " ++ n.title ++ " from " ++ volume.name
    | none => n.title
  loader_eq : entry.loader = (lastOf? (valueOf? "loader") n.body).or block.entry.loader
  volume_eq : entry.volume = (lastOf? (moves? volumes) n.body).or block.entry.volume
  initrd_eq : entry.initrd = (lastOf? (givenTo? "initrd") n.body).getD block.entry.initrd
  /-- The initrd is put after the options. -/
  options_eq : entry.options =
    match entry.initrd with
    | some initrd => some (merge (n.body.foldl optionsAfter block.options) ("initrd=" ++ initrd))
    | none => n.body.foldl optionsAfter block.options
  useGraphics_eq : entry.useGraphics =
    ((lastOf? (valueOf? "graphics") n.body).map (sameIgnoringCase · "on")).or
      block.entry.useGraphics

theorem holds_of_commit? {start : Stanza} {n : Nested} {entry : SubEntry}
    (makes : n.commit? volumes start = some entry) :
    n.Holds volumes (start.feedAll volumes n.before).value entry := by
  rw [Nested.commit?] at makes
  generalize (start.feedAll volumes n.before).value = block at makes
  have opened : (block.openSubmenu n.title).submenu = some _ := rfl
  have made := congrArg Option.isSome makes
  rw [isSome_pendingCommit? opened, Option.isSome_some, Bool.and_eq_true, Bool.not_eq_true',
    List.any_eq_false] at made
  obtain ⟨on, kept⟩ := made
  have has : Submenu.Has volumes n.body _ _ :=
    Submenu.has_feedAll on (fun line member => eq_false_of_ne_true (kept line member)) rfl
  rw [pendingCommit?, opened, Option.bind_some] at makes
  dsimp only at makes
  generalize n.body.foldl (fun sub line => (Submenu.feed volumes line sub).value) _ = read
    at has makes
  have enabled : read.enabled = true := by
    have made := congrArg Option.isSome makes
    rwa [Submenu.isSome_commit] at made
  have named : (if read.namesVolume then read.currentVolume.bind fun place => volumes[place]?
      else none) = (lastOf? (moves? volumes) n.body).bind fun place => volumes[place]? := by
    rw [has.namesVolume_eq, has.currentVolume_eq]
    cases lastOf? (moves? volumes) n.body <;> rfl
  rw [Submenu.value_commit enabled, named, has.title_eq, has.options_eq] at makes
  obtain rfl := Option.some.inj makes
  exact ⟨rfl, has.loader_eq, has.volume_eq.trans has.currentVolume_eq, has.initrd_eq, rfl,
    has.useGraphics_eq⟩

/-- How a block reads lines that follow its header, any that follow its end included. -/
structure BlockLaw (volumes : List Volume) (start : Stanza) (lines : List Line) : Prop where
  /-- It answers to each line as the automaton does, so the line that ends it is the first that the
  automaton accepts. -/
  answers_eq : answers volumes lines start = verdicts false lines
  /-- It makes no entry exactly if a line in no submenu disables it. -/
  discarded_iff : ((start.feedAll volumes lines).value.commit volumes).value = none ↔
    ∃ line ∈ own false lines, disables line = true
  /-- A submenu among the lines begins at a line outside of submenus that opens one, and goes up to
  the next brace. -/
  mem_nested_iff : ∀ n, n ∈ nested lines ↔
    ∃ opening rest, lines = n.before ++ opening :: rest ∧ leavesOpen n.before = false ∧
      submenuTitle? opening = some n.title ∧ n.body = untilBrace rest
  /-- The submenus come in the order in which they begin. -/
  nested_ordered : (nested lines).Pairwise fun n m => n.before.length < m.before.length
  /-- The submenus of its entry are, in order, those that the lines open and that no line of theirs
  disables. -/
  submenus_eq : ∀ entry,
    ((start.feedAll volumes lines).value.commit volumes).value = some entry →
    entry.submenus.map some = ((nested lines).filter fun n => !n.body.any disables).map
      (·.commit? volumes start)
  /-- Each of them has its title, and of all else what its lines say last, or else what the block
  had in front of it. -/
  holds : ∀ (n : Nested) (sub : SubEntry), n.commit? volumes start = some sub →
    n.Holds volumes (start.feedAll volumes n.before).value sub

/-- Where a block ends depends on braces and submenus alone, and disabling takes the block or a
submenu away without moving any end. -/
theorem feed_blockLaw (volumes : List Volume) (title : Option String) (selfVolume : Option Nat)
    (lines : List Line) : BlockLaw volumes (start title selfVolume) lines := by
  let begun := start title selfVolume
  have enabled : (begun.feedAll volumes lines).value.enabled = !(own false lines).any disables := by
    rw [enabled_feedAll]
    rfl
  refine ⟨answers_eq lines begun, ?_, fun _ => mem_nested_iff, pairwise_nestedFrom false [] lines,
    ?_, fun _ _ => holds_of_commit?⟩
  · rw [← Option.isNone_iff_eq_none, ← Option.not_isSome, isSome_commit, enabled, Bool.not_not,
      List.any_eq_true]
  · intro entry commits
    have on : (begun.feedAll volumes lines).value.enabled = true := by
      rw [← isSome_commit, commits]
      rfl
    have all : entry.submenus = (nested lines).filterMap (·.commit? volumes begun) := by
      rw [submenus_commit commits]
      have came : (begun.feedAll volumes []).value = begun := rfl
      exact submenus_feedAll came lines
    rw [all, List.map_filterMap_some_eq_filter_map_isSome, List.filter_map]
    refine congrArg (List.map _) (List.filter_congr fun n member => ?_)
    exact isSome_commit? on member

/-- A submenu within a submenu is not opened, so the first brace after both closes the outer one. -/
example : verdicts false [["submenuentry", "A"], ["disabled"], ["SubMenuEntry", "B"], ["\x7d"],
    ["\x7d", "x"]] = [.more, .more, .more, .more, .finished] := by decide

end Stanza
end BootManager.Config
