import BootManager.Proofs.Config.OwnLines
import Mathlib.Data.List.FinRange
import Mathlib.Data.List.Sort
import Mathlib.Logic.Equiv.Defs

/-!
# The order of lines in a block

A line of a block sets what its keyword names and nothing else, so two lines that stand next to each
other can be swapped unless they have the same keyword. Hence the entry of a block without submenus
depends only on the lines of each keyword, in their order. Only lines that disable the block cannot
be swapped with others, since it reads nothing after them; but then it makes no entry, wherever they
stand. The main result is `Reordering.commit_reordered`.
-/

namespace BootManager.Config

open Text

/-! ## Lists in another order -/

section

variable {α κ σ : Type} {xs ys : List α}

theorem map_filter_finRange (l : List α) (p : α → Bool) :
    ((List.finRange l.length).filter fun i => p l[i]).map (fun i => l[i]) = l.filter p := by
  conv => rhs; rw [← List.map_getElem_finRange l, List.filter_map]
  rfl

/-- The elements with a property are the same, if they stand in the same order in both lists. -/
theorem filter_eq_of_place (place : Fin ys.length ≃ Fin xs.length)
    (same : ∀ i : Fin ys.length, ys[i] = xs[place i]) (p : α → Bool)
    (order : ∀ i j : Fin ys.length, i < j → p ys[i] = true → p ys[j] = true →
      place i < place j) :
    ys.filter p = xs.filter p := by
  let chosen := (List.finRange xs.length).filter fun i => p xs[i]
  let chosen' := (List.finRange ys.length).filter fun i => p ys[i]
  -- Both lists of places are sorted, and have the same members.
  have places : chosen'.map place = chosen := by
    have sorted : chosen.Pairwise (· < ·) := (List.pairwise_lt_finRange _).filter _
    refine List.Pairwise.eq_of_mem_iff ?_ sorted ?_
    · rw [List.pairwise_map]
      refine ((List.pairwise_lt_finRange _).filter _).imp_of_mem fun {i j} first second lt => ?_
      exact order i j lt (List.mem_filter.mp first).2 (List.mem_filter.mp second).2
    · intro i
      obtain ⟨j, rfl⟩ := place.surjective i
      simpa [chosen, chosen'] using congrArg p (same j)
  calc
    ys.filter p = chosen'.map fun i => ys[i] := (map_filter_finRange ys p).symm
    _ = chosen'.map fun i => xs[place i] := List.map_congr_left fun i _ => same i
    _ = chosen.map fun i => xs[i] := by rw [← places, List.map_map]; rfl
    _ = xs.filter p := map_filter_finRange xs p

variable [DecidableEq κ] {key : α → κ} {step : σ → α → σ}

/-- A step that can be swapped with all steps in front of it can be made first. -/
theorem foldl_append_cons_of_comm {front : List α} {x : α} (rest : List α)
    (comm : ∀ y ∈ front, ∀ s, step (step s y) x = step (step s x) y) (s : σ) :
    (front ++ x :: rest).foldl step s = (front ++ rest).foldl step (step s x) := by
  induction front generalizing s with
  | nil => rfl
  | cons y front ih =>
    obtain ⟨first, later⟩ := List.forall_mem_cons.mp comm
    rw [List.cons_append, List.foldl_cons, ih later, first, List.cons_append, List.foldl_cons]

theorem mem_of_filter_eq
    (same : ∀ k, (xs.filter fun x => key x = k) = ys.filter fun y => key y = k) {y : α}
    (member : y ∈ ys) : y ∈ xs := by
  have chosen : y ∈ ys.filter fun other => key other = key y := by simpa using member
  rw [← same] at chosen
  exact List.mem_of_mem_filter chosen

/-- If steps with different keys can be swapped, only the steps of each key matter, in their
order. -/
theorem foldl_eq_of_filter_eq
    (same : ∀ k, (xs.filter fun x => key x = k) = ys.filter fun y => key y = k)
    (comm : ∀ x y, key x ≠ key y → ∀ s, step (step s y) x = step (step s x) y) (s : σ) :
    xs.foldl step s = ys.foldl step s := by
  induction xs generalizing ys s with
  | nil =>
    have nothing : ys = [] :=
      List.eq_nil_iff_forall_not_mem.mpr fun y member => nomatch mem_of_filter_eq same member
    rw [nothing]
  | cons x xs ih =>
    have first := same (key x)
    rw [List.filter_cons_of_pos (by simp), eq_comm, List.filter_eq_cons_iff] at first
    obtain ⟨front, rest, rfl, others, -, remain⟩ := first
    -- What stands in front of `x` in the other list has other keys.
    have apart : ∀ y ∈ front, key x ≠ key y := fun y member equal =>
      others y member (by simp [equal])
    rw [List.foldl_cons, foldl_append_cons_of_comm rest fun y member => comm x y (apart y member)]
    refine ih (fun k => ?_) _
    rw [List.filter_append]
    by_cases own : key x = k
    · subst own
      rw [remain, List.filter_eq_nil_iff.mpr others, List.nil_append]
    · have each := same k
      rwa [List.filter_cons_of_neg (by simpa using own), List.filter_append,
        List.filter_cons_of_neg (by simpa using own)] at each

end

/-- The keyword of a line, in small letters. -/
def Line.keyword? (line : Line) : Option String :=
  line.head?.map lower

namespace Stanza

variable {volumes : List Volume} {line : Line} {stanza : Stanza}

/-! ## Lines with different keywords -/

/-- Two changes can be swapped if at most one of them is made. -/
theorem ite_comm_of_apart {α : Type} {a b : Prop} [Decidable a] [Decidable b] (apart : a → ¬b)
    (f g : α → α) (old : α) :
    (if a then f (if b then g old else old) else if b then g old else old) =
      if b then g (if a then f old else old) else if a then f old else old := by
  by_cases own : a
  · simp only [if_pos own, if_neg (apart own)]
  · simp only [if_neg own]

theorem assign_comm {α : Type} {keyword keyword' word : String}
    (apart : lower keyword = word → lower keyword' ≠ word) (value value' old : Option α) :
    assign word keyword value (assign word keyword' value' old) =
      assign word keyword' value' (assign word keyword value old) :=
  ite_comm_of_apart apart value.or value'.or old

/-- Lines with different keywords can be swapped. -/
theorem value_set_comm {keyword keyword' : String} (differ : lower keyword ≠ lower keyword')
    (value value' : Option String) (stanza : Stanza) :
    ((stanza.set volumes keyword' value').value.set volumes keyword value).value =
      ((stanza.set volumes keyword value).value.set volumes keyword' value').value := by
  have apart (word : String) (own : lower keyword = word) : lower keyword' ≠ word := fun own' =>
    differ (own.trans own'.symm)
  simp only [value_set]
  congr 1
  · congr 1
    · exact assign_comm (apart "loader") ..
    · exact assign_comm (apart "volume") ..
    · exact assign_comm (apart "initrd") ..
    · exact ite_comm_of_apart (apart "ostype") (value.elim · (·.toList.head?))
        (value'.elim · (·.toList.head?)) _
    · exact assign_comm (apart "icon") ..
    · exact assign_comm (apart "graphics") ..
  · exact assign_comm (apart "options") ..
  · exact assign_comm (apart "firmware_bootnum") ..
  · exact ite_comm_of_apart (apart "loader") (· || value.any (· != ""))
      (· || value'.any (· != "")) _
  · exact ite_comm_of_apart (apart "disabled") (fun _ => false) (fun _ => false) _

/-- What a line sets, whether or not the block is disabled. -/
def setLine (volumes : List Volume) (stanza : Stanza) : Line → Stanza
  | [] => stanza
  | keyword :: values => (stanza.set volumes keyword values.head?).value

theorem setLine_comm {other : Line} (apart : line.keyword? ≠ other.keyword?) (stanza : Stanza) :
    (stanza.setLine volumes other).setLine volumes line =
      (stanza.setLine volumes line).setLine volumes other := by
  match line, other with
  | [], _ => rfl
  | _, [] => rfl
  | keyword :: values, keyword' :: values' =>
    have differ : lower keyword ≠ lower keyword' := fun same => apart (congrArg some same)
    exact value_set_comm differ values.head? values'.head? stanza

/-- A block that is never disabled takes up what all of its lines set. -/
theorem foldl_take_of_kept {lines : List Line} (on : stanza.enabled = true)
    (kept : ∀ line ∈ lines, disables line = false) :
    lines.foldl (take volumes) stanza = lines.foldl (setLine volumes) stanza := by
  induction lines generalizing stanza with
  | nil => rfl
  | cons line rest ih =>
    obtain ⟨goesOn, later⟩ := List.forall_mem_cons.mp kept
    have still : (stanza.take volumes line).enabled = true := enabled_take_of_kept on goesOn
    have first : stanza.take volumes line = stanza.setLine volumes line := by
      cases line with
      | nil => rfl
      | cons keyword values => rw [take, if_pos on, setLine]
    rw [List.foldl_cons, List.foldl_cons, ih still later, first]

/-! ## Blocks without submenus -/

/-- A line of a block that neither ends it nor opens a submenu. -/
def IsPlain (line : Line) : Prop :=
  line.head? ≠ some "\x7d" ∧ submenuTitle? line = none

instance (line : Line) : Decidable (IsPlain line) :=
  inferInstanceAs (Decidable (_ ∧ _))

theorem track_of_isPlain (plain : IsPlain line) : track false line = (.more, false) := by
  rw [track, if_neg plain.1, plain.2]
  rfl

theorem own_of_isPlain {lines : List Line} (plain : ∀ line ∈ lines, IsPlain line) :
    own false lines = lines := by
  induction lines with
  | nil => rfl
  | cons line rest ih =>
    obtain ⟨first, later⟩ := List.forall_mem_cons.mp plain
    rw [own, track_of_isPlain first, if_neg Bool.false_ne_true, ih later]

theorem value_feedAll_of_isPlain {lines : List Line} (outside : stanza.submenu = none)
    (plain : ∀ line ∈ lines, IsPlain line) :
    (stanza.feedAll volumes lines).value = lines.foldl (take volumes) stanza := by
  induction lines generalizing stanza with
  | nil => rfl
  | cons line rest ih =>
    obtain ⟨first, later⟩ := List.forall_mem_cons.mp plain
    have step := feed_spec volumes line stanza
    have fed : (stanza.feed volumes line).value.2 = stanza.take volumes line := by
      generalize (stanza.feed volumes line).value = fed at step
      cases step with
      | leaves sub reading => cases outside.symm.trans reading
      | stays sub reading => cases outside.symm.trans reading
      | ends _ brace => exact absurd brace first.1
      | enters title _ opens => cases opens.symm.trans first.2
      | sets => rfl
    have still : (stanza.take volumes line).submenu = none := by rw [submenu_take, outside]
    rw [value_feedAll_cons, fed, ih still later, List.foldl_cons]

theorem value_commit_of_disables {title : Option String} {selfVolume : Option Nat}
    {lines : List Line} (disabled : ∃ line ∈ own false lines, disables line = true) :
    ((afterLines volumes title selfVolume lines).commit volumes).value = none := by
  rw [value_commit, if_neg]
  rw [enabled_afterLines_iff]
  intro kept
  obtain ⟨line, member, disables⟩ := disabled
  exact Bool.false_ne_true ((kept line member).symm.trans disables)

end Stanza

/-! ## Lines in another order -/

/-- Lines of a block without submenus, and the same lines in another order, in which those with the
same keyword follow each other as before. -/
structure Reordering where
  lines : List Line
  /-- The lines in the other order. -/
  reordered : List Line
  /-- Where each line stood. -/
  place : Fin reordered.length ≃ Fin lines.length
  line_eq : ∀ i : Fin reordered.length, reordered[i] = lines[place i]
  order : ∀ i j : Fin reordered.length, i < j →
    reordered[i].keyword? = reordered[j].keyword? → place i < place j
  plain : ∀ line ∈ lines, Stanza.IsPlain line

namespace Reordering

variable (r : Reordering)

theorem filter_keyword_eq (word : Option String) :
    (r.lines.filter fun line => line.keyword? = word) =
      r.reordered.filter fun line => line.keyword? = word := by
  refine (filter_eq_of_place r.place r.line_eq _ fun i j lt first second => ?_).symm
  exact r.order i j lt ((of_decide_eq_true first).trans (of_decide_eq_true second).symm)

theorem mem_iff {line : Line} : line ∈ r.reordered ↔ line ∈ r.lines :=
  ⟨mem_of_filter_eq r.filter_keyword_eq,
    mem_of_filter_eq fun word => (r.filter_keyword_eq word).symm⟩

/-- The order of the lines in a block does not matter, as long as those with the same keyword follow
each other as before. -/
theorem commit_reordered (volumes : List Volume) (title : Option String) (selfVolume : Option Nat) :
    ((Stanza.afterLines volumes title selfVolume r.reordered).commit volumes).value =
      ((Stanza.afterLines volumes title selfVolume r.lines).commit volumes).value := by
  have plain : ∀ line ∈ r.reordered, Stanza.IsPlain line := fun line member =>
    r.plain line (r.mem_iff.mp member)
  by_cases disabled : ∃ line ∈ r.lines, Stanza.disables line = true
  · -- A block that is disabled makes no entry, wherever the line stands.
    obtain ⟨line, member, disables⟩ := disabled
    have member' : line ∈ r.reordered := r.mem_iff.mpr member
    rw [← Stanza.own_of_isPlain r.plain] at member
    rw [← Stanza.own_of_isPlain plain] at member'
    rw [Stanza.value_commit_of_disables ⟨line, member, disables⟩,
      Stanza.value_commit_of_disables ⟨line, member', disables⟩]
  · have kept : ∀ line ∈ r.lines, Stanza.disables line = false := by simpa using disabled
    have kept' : ∀ line ∈ r.reordered, Stanza.disables line = false := fun line member =>
      kept line (r.mem_iff.mp member)
    have same : Stanza.afterLines volumes title selfVolume r.reordered =
        Stanza.afterLines volumes title selfVolume r.lines := by
      rw [Stanza.afterLines, Stanza.afterLines, Stanza.value_feedAll_of_isPlain rfl plain,
        Stanza.value_feedAll_of_isPlain rfl r.plain, Stanza.foldl_take_of_kept rfl kept',
        Stanza.foldl_take_of_kept rfl kept]
      exact (foldl_eq_of_filter_eq r.filter_keyword_eq
        (fun _ _ => Stanza.setLine_comm) _).symm
    rw [same]

/-- A block whose first line is put behind the others. Two of its lines name a loader. -/
def optionsLast : Reordering where
  lines := [["options", "quiet"], ["loader", "x"], ["Loader", "y"], ["initrd", "z"]]
  reordered := [["loader", "x"], ["Loader", "y"], ["initrd", "z"], ["options", "quiet"]]
  place :=
    { toFun (i : Fin 4) := (i + 1 : Fin 4)
      invFun (i : Fin 4) := (i - 1 : Fin 4)
      left_inv := show ∀ i : Fin 4, i + 1 - 1 = i by decide
      right_inv := show ∀ i : Fin 4, i - 1 + 1 = i by decide }
  line_eq := by decide
  order := by decide +kernel
  plain := by decide

theorem optionsLast_commit :
    ((Stanza.afterLines [] (some "A") none optionsLast.reordered).commit []).value =
        ((Stanza.afterLines [] (some "A") none optionsLast.lines).commit []).value ∧
      ((Stanza.afterLines [] (some "A") none optionsLast.reordered).commit []).value =
        some
          { title := "Boot A", loader := some "y", initrd := some "z",
            options := some "quiet initrd=z" } :=
  ⟨optionsLast.commit_reordered [] (some "A") none, by decide +kernel⟩

end Reordering

end BootManager.Config
