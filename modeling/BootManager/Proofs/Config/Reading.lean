import BootManager.Config.TextFile
import BootManager.Proofs.Text.Runs

/-!
# Reading a file line by line

A file can be asked for its next line, and for the words of its next line that has any, in any
order. Calls of both kinds together move over every line once and in order: what they answer is told
from the lines that are left (`Call.expected`), and so is what they use up (`Call.uses`). The main
result is `reading_law`.
-/

namespace BootManager.Config.TextFile

/-- What a file can be asked for. -/
inductive Call where
  | line
  | words
  deriving DecidableEq, Repr

/-- What a call answers. -/
inductive Answer where
  /-- A line, if there is one. -/
  | line (found : Option String)
  /-- The words of a line, or none. -/
  | words (found : Line)
  deriving DecidableEq, Repr

/-! ## Calls on a file -/

namespace Call

/-- The answer of a file. -/
def answer (file : TextFile) : Call → Answer
  | line => .line file.nextLine.1
  | words => .words file.nextWords.1

/-- The file after a call. -/
def next (file : TextFile) : Call → TextFile
  | line => file.nextLine.2
  | words => file.nextWords.2

end Call

/-- The file after calls. -/
def after (file : TextFile) (calls : List Call) : TextFile :=
  calls.foldl Call.next file

/-- The answers to calls, in order. -/
def answers : List Call → TextFile → List Answer
  | [], _ => []
  | call :: calls, file => call.answer file :: answers calls (call.next file)

/-- The characters between a place in a file and a later one. -/
def upTo (file later : TextFile) : List Char :=
  file.rest.take (file.rest.length - later.rest.length)

/-- The characters that each of the calls moves over. -/
def passed : List Call → TextFile → List (List Char)
  | [], _ => []
  | call :: calls, file => file.upTo (call.next file) :: passed calls (call.next file)

/-! ## Calls on lines -/

/-- Whether a line has no words. -/
def isBare (line : String) : Bool :=
  (Line.ofText line).isEmpty

namespace Call

/-- The answer when these lines are left. -/
def expected (left : List String) : Call → Answer
  | line => .line left.head?
  | words => .words ((left.dropWhile isBare).head?.elim [] Line.ofText)

/-- The lines that a call uses up when these are left. -/
def uses (left : List String) : Call → List String
  | line => left.take 1
  | words => left.takeWhile isBare ++ (left.dropWhile isBare).take 1

end Call

/-- The answers to calls, told from lines alone. -/
def expectedAnswers : List Call → List String → List Answer
  | [], _ => []
  | call :: calls, left =>
    call.expected left :: expectedAnswers calls (left.drop (call.uses left).length)

/-! ## One call -/

theorem isBreak_iff {c : Char} : isBreak c = true ↔ c = '\r' ∨ c = '\n' := by
  rw [isBreak, Bool.or_eq_true, beq_iff_eq, beq_iff_eq]

theorem lines_append (first : List Char) {rest : List Char}
    (stop : ∀ c ∈ rest.head?, isBreak c = true) :
    lines (first ++ rest) = lines first ++ lines rest := by
  rw [lines, Text.runs_append first stop, List.map_append]
  rfl

/-- Moving on in a file uses up some of its lines and stops at the end of a line. -/
structure Moves (file later : TextFile) (used : List String) : Prop where
  text : file.upTo later ++ later.rest = file.rest
  lines_upTo : lines (file.upTo later) = used
  stop : ∀ c ∈ later.rest.head?, isBreak c = true

namespace Moves

variable {file later last : TextFile} {used more : List String}

theorem of_append (taken : List Char) (text : taken ++ later.rest = file.rest)
    (lines_taken : lines taken = used) (stop : ∀ c ∈ later.rest.head?, isBreak c = true) :
    Moves file later used := by
  have same : file.upTo later = taken := by
    rw [upTo, ← text, List.length_append, Nat.add_sub_cancel, List.take_left]
  exact ⟨by rw [same, text], by rw [same, lines_taken], stop⟩

theorem lines_eq (moves : Moves file later used) :
    lines file.rest = used ++ lines later.rest := by
  rw [← moves.text, lines_append _ moves.stop, moves.lines_upTo]

theorem trans (moves : Moves file later used) (moves' : Moves later last more) :
    Moves file last (used ++ more) := by
  have text : file.upTo later ++ later.upTo last ++ last.rest = file.rest := by
    rw [List.append_assoc, moves'.text, moves.text]
  refine of_append _ text ?_ moves'.stop
  rw [lines_append, moves.lines_upTo, moves'.lines_upTo]
  intro c head
  -- The second part starts where the first one stopped.
  refine moves.stop c ?_
  rw [← moves'.text, List.head?_append, Option.mem_def.mp head]
  rfl

end Moves

/-- Asking for a line uses up the line that is answered. -/
theorem nextLine_moves (file : TextFile) :
    Moves file file.nextLine.2 file.nextLine.1.toList := by
  have cut := List.takeWhile_append_dropWhile (p := isBreak) (l := file.rest)
  have breaks : ∀ c ∈ file.rest.takeWhile isBreak, isBreak c = true :=
    List.all_eq_true.mp List.all_takeWhile
  unfold nextLine
  split
  next found =>
    refine .of_append (file.rest.takeWhile isBreak ++ []) ?_ ?_ (by simp)
    · rw [List.append_nil, ← found, cut]
    · rw [lines, Text.runs_append_of_cuts breaks]
      rfl
  next c rest found =>
    have start : isBreak c = false := by
      have := List.head?_dropWhile_not isBreak file.rest
      simpa [found] using this
    -- The breaks that were skipped have no runs, and the line is one.
    let line := (c :: rest).takeWhile (!isBreak ·)
    have inside : ∀ d ∈ line, isBreak d = false := by
      intro d member
      simpa using List.all_eq_true.mp List.all_takeWhile d member
    have nonempty : line ≠ [] := by simp [line, start]
    refine .of_append (file.rest.takeWhile isBreak ++ line) ?_ ?_ ?_
    · rw [List.append_assoc, List.takeWhile_append_dropWhile, ← found, cut]
    · rw [lines, Text.runs_append_of_cuts breaks, Text.runs_of_no_cut nonempty inside]
      rfl
    · intro d head
      have := List.head?_dropWhile_not (!isBreak ·) (c :: rest)
      rw [Option.mem_def.mp head] at this
      simpa using this

theorem nextLine_eq_head? (file : TextFile) : file.nextLine.1 = (lines file.rest).head? := by
  have left := (nextLine_moves file).lines_eq
  cases answer : file.nextLine.1 with
  | some line => rw [left, answer]; rfl
  | none =>
    have ended : file.nextLine.2.rest = [] := by
      unfold nextLine at answer ⊢
      split
      · rfl
      next found => simp [found] at answer
    rw [left, answer, ended]
    rfl

/-- Asking for words uses up the lines without words, and the line that the words are from. -/
theorem nextWords_spec (file : TextFile) :
    Moves file file.nextWords.2 (Call.words.uses (lines file.rest)) ∧
      file.nextWords.1 = ((lines file.rest).dropWhile isBare).head?.elim [] Line.ofText := by
  -- Every round that goes on has moved over one line without words.
  fun_induction nextWords file with
  | case1 file next read =>
    have moves : Moves file next [] := by simpa [read] using nextLine_moves file
    have ended : lines file.rest = [] := by
      rw [← List.head?_eq_none_iff, ← nextLine_eq_head?, read]
    rw [ended]
    exact ⟨moves, rfl⟩
  | case2 file line next read bare ih =>
    have moves : Moves file next [line] := by simpa [read] using nextLine_moves file
    have isBare : isBare line = true := by rw [TextFile.isBare, bare]; rfl
    obtain ⟨moves', words⟩ := ih
    rw [moves.lines_eq, Call.uses, List.singleton_append,
      List.takeWhile_cons_of_pos isBare, List.dropWhile_cons_of_pos isBare]
    exact ⟨moves.trans moves', words⟩
  | case3 file line next read nonempty =>
    have moves : Moves file next [line] := by simpa [read] using nextLine_moves file
    have notBare : ¬isBare line = true := by
      rw [isBare, List.isEmpty_iff]
      exact nonempty
    rw [moves.lines_eq, Call.uses, List.singleton_append,
      List.takeWhile_cons_of_neg notBare, List.dropWhile_cons_of_neg notBare]
    exact ⟨moves, rfl⟩

/-! ## Any call -/

theorem Call.next_moves (file : TextFile) (call : Call) :
    Moves file (call.next file) (call.uses (lines file.rest)) := by
  cases call with
  | line =>
    have moves := nextLine_moves file
    rw [nextLine_eq_head?, ← List.take_one] at moves
    exact moves
  | words => exact (nextWords_spec file).1

theorem Call.answer_eq (file : TextFile) (call : Call) :
    call.answer file = call.expected (lines file.rest) := by
  cases call with
  | line => exact congrArg Answer.line (nextLine_eq_head? file)
  | words => exact congrArg Answer.words (nextWords_spec file).2

/-- There are no words only if no line is left that has any. -/
theorem lines_of_nextWords_nil {file : TextFile} (none : file.nextWords.1 = []) :
    lines file.nextWords.2.rest = [] := by
  obtain ⟨moves, words⟩ := nextWords_spec file
  have bare : (lines file.rest).dropWhile isBare = [] := by
    cases found : (lines file.rest).dropWhile isBare with
    | nil => rfl
    | cons line rest =>
      have := List.head?_dropWhile_not isBare (lines file.rest)
      rw [words, found] at none
      rw [found] at this
      simp_all [isBare]
  have all := List.takeWhile_append_dropWhile (p := isBare) (l := lines file.rest)
  rw [bare, List.append_nil] at all
  have left := moves.lines_eq
  rw [Call.uses, bare, all, List.take_nil, List.append_nil] at left
  exact List.self_eq_append_right.mp left

/-! ## Any number of calls -/

@[simp] theorem after_cons (file : TextFile) (call : Call) (calls : List Call) :
    file.after (call :: calls) = (call.next file).after calls := rfl

theorem flatten_passed (file : TextFile) (calls : List Call) :
    (passed calls file).flatten ++ (file.after calls).rest = file.rest := by
  induction calls generalizing file with
  | nil => rfl
  | cons call calls ih =>
    rw [passed, List.flatten_cons, after_cons, List.append_assoc, ih]
    exact (call.next_moves file).text

theorem flatMap_lines_passed (file : TextFile) (calls : List Call) :
    (passed calls file).flatMap lines ++ lines (file.after calls).rest = lines file.rest := by
  induction calls generalizing file with
  | nil => rfl
  | cons call calls ih =>
    have moves := call.next_moves file
    rw [passed, List.flatMap_cons, after_cons, List.append_assoc, ih, moves.lines_upTo]
    exact moves.lines_eq.symm

/-- What a file answers depends on its lines alone. -/
theorem answers_eq (file : TextFile) (calls : List Call) :
    answers calls file = expectedAnswers calls (lines file.rest) := by
  induction calls generalizing file with
  | nil => rfl
  | cons call calls ih =>
    have moves := call.next_moves file
    have left : (lines file.rest).drop (call.uses (lines file.rest)).length =
        lines (call.next file).rest := by
      conv => lhs; arg 2; rw [moves.lines_eq]
      exact List.drop_left
    rw [answers, expectedAnswers, ih, call.answer_eq, left]

theorem lines_after_of_ended {file : TextFile} (ended : lines file.rest = []) (calls : List Call) :
    lines (file.after calls).rest = [] := by
  have all := flatMap_lines_passed file calls
  rw [ended] at all
  exact (List.append_eq_nil_iff.mp all).2

/-- How a file is read when some calls were made. -/
structure ReadingLaw (file : TextFile) (calls : List Call) : Prop where
  /-- Carriage returns and line feeds end lines, and no other characters do. -/
  breaks : ∀ c, isBreak c = true ↔ c = '\r' ∨ c = '\n'
  /-- The calls moved over the text up to where the file is now. -/
  text : (passed calls file).flatten ++ (file.after calls).rest = file.rest
  /-- The lines that they moved over and those that are left are all lines of the text. -/
  lines : (passed calls file).flatMap lines ++ lines (file.after calls).rest = lines file.rest
  /-- One more call uses up the next line, or all lines up to the first one that has words. -/
  uses : ∀ call : Call, TextFile.lines ((file.after calls).upTo (call.next (file.after calls))) =
    call.uses (TextFile.lines (file.after calls).rest)
  /-- It answers the line, or the words of the last line that it uses up. -/
  answers : ∀ call : Call, call.answer (file.after calls) =
    call.expected (TextFile.lines (file.after calls).rest)
  /-- When no line is left, there never is one again. -/
  ended : TextFile.lines (file.after calls).rest = [] → ∀ more : List Call,
    ((file.after calls).after more).nextLine.1 = none ∧
      ((file.after calls).after more).nextWords.1 = []
  /-- There are no words only if no line is left after that. -/
  words : (file.after calls).nextWords.1 = [] →
    TextFile.lines (file.after calls).nextWords.2.rest = []

/-- However a file is read, no line is lost or repeated. -/
theorem reading_law (file : TextFile) (calls : List Call) : ReadingLaw file calls where
  breaks _ := isBreak_iff
  text := flatten_passed file calls
  lines := flatMap_lines_passed file calls
  uses call := (call.next_moves (file.after calls)).lines_upTo
  answers call := call.answer_eq (file.after calls)
  ended none more := by
    have left := lines_after_of_ended none more
    rw [nextLine_eq_head?, (nextWords_spec _).2, left]
    exact ⟨rfl, rfl⟩
  words := lines_of_nextWords_nil

end BootManager.Config.TextFile
