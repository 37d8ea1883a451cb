import BootManager.Config.Line

/-!
# Lines as they are written

A word is written bare if it has only plain characters, and otherwise between double quotes, where
each quote in it stands twice. Words are kept apart by separators, and a comment may follow the last
one. Reading a line that was written in this way finds its words, and nothing else.
-/

namespace BootManager.Config.Line

/-- The characters that keep words apart. -/
def separators : List Char :=
  [' ', '\t', '=', ',']

/-- Whether a character has no meaning of its own in a line, so that it needs no quotes. -/
def IsPlain (c : Char) : Prop :=
  c ∉ separators ∧ c ≠ '"' ∧ c ≠ '#'

instance : DecidablePred IsPlain := fun c =>
  inferInstanceAs (Decidable (c ∉ separators ∧ c ≠ '"' ∧ c ≠ '#'))

/-- A word in the form in which it is written. -/
inductive Word where
  /-- Characters as they are. -/
  | bare (text : List Char) (nonempty : text ≠ []) (plain : ∀ c ∈ text, IsPlain c)
  /-- Any characters between quotes. -/
  | quoted (text : List Char)

/-- A text between quotes, with every quote in it written twice. -/
def escape (text : List Char) : List Char :=
  text.flatMap fun c => if c = '"' then ['"', '"'] else [c]

namespace Word

/-- The characters that a word is written with. -/
def written : Word → List Char
  | bare text _ _ => text
  | quoted text => '"' :: (escape text ++ ['"'])

/-- What a word says. A slash that is not quoted says a backslash. -/
def text : Word → List Char
  | bare text _ _ => text.map fun c => if c = '/' then '\\' else c
  | quoted text => text

end Word

/-- Any number of separators. -/
structure Gap where
  chars : List Char
  separate : ∀ c ∈ chars, c ∈ separators

/-- A line as it is written. -/
structure Written where
  /-- Every word with the separators in front of it. -/
  words : List (Gap × Word)
  /-- Only the first word may do without separators in front of it. -/
  apart : ∀ spaced ∈ words.tail, spaced.1.chars ≠ []
  /-- The separators after the last word. -/
  trail : Gap
  /-- What follows the number sign of a comment, if there is one. -/
  comment : Option (List Char)

namespace Written

/-- The characters of words with the separators in front of them. -/
def spell (words : List (Gap × Word)) : List Char :=
  words.flatMap fun spaced => spaced.1.chars ++ spaced.2.written

/-- What stands after the last word. -/
def ending (line : Written) : List Char :=
  line.trail.chars ++ (line.comment.map ('#' :: ·)).getD []

/-- The text of a line. -/
def text (line : Written) : String :=
  String.ofList (spell line.words ++ line.ending)

end Written

/-! ## Characters -/

theorem isSeparator_iff {c : Char} : isSeparator c = true ↔ c ∈ separators := by
  simp [isSeparator, separators, or_assoc]

theorem endsWord_iff {c : Char} : endsWord c = true ↔ c ∈ separators ∨ c = '#' := by
  simp [endsWord, isSeparator_iff]

theorem IsPlain.endsWord {c : Char} (plain : IsPlain c) : endsWord c = false := by
  rw [← Bool.not_eq_true, endsWord_iff]
  exact fun ends => ends.elim plain.1 plain.2.2

theorem ne_quote_of_endsWord {c : Char} (ends : endsWord c = true) : c ≠ '"' := by
  rintro rfl
  exact absurd ends (by decide)

/-- A word may end in front of these characters. -/
def EndsBefore (rest : List Char) : Prop :=
  ∀ c ∈ rest.head?, endsWord c = true

theorem endsBefore_append {first rest : List Char} (ends : ∀ c ∈ first, endsWord c = true)
    (before : first = [] → EndsBefore rest) : EndsBefore (first ++ rest) := by
  cases first with
  | nil => exact before rfl
  | cons c first =>
    intro d head
    obtain rfl : c = d := by simpa using head
    exact ends c (List.mem_cons_self ..)

theorem Gap.endsWord (gap : Gap) : ∀ c ∈ gap.chars, endsWord c = true :=
  fun c member => endsWord_iff.mpr (.inl (gap.separate c member))

/-! ## Reading one word -/

theorem scanWord_of_endsBefore {rest : List Char} (ended : EndsBefore rest) :
    scanWord false rest = ⟨[], false, rest⟩ := by
  cases rest with
  | nil => rfl
  | cons c rest =>
    have ends : endsWord c = true := ended c rfl
    have noQuote := ne_quote_of_endsWord ends
    rw [scanWord.eq_3 false c rest fun _ quote _ => noQuote quote, if_neg noQuote,
      if_pos ⟨rfl, ends⟩]

/-- Plain characters are read as they come, whatever is read after them. -/
theorem scanWord_plain_append {text : List Char} (plain : ∀ c ∈ text, IsPlain c)
    (rest : List Char) :
    scanWord false (text ++ rest) =
      { scanWord false rest with
        text :=
          (text.map fun c => if c = '/' then '\\' else c) ++ (scanWord false rest).text } := by
  induction text with
  | nil => rfl
  | cons c text ih =>
    have first := plain c (List.mem_cons_self ..)
    have others := ih fun d member => plain d (List.mem_cons_of_mem c member)
    have goesOn : ¬ (false = false ∧ endsWord c = true) := by simp [first.endsWord]
    rw [List.cons_append, scanWord.eq_3 false c _ fun _ quote _ => first.2.1 quote,
      if_neg first.2.1, if_neg goesOn, others]
    simp [Scan.push, readChar]

theorem scanWord_bare {text rest : List Char} (plain : ∀ c ∈ text, IsPlain c)
    (ended : EndsBefore rest) :
    scanWord false (text ++ rest) =
      ⟨text.map fun c => if c = '/' then '\\' else c, false, rest⟩ := by
  rw [scanWord_plain_append plain, scanWord_of_endsBefore ended, List.append_nil]

theorem scanWord_quoted (text : List Char) {rest : List Char} (ended : EndsBefore rest) :
    scanWord true (escape text ++ '"' :: rest) = ⟨text, false, '"' :: rest⟩ := by
  induction text with
  | nil =>
    have alone : ∀ more, rest ≠ '"' :: more := by
      rintro more rfl
      exact ne_quote_of_endsWord (ended '"' rfl) rfl
    rw [escape, List.flatMap_nil, List.nil_append,
      scanWord.eq_3 true '"' rest fun more _ => alone more, if_pos rfl]
    rfl
  | cons c text ih =>
    have step : escape (c :: text) = (if c = '"' then ['"', '"'] else [c]) ++ escape text := rfl
    by_cases quote : c = '"'
    · subst quote
      rw [step, if_pos rfl, List.append_assoc]
      simp only [List.cons_append, List.nil_append, scanWord, ih]
      rfl
    · rw [step, if_neg quote, List.append_assoc, List.singleton_append,
        scanWord.eq_3 true c _ fun _ same _ => quote same, if_neg quote, if_neg (by simp), ih]
      simp [Scan.push, readChar]

/-! ## Reading a line -/

/-- The words of a line from a word that was just read. -/
def wordsAfter (scan : Scan) : List (List Char) :=
  match scan.rest with
  | [] => [scan.text]
  | c :: rest => if c = '#' then [scan.text] else scan.text :: wordsFrom scan.quoted rest

theorem wordsFrom_start (quoted : Bool) (cs : List Char) : wordsFrom quoted cs =
    match (if quoted then cs else cs.dropWhile isSeparator) with
    | [] => []
    | c :: body =>
      if c = '#' then []
      else wordsAfter
        (if c = '"' then scanWord (!quoted) body else scanWord quoted (c :: body)) := by
  rw [wordsFrom.eq_def]
  split
  next start => simp only [start]
  next c body start =>
    simp only [start]
    by_cases comment : c = '#'
    · rw [if_pos comment, if_pos comment]
    · rw [if_neg comment, if_neg comment]
      unfold wordsAfter
      split <;> simp_all

theorem wordsFrom_eq (cs : List Char) : wordsFrom false cs =
    match cs.dropWhile isSeparator with
    | [] => []
    | c :: body =>
      if c = '#' then []
      else wordsAfter (if c = '"' then scanWord true body else scanWord false (c :: body)) :=
  wordsFrom_start false cs

/-- Separators in front of a word do not count. -/
theorem wordsFrom_append {gap : List Char} (separate : ∀ c ∈ gap, c ∈ separators)
    (rest : List Char) : wordsFrom false (gap ++ rest) = wordsFrom false rest := by
  have skipped : (gap ++ rest).dropWhile isSeparator = rest.dropWhile isSeparator :=
    List.dropWhile_append_of_pos fun c member => isSeparator_iff.mpr (separate c member)
  rw [wordsFrom_eq, wordsFrom_eq rest, skipped]

@[simp] theorem wordsFrom_nil : wordsFrom false [] = [] := by
  simp [wordsFrom_eq]

/-- The rest of a line is not read from a number sign on. -/
@[simp] theorem wordsFrom_comment (comment : List Char) :
    wordsFrom false ('#' :: comment) = [] := by
  simp [wordsFrom_eq, isSeparator]

theorem wordsAfter_of_endsBefore (text : List Char) {rest : List Char} (ended : EndsBefore rest) :
    wordsAfter ⟨text, false, rest⟩ = text :: wordsFrom false rest := by
  cases rest with
  | nil => simp [wordsAfter]
  | cons c rest =>
    by_cases comment : c = '#'
    · subst comment
      simp [wordsAfter]
    · have separator : c ∈ separators := (endsWord_iff.mp (ended c rfl)).resolve_right comment
      have separate : ∀ d ∈ [c], d ∈ separators := by simpa using separator
      have skipped : wordsFrom false (c :: rest) = wordsFrom false rest :=
        wordsFrom_append separate rest
      simp [wordsAfter, comment, skipped]

/-- A word that has ended is read, and reading goes on after it. -/
theorem wordsFrom_word (word : Word) {rest : List Char} (ended : EndsBefore rest) :
    wordsFrom false (word.written ++ rest) = word.text :: wordsFrom false rest := by
  cases word with
  | bare text nonempty plain =>
    obtain ⟨c, text, rfl⟩ := List.exists_cons_of_ne_nil nonempty
    obtain ⟨apart, noQuote, noComment⟩ := plain c (List.mem_cons_self ..)
    have start : ¬ isSeparator c = true := fun separator => apart (isSeparator_iff.mp separator)
    have read := scanWord_bare plain ended
    rw [Word.written, wordsFrom_eq, List.cons_append, List.dropWhile_cons_of_neg start]
    dsimp only
    rw [if_neg noComment, if_neg noQuote, ← List.cons_append, read,
      wordsAfter_of_endsBefore _ ended]
    rfl
  | quoted text =>
    have start : ¬ isSeparator '"' = true := by decide
    have read := scanWord_quoted text ended
    rw [Word.written, wordsFrom_eq, List.cons_append, List.append_assoc, List.singleton_append,
      List.dropWhile_cons_of_neg start]
    dsimp only
    rw [if_neg (by decide), if_pos rfl, read]
    rfl

namespace Written

theorem endsBefore_ending (line : Written) : EndsBefore line.ending := by
  refine endsBefore_append line.trail.endsWord fun _ => ?_
  cases line.comment with
  | none =>
    intro c head
    cases head
  | some comment =>
    intro c head
    obtain rfl : '#' = c := by simpa using head
    rfl

theorem spell_cons_append (spaced : Gap × Word) (words : List (Gap × Word)) (rest : List Char) :
    spell (spaced :: words) ++ rest =
      spaced.1.chars ++ (spaced.2.written ++ (spell words ++ rest)) := by
  simp [spell]

/-- A word may end in front of words that have separators before them. -/
theorem endsBefore_spell {words : List (Gap × Word)}
    (apart : ∀ spaced ∈ words, spaced.1.chars ≠ []) {rest : List Char} (ended : EndsBefore rest) :
    EndsBefore (spell words ++ rest) := by
  cases words with
  | nil => exact ended
  | cons spaced words =>
    rw [spell_cons_append]
    exact endsBefore_append spaced.1.endsWord fun none =>
      absurd none (apart spaced (List.mem_cons_self ..))

theorem wordsFrom_spell {words : List (Gap × Word)}
    (apart : ∀ spaced ∈ words.tail, spaced.1.chars ≠ []) {rest : List Char}
    (ended : EndsBefore rest) :
    wordsFrom false (spell words ++ rest) =
      words.map (fun spaced => spaced.2.text) ++ wordsFrom false rest := by
  induction words with
  | nil => rfl
  | cons spaced words ih =>
    have next : EndsBefore (spell words ++ rest) := endsBefore_spell apart ended
    have others := ih fun spaced member => apart spaced (List.mem_of_mem_tail member)
    rw [spell_cons_append, wordsFrom_append spaced.1.separate, wordsFrom_word spaced.2 next, others]
    rfl

theorem wordsFrom_ending (line : Written) : wordsFrom false line.ending = [] := by
  rw [ending, wordsFrom_append line.trail.separate]
  cases line.comment <;> simp

/-- Reading a line finds the words that it was written with, in order. What is quoted is found as it
is, and in all else a slash is found as a backslash. -/
theorem ofText_written (line : Written) :
    ofText line.text = line.words.map fun spaced => String.ofList spaced.2.text := by
  rw [ofText, text, String.toList_ofList, wordsFrom_spell line.apart line.endsBefore_ending,
    line.wordsFrom_ending]
  simp

/-- A line with a bare word, two quoted ones, of which one is empty, and a comment. -/
def scanLine : Written where
  words :=
    [(⟨['\t', ' '], by simp [separators]⟩,
        .bare ['a', '/', 'b'] (List.cons_ne_nil _ _) (by simp [IsPlain, separators])),
      (⟨[' ', '=', '\t'], by simp [separators]⟩, .quoted ['"', ',', '/', '#']),
      (⟨[','], by simp [separators]⟩, .quoted [])]
  apart := by simp
  trail := ⟨['\t'], by simp [separators]⟩
  comment := some [' ', '"']

theorem scanLine_ofText : scanLine.text = "\t a/b =\t\"\"\",/#\",\"\"\t# \"" ∧
    ofText scanLine.text = ["a\\b", "\",/#", ""] :=
  ⟨rfl, ofText_written scanLine⟩

end Written

end BootManager.Config.Line
