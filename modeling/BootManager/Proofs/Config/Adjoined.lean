import BootManager.Proofs.Config.WrittenLine

/-!
# Quotations right after a word

A quote ends a bare word without any separator, and what it opens is read as a word of its own. It
is read as it is, with one exception: where a word may start, a number sign starts a comment even if
a quote is open, so a quotation that begins with one is lost with the rest of the line. The main
result is `Adjoined.ofText_adjoinedLaw`.
-/

namespace BootManager.Config.Line

/-! ## Reading on from an open quote -/

theorem scanWord_opening {c : Char} (single : c ≠ '"') (rest : List Char) :
    scanWord false ('"' :: c :: rest) = ⟨[], true, '"' :: c :: rest⟩ := by
  have alone : ∀ more, c :: rest ≠ '"' :: more := fun more same => single (List.cons.inj same).1
  rw [scanWord.eq_3 false '"' (c :: rest) fun more _ => alone more, if_pos rfl]
  rfl

theorem wordsFrom_comment_of_open (rest : List Char) : wordsFrom true ('#' :: rest) = [] := by
  rw [wordsFrom_start]
  rfl

/-- Where a quote was opened right before, all up to the next single quote is one word, unless it
begins with a number sign. -/
theorem wordsFrom_open {quoted rest : List Char} (nonempty : quoted ≠ [])
    (single : quoted.head? ≠ some '"') (noComment : quoted.head? ≠ some '#')
    (ended : EndsBefore rest) :
    wordsFrom true (escape quoted ++ '"' :: rest) = quoted :: wordsFrom false rest := by
  obtain ⟨c, more, rfl⟩ := List.exists_cons_of_ne_nil nonempty
  have noQuote : c ≠ '"' := fun same => single (congrArg some same)
  have plainStart : c ≠ '#' := fun same => noComment (congrArg some same)
  have spelled : escape (c :: more) = c :: escape more := by
    rw [escape, List.flatMap_cons, if_neg noQuote]
    rfl
  have read := scanWord_quoted (c :: more) ended
  rw [spelled, List.cons_append] at read ⊢
  rw [wordsFrom_start, if_pos rfl]
  dsimp only
  rw [if_neg plainStart, if_neg noQuote, read]
  rfl

/-- A bare word ends at a quote, which opens a quotation unless it is doubled. -/
theorem wordsFrom_bare_quote {text : List Char} (nonempty : text ≠ [])
    (plain : ∀ c ∈ text, IsPlain c) {c : Char} (single : c ≠ '"') (rest : List Char) :
    wordsFrom false (text ++ '"' :: c :: rest) =
      (Word.bare text nonempty plain).text :: wordsFrom true (c :: rest) := by
  have read := scanWord_plain_append plain ('"' :: c :: rest)
  rw [scanWord_opening single, List.append_nil] at read
  obtain ⟨d, text, rfl⟩ := List.exists_cons_of_ne_nil nonempty
  obtain ⟨apart, noQuote, noComment⟩ := plain d (List.mem_cons_self ..)
  have start : ¬ isSeparator d = true := fun separator => apart (isSeparator_iff.mp separator)
  rw [List.cons_append] at read ⊢
  rw [wordsFrom_eq, List.dropWhile_cons_of_neg start]
  dsimp only
  rw [if_neg noComment, if_neg noQuote, read]
  rfl

/-! ## Words with a quotation after them -/

theorem escape_of_no_quote {text : List Char} (noQuote : '"' ∉ text) : escape text = text := by
  induction text with
  | nil => rfl
  | cons c text ih =>
    have other : c ≠ '"' := fun same => noQuote (same ▸ List.mem_cons_self)
    have others := ih fun member => noQuote (List.mem_cons_of_mem c member)
    rw [escape, List.flatMap_cons, if_neg other, ← escape, others]
    rfl

/-- A bare word with a quotation right after it. -/
structure Adjoined where
  bare : List Char
  bare_ne_nil : bare ≠ []
  plain : ∀ c ∈ bare, IsPlain c
  quoted : List Char
  quoted_ne_nil : quoted ≠ []
  noQuote : '"' ∉ quoted

namespace Adjoined

/-- The text of a line that has nothing else. -/
def text (line : Adjoined) : String :=
  String.ofList (line.bare ++ '"' :: (line.quoted ++ ['"']))

/-- What the bare word says. -/
def word (line : Adjoined) : String :=
  String.ofList (Word.bare line.bare line.bare_ne_nil line.plain).text

/-- What the quotation says. -/
def quotation (line : Adjoined) : String :=
  String.ofList line.quoted

theorem wordsFrom_adjoined (line : Adjoined) :
    wordsFrom false (line.bare ++ '"' :: (line.quoted ++ ['"'])) =
      (Word.bare line.bare line.bare_ne_nil line.plain).text ::
        if line.quoted.head? = some '#' then [] else [line.quoted] := by
  obtain ⟨c, more, spelled⟩ := List.exists_cons_of_ne_nil line.quoted_ne_nil
  have single : line.quoted.head? ≠ some '"' := fun first =>
    line.noQuote (List.mem_of_head? first)
  have noQuote : c ≠ '"' := fun same => single (by rw [spelled, same]; rfl)
  have read := wordsFrom_bare_quote line.bare_ne_nil line.plain noQuote (more ++ ['"'])
  rw [← List.cons_append, ← spelled] at read
  rw [read]
  congr 1
  split
  next comment =>
    obtain rfl : c = '#' := by simpa [spelled] using comment
    rw [spelled, List.cons_append, wordsFrom_comment_of_open]
  next noComment =>
    have ended : EndsBefore [] := nofun
    have opened := wordsFrom_open line.quoted_ne_nil single noComment ended
    rwa [escape_of_no_quote line.noQuote, wordsFrom_nil] at opened

/-- What is read of a bare word with a quotation right after it. -/
structure AdjoinedLaw (line : Adjoined) : Prop where
  /-- The quotation is read as it is, unless it begins with a number sign. -/
  verbatim_iff : ofText line.text = [line.word, line.quotation] ↔ line.quoted.head? ≠ some '#'
  /-- Then it is lost. -/
  lost_iff : ofText line.text = [line.word] ↔ line.quoted.head? = some '#'

/-- A quotation right after a bare word is read as it is exactly if it does not begin with a number
sign. -/
theorem ofText_adjoinedLaw (line : Adjoined) : AdjoinedLaw line := by
  have read : ofText line.text =
      line.word :: if line.quoted.head? = some '#' then [] else [line.quotation] := by
    rw [ofText, text, String.toList_ofList, wordsFrom_adjoined]
    split
    next => rfl
    next => rfl
  by_cases comment : line.quoted.head? = some '#'
  · rw [if_pos comment] at read
    exact ⟨by simp [read, comment], by simp [read, comment]⟩
  · rw [if_neg comment] at read
    exact ⟨by simp [read, comment], by simp [read, comment]⟩

/-- The line `a"#b"`. -/
def quotedSign : Adjoined where
  bare := ['a']
  bare_ne_nil := by decide
  plain c member := by
    obtain rfl := List.mem_singleton.mp member
    decide
  quoted := ['#', 'b']
  quoted_ne_nil := by decide
  noQuote := by decide

/-- Its quotation is lost. -/
theorem quotedSign_not_verbatim :
    ofText quotedSign.text ≠ [quotedSign.word, quotedSign.quotation] := by
  have read := wordsFrom_adjoined quotedSign
  have comment : quotedSign.quoted.head? = some '#' := rfl
  rw [if_pos comment] at read
  rw [ofText, text, String.toList_ofList, read]
  exact fun same => List.cons_ne_nil _ _ (List.cons.inj same).2.symm

end Adjoined

end BootManager.Config.Line
