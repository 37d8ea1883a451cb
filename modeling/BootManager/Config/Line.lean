import BootManager.Text.Blank

/-!
# Words of a line

A line is cut into words at blanks, tabs, `=` and `,`; `#` starts a comment. Between double quotes
none of these is special, and two quotes in a row stand for one. Outside of quotes a slash is read
as a backslash. Quoting never reaches past the end of a line.
-/

namespace BootManager.Config

/-- The words of a line, the keyword first. -/
abbrev Line := List String

namespace Line

/-- Whether a character separates words outside of quotes. -/
def isSeparator (c : Char) : Bool :=
  c == ' ' || c == '\t' || c == '=' || c == ','

/-- Whether a character ends a word outside of quotes. -/
def endsWord (c : Char) : Bool :=
  isSeparator c || c == '#'

/-- How a character of a word is read. -/
def readChar (quoted : Bool) (c : Char) : Char :=
  if c = '/' ∧ quoted = false then '\\' else c

/-- A word that was read: its text, whether a quote is open after it, and the characters from the
one that ended it. -/
structure Scan where
  text : List Char
  quoted : Bool
  rest : List Char
  deriving DecidableEq, Repr

/-- Puts a character before a word. -/
def Scan.push (c : Char) (scan : Scan) : Scan :=
  { scan with text := c :: scan.text }

/-- Reads one word. A quote that is not doubled ends it, and opens or closes a quotation. -/
def scanWord (quoted : Bool) : List Char → Scan
  | [] => ⟨[], quoted, []⟩
  | '"' :: '"' :: rest => (scanWord quoted rest).push '"'
  | c :: rest =>
    if c = '"' then ⟨[], !quoted, c :: rest⟩
    else if quoted = false ∧ endsWord c = true then ⟨[], quoted, c :: rest⟩
    else (scanWord quoted rest).push (readChar quoted c)

theorem length_rest_scanWord (quoted : Bool) (cs : List Char) :
    (scanWord quoted cs).rest.length ≤ cs.length := by
  fun_induction scanWord quoted cs with
  | case1 => simp
  | case2 rest ih => simp only [Scan.push, List.length_cons]; omega
  | case3 c rest => simp
  | case4 c rest => simp
  | case5 c rest _ _ _ ih => simp only [Scan.push, List.length_cons]; omega

/-- The words from a place where a word may start. -/
def wordsFrom (quoted : Bool) (cs : List Char) : List (List Char) :=
  match _start : (if quoted then cs else cs.dropWhile isSeparator) with
  | [] => []
  | c :: body =>
    if c = '#' then []
    else
      let scan := if c = '"' then scanWord (!quoted) body else scanWord quoted (c :: body)
      match _next : scan.rest with
      | [] => [scan.text]
      | d :: rest =>
        if d = '#' then [scan.text] else scan.text :: wordsFrom scan.quoted rest
termination_by cs.length
decreasing_by
  have skipped : body.length + 1 ≤ cs.length := by
    have := congrArg List.length _start
    have := Text.length_dropWhile_le isSeparator cs
    split at _start <;> simp_all
  have read : scan.rest.length ≤ body.length + 1 := by
    simp only [scan]
    split
    · exact Nat.le_succ_of_le (length_rest_scanWord _ _)
    · exact length_rest_scanWord _ _
  have : rest.length + 1 = scan.rest.length := by simp [_next]
  omega

/-- Cuts a line into its words. -/
def ofText (s : String) : Line :=
  (wordsFrom false s.toList).map String.ofList

end Line

end BootManager.Config
