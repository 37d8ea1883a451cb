import BootManager.Bytes
import BootManager.Config.Line
import BootManager.Text.Utf16

/-!
# Configuration files as text

A file is decoded once. Its encoding is told by a byte order mark, or by the zero bytes that plain
text has in UTF-16; everything else is read one byte per character. Lines end at carriage returns
and line feeds, and empty lines do not count.
-/

namespace BootManager.Config

/-- The encoding of a file. -/
inductive Encoding where
  /-- One byte per character. -/
  | latin1
  /-- Marked as UTF-8, read one byte per character all the same. -/
  | utf8
  /-- UTF-16, low byte first. -/
  | utf16
  deriving DecidableEq, Repr

namespace Encoding

/-- The encoding of a file, with the length of the mark to skip. -/
def detect : Bytes → Encoding × Nat
  | 0xFF :: 0xFE :: _ :: _ :: _ => (utf16, 2)
  | 0xEF :: 0xBB :: 0xBF :: _ :: _ => (utf8, 3)
  | _ :: 0 :: _ :: 0 :: _ => (utf16, 0)
  | _ => (latin1, 0)

/-- The characters of a byte sequence. -/
def decode : Encoding → Bytes → List Char
  | utf16, bytes => Text.Utf16.decode (Text.Utf16.unitsOfBytes bytes)
  | _, bytes => bytes.map fun b => Char.ofNat b.toNat

end Encoding

/-- A file being read: its encoding and the characters that were not read yet. -/
structure TextFile where
  encoding : Encoding
  rest : List Char
  deriving DecidableEq, Repr

namespace TextFile

/-- How many bytes of a file count. -/
def sizeLimit : Nat := 128 * 1024

/-- Decodes a file. -/
def ofBytes (bytes : Bytes) : TextFile :=
  let start := bytes.take sizeLimit
  let (encoding, skip) := Encoding.detect start
  ⟨encoding, encoding.decode (start.drop skip)⟩

/-- Whether a character ends a line. -/
def isBreak (c : Char) : Bool :=
  c == '\r' || c == '\n'

/-- The next line that is not empty, and what comes after it. -/
def nextLine (file : TextFile) : Option String × TextFile :=
  match file.rest.dropWhile isBreak with
  | [] => (none, { file with rest := [] })
  | c :: rest =>
    (some (String.ofList ((c :: rest).takeWhile (!isBreak ·))),
      { file with rest := (c :: rest).dropWhile (!isBreak ·) })

theorem length_rest_nextLine {file next : TextFile} {line : String}
    (read : file.nextLine = (some line, next)) : next.rest.length < file.rest.length := by
  unfold nextLine at read
  split at read
  · simp at read
  next c rest found =>
    have notBreak : isBreak c = false := by
      have := List.head?_dropWhile_not isBreak file.rest
      simpa [found] using this
    have skipped := Text.length_dropWhile_le isBreak file.rest
    have dropped := Text.length_dropWhile_le (!isBreak ·) rest
    obtain ⟨-, rfl⟩ := Prod.mk.inj read
    simp only [found, List.length_cons, List.dropWhile_cons, notBreak, Bool.not_false, if_true] at *
    omega

/-- The words of the next line that has any, and what comes after it; no words at the end. -/
def nextWords (file : TextFile) : Line × TextFile :=
  match _read : file.nextLine with
  | (none, next) => ([], next)
  | (some line, next) =>
    match Line.ofText line with
    | [] => nextWords next
    | words => (words, next)
termination_by file.rest.length
decreasing_by exact length_rest_nextLine _read

/-- The lines of a text: its maximal runs of characters that are not line breaks. -/
def lines (cs : List Char) : List String :=
  (Text.runs isBreak cs).map String.ofList

/-- The lines that have words, as their words. -/
def wordLines (file : TextFile) : List Line :=
  ((lines file.rest).map Line.ofText).filter fun words => !words.isEmpty

end TextFile

end BootManager.Config
