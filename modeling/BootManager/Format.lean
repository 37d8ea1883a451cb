import BootManager.Bytes

/-!
# Binary formats

A format says how a value is written as bytes and read back from the front of a byte sequence.
Formats are put together from those of their parts. A format is `Lossless` if reading finds what was
written, whatever comes after it, and `Steady` if what was read does not depend on bytes that come
later; both carry over to every way of putting formats together.
-/

namespace BootManager

/-- How values are written, and read from the front of bytes with the rest of them. -/
structure Format (α : Type) where
  encode : α → Bytes
  decode : Bytes → Option (α × Bytes)

namespace Format

variable {α β κ : Type}

/-- Reading finds every value that was written, and stops at its end. -/
def Lossless (f : Format α) : Prop :=
  ∀ a rest, f.decode (f.encode a ++ rest) = some (a, rest)

/-- A value is read the same way when more bytes follow. -/
def Steady (f : Format α) : Prop :=
  ∀ bytes a rest more, f.decode bytes = some (a, rest) →
    f.decode (bytes ++ more) = some (a, rest ++ more)

/-- Numbers of at most seven bits to a byte, the lowest first; a byte of 128 or more has more after
it. At most `count` bytes are read. -/
def readVarint : Nat → Bytes → Option (Nat × Bytes)
  | 0, _ => none
  | _ + 1, [] => none
  | count + 1, b :: rest =>
    if b < 128 then some (b.toNat, rest)
    else (readVarint count rest).map fun read => (b.toNat % 128 + 128 * read.1, read.2)

/-- Writes a number seven bits to a byte. -/
def writeVarint (n : Nat) : Bytes :=
  if n < 128 then [UInt8.ofNat n] else UInt8.ofNat (n % 128 + 128) :: writeVarint (n / 128)

/-- Numbers below `2 ^ width`. -/
def varint (width : Nat) : Format Nat where
  encode := writeVarint
  decode bytes := (readVarint ((width + 6) / 7) bytes).filter fun read => read.1 < 1 <<< width

/-- Reads values of `f` through `of`, which refuses those that stand for nothing, and writes them
through `raw`. -/
def refine (f : Format α) (of : α → Option β) (raw : β → α) : Format β where
  encode b := f.encode (raw b)
  decode bytes := (f.decode bytes).bind fun read => (of read.1).map fun b => (b, read.2)

/-- Reads and writes values of `f` in another form. -/
def convert (f : Format α) (of : α → β) (raw : β → α) : Format β :=
  f.refine (fun a => some (of a)) raw

/-- One value after another. -/
def pair (f : Format α) (g : Format β) : Format (α × β) where
  encode ab := f.encode ab.1 ++ g.encode ab.2
  decode bytes :=
    (f.decode bytes).bind fun first =>
      (g.decode first.2).map fun second => ((first.1, second.1), second.2)

/-- Writes values one after another. -/
def encodeAll (f : Format α) (as : List α) : Bytes :=
  as.flatMap f.encode

/-- Reads a number of values one after another. -/
def decodeMany (f : Format α) : Nat → Bytes → Option (List α × Bytes)
  | 0, bytes => some ([], bytes)
  | count + 1, bytes =>
    match f.decode bytes with
    | none => none
    | some (a, rest) => (decodeMany f count rest).map fun read => (a :: read.1, read.2)

/-- A list after its length. -/
def list (f : Format α) : Format (List α) where
  encode as := writeVarint as.length ++ f.encodeAll as
  decode bytes := ((varint 64).decode bytes).bind fun length => f.decodeMany length.1 length.2

/-- A number of values without a length. -/
def vector (f : Format α) (n : Nat) : Format (Vector α n) where
  encode v := f.encodeAll v.toList
  decode bytes :=
    (f.decodeMany n bytes).bind fun read =>
      if size : read.1.length = n then some (⟨read.1.toArray, by simpa using size⟩, read.2)
      else none

/-- One byte. -/
def byte : Format UInt8 where
  encode b := [b]
  decode
    | [] => none
    | b :: rest => some (b, rest)

/-- A truth value, in one byte that is 0 or 1. -/
def bool : Format Bool :=
  byte.refine (fun b => if b = 0 then some false else if b = 1 then some true else none)
    fun b => if b then 1 else 0

/-- A value that may be missing, after a byte that is 0 or 1. -/
def option (f : Format α) : Format (Option α) where
  encode
    | none => bool.encode false
    | some a => bool.encode true ++ f.encode a
  decode bytes :=
    (bool.decode bytes).bind fun present =>
      if present.1 then (f.decode present.2).map fun read => (some read.1, read.2)
      else some (none, present.2)

/-- An unsigned 32-bit number. -/
def uint32 : Format UInt32 :=
  (varint 32).convert UInt32.ofNat UInt32.toNat

/-- The numbers that stand for signed ones: 0, -1, 1, -2, 2 and so on. -/
def ofZigzag (n : Nat) : Int :=
  if n % 2 = 0 then n / 2 else -(n / 2) - 1

/-- The number that stands for a signed one. -/
def toZigzag (i : Int) : Nat :=
  if 0 ≤ i then 2 * i.toNat else 2 * (-i).toNat - 1

/-- A signed 32-bit number. -/
def int32 : Format Int32 :=
  (varint 32).convert (fun n => Int32.ofInt (ofZigzag n)) fun i => toZigzag i.toInt

/-- The bytes of a text. -/
def utf8 (s : String) : Bytes :=
  s.toUTF8.data.toList

/-- The text of bytes. -/
def ofUtf8? (bytes : Bytes) : Option String :=
  String.fromUTF8? ⟨bytes.toArray⟩

/-- A text, after the number of its bytes. -/
def text : Format String :=
  (list byte).refine ofUtf8? utf8

/-- How many bytes a character has at most. -/
def maxCharBytes : Nat := 4

/-- A character, as a text of at most four bytes of which the first character counts. -/
def char : Format Char :=
  (list byte).refine
    (fun bytes =>
      if bytes.length ≤ maxCharBytes then (ofUtf8? bytes).bind fun s => s.toList.head? else none)
    fun c => utf8 (String.singleton c)

/-- One of a list of values, as its place. -/
def choice [BEq α] (all : List α) : Format α :=
  (varint 32).refine (fun place => all[place]?) fun a => all.findIdx (· == a)

/-! ## Laws -/

theorem Lossless.refine {f : Format α} (h : f.Lossless) {of : α → Option β} {raw : β → α}
    (back : ∀ b, of (raw b) = some b) : (f.refine of raw).Lossless := by
  intro b rest
  simp [Format.refine, h (raw b) rest, back]

theorem Steady.refine {f : Format α} (h : f.Steady) (of : α → Option β) (raw : β → α) :
    (f.refine of raw).Steady := by
  intro bytes b rest more read
  simp only [Format.refine, Option.bind_eq_some_iff, Option.map_eq_some_iff, Prod.mk.injEq] at read
  obtain ⟨⟨a, rest'⟩, found, b', accepted, rfl, rfl⟩ := read
  simp [Format.refine, h _ _ _ more found, accepted]

theorem Lossless.pair {f : Format α} {g : Format β} (hf : f.Lossless) (hg : g.Lossless) :
    (f.pair g).Lossless := by
  rintro ⟨a, b⟩ rest
  simp [Format.pair, List.append_assoc, hf a, hg b]

theorem Steady.pair {f : Format α} {g : Format β} (hf : f.Steady) (hg : g.Steady) :
    (f.pair g).Steady := by
  rintro bytes ⟨a, b⟩ rest more read
  simp only [Format.pair, Option.bind_eq_some_iff, Option.map_eq_some_iff, Prod.mk.injEq] at read
  obtain ⟨⟨a', middle⟩, first, ⟨b', rest'⟩, second, ⟨rfl, rfl⟩, rfl⟩ := read
  simp [Format.pair, hf _ _ _ more first, hg _ _ _ more second]

end Format

end BootManager
