import BootManager.Text.Ascii

/-!
# Sets of flags

The parts of the interface that can be hidden, and the families of loaders that can start in
graphics mode. A set is a 32-bit word with one bit for each member.
-/

namespace BootManager.Config

/-- A part of the interface that can be hidden. -/
inductive HidePart where
  | banner
  | label
  | singleuser
  | hwtest
  | arrows
  | hints
  | editor
  | safemode
  | badges
  deriving DecidableEq, Repr

namespace HidePart

/-- Every part, in the order of the bits. -/
def all : List HidePart :=
  [banner, label, singleuser, hwtest, arrows, hints, editor, safemode, badges]

/-- The bit of a part. -/
def bit : HidePart → UInt32
  | banner => 0x001
  | label => 0x002
  | singleuser => 0x004
  | hwtest => 0x008
  | arrows => 0x010
  | hints => 0x020
  | editor => 0x040
  | safemode => 0x080
  | badges => 0x100

/-- The word for a part. -/
def word : HidePart → String
  | banner => "banner"
  | label => "label"
  | singleuser => "singleuser"
  | hwtest => "hwtest"
  | arrows => "arrows"
  | hints => "hints"
  | editor => "editor"
  | safemode => "safemode"
  | badges => "badges"

/-- The part that a word names, in any case. -/
def ofWord? (s : String) : Option HidePart :=
  all.find? fun part => part.word == Text.lower s

end HidePart

/-- A set of hidden parts. -/
structure HideSet where
  bits : UInt32
  deriving DecidableEq, Repr

namespace HideSet

/-- Nothing is hidden. -/
def empty : HideSet := ⟨0⟩

/-- Every part is hidden. -/
def full : HideSet := ⟨0x1FF⟩

/-- Hides one more part. -/
def insert (set : HideSet) (part : HidePart) : HideSet :=
  ⟨set.bits ||| part.bit⟩

/-- Whether a part is hidden. -/
def contains (set : HideSet) (part : HidePart) : Bool :=
  set.bits &&& part.bit != 0

end HideSet

/-- A family of loaders. -/
inductive LoaderFamily where
  | osx
  | linux
  | elilo
  | grub
  | windows
  | opencore
  | clover
  deriving DecidableEq, Repr

namespace LoaderFamily

/-- Every family, in the order of the bits. -/
def all : List LoaderFamily :=
  [osx, linux, elilo, grub, windows, opencore, clover]

/-- The bit of a family. -/
def bit : LoaderFamily → UInt32
  | osx => 1
  | linux => 2
  | elilo => 4
  | grub => 8
  | windows => 16
  | opencore => 32
  | clover => 64

/-- The word for a family. -/
def word : LoaderFamily → String
  | osx => "osx"
  | linux => "linux"
  | elilo => "elilo"
  | grub => "grub"
  | windows => "windows"
  | opencore => "opencore"
  | clover => "clover"

/-- The family that a word names, in any case. -/
def ofWord? (s : String) : Option LoaderFamily :=
  all.find? fun family => family.word == Text.lower s

end LoaderFamily

/-- A set of loader families. -/
structure LoaderSet where
  bits : UInt32
  deriving DecidableEq, Repr

namespace LoaderSet

/-- No family. -/
def empty : LoaderSet := ⟨0⟩

/-- Adds one family. -/
def insert (set : LoaderSet) (family : LoaderFamily) : LoaderSet :=
  ⟨set.bits ||| family.bit⟩

/-- Whether a family is in the set. -/
def contains (set : LoaderSet) (family : LoaderFamily) : Bool :=
  set.bits &&& family.bit != 0

end LoaderSet

end BootManager.Config
