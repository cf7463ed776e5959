import Stencil.Text.Class
import Stencil.Text.Property.Printable
import Stencil.Text.Property.Width

set_option autoImplicit false

/-! Display columns of single characters. -/

namespace Stencil.Text

open Property

def isControl (c : Char) : Bool := decide (c.toNat < 32) || (127 ≤ c.toNat && c.toNat < 160)

/-- Middle and final sounds of syllable blocks, which take the column of the first. -/
def isSyllablePart (code : Nat) : Bool :=
  (0x1160 ≤ code && code ≤ 0x11FF) || (0xD7B0 ≤ code && code ≤ 0xD7C6) ||
    (0xD7CB ≤ code && code ≤ 0xD7FB)

/-- Signs that are drawn around, above or below others although they are no marks. -/
def overlaid : List Stride := [
  ⟨0x605, 0x605, 1⟩, ⟨0x70F, 0x70F, 1⟩, ⟨0x890, 0x891, 1⟩, ⟨0x8E2, 0x8E2, 1⟩, ⟨0xCC0, 0xCC0, 1⟩,
  ⟨0xCC7, 0xCC8, 1⟩, ⟨0xCCA, 0xCCB, 1⟩, ⟨0x1B3B, 0x1B3D, 2⟩, ⟨0x1B43, 0x1B43, 1⟩,
  ⟨0xA8FA, 0xA8FA, 1⟩, ⟨0x13430, 0x13436, 1⟩, ⟨0x1343C, 0x1343F, 1⟩]

/-- Characters that no class gives the columns of: two vowels and a sign that are drawn wider, and a
joiner and two voicing marks that stand beside the letter before them. -/
def irregularColumns : List (Nat × Nat) := [
  (0x17A4, 2), (0x17D8, 3), (0x2D7F, 1), (0xFF9E, 1), (0xFF9F, 1)]

/-- The columns of a character behind the control characters. -/
def codeColumns (code : Nat) : Nat :=
  match irregularColumns.lookup code with
  | some columns => columns
  | none =>
    if listed extending code || listed ignorable code || listed overlaid code ||
        isSyllablePart code then 0
    else if listed wide code then 2
    else 1

/-- The columns of one character; none for a control character. -/
def charColumns (c : Char) : Option Nat :=
  if isControl c then none else if isAscii c then some 1 else some (codeColumns c.toNat)

end Stencil.Text
