import Stencil.Text.Columns

set_option autoImplicit false

/-!
Filling a text up to a display width. Characters of the pad are taken in turn, over and over, as
long as the next one still fits.
-/

namespace Stencil.Padding

/-- The columns that a character of the pad fills. -/
def width (c : Char) : Nat := (Text.charColumns c).getD 0

/-- The state of filling: the fill so far, backwards, the columns still missing, and whether the next
character fitted. -/
structure Progress where
  fill : List Char
  missing : Nat
  fits : Bool

/-- One pass through the pad, up to the first character that does not fit. -/
def pass : List Char → Progress → Progress
  | [], progress => progress
  | c :: pad, progress =>
    if progress.missing < width c then { progress with fits := false }
    else pass pad { progress with fill := c :: progress.fill, missing := progress.missing - width c }

/-- Passes through the pad until the missing columns are filled; `fuel` bounds their number. None if
the passes never end: the pad has columns as a whole, but none of its characters has any. -/
def passes (pad : List Char) : Nat → Progress → Option (List Char)
  | 0, progress => if progress.missing = 0 then some progress.fill.reverse else none
  | fuel + 1, progress =>
    if progress.missing = 0 then some progress.fill.reverse
    else
      let next := pass pad progress
      if !next.fits || Text.columns pad == 0 then some next.fill.reverse
      else if next.missing = progress.missing then none
      else passes pad fuel next

/-- The fill for a number of missing columns. -/
def fill? (pad : List Char) (missing : Nat) : Option (List Char) :=
  if pad.isEmpty then some [] else passes pad missing ⟨[], missing, true⟩

end Stencil.Padding
