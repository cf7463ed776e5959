import Stencil.Text.Property.Stride

set_option autoImplicit false

/-! Rows of spellings, of which the tables are made. -/

namespace Stencil.Text.Property

/-- The spellings of characters that follow each other. -/
structure Row where
  first : Nat
  texts : List String

namespace Row

def spelling? (row : Row) (code : Nat) : Option String :=
  if row.first ≤ code then row.texts[code - row.first]? else none

end Row

/-- The spelling of a character in the first row that has one. -/
def spelledIn (rows : List Row) (code : Nat) : Option String :=
  rows.findSome? (·.spelling? code)

end Stencil.Text.Property
