import Stencil.Number.Decimal

set_option autoImplicit false

/-! Texts that count positions. -/

namespace Stencil.Text

/-- A natural number of 64 bits in decimal digits, perhaps after a plus sign. -/
def natural? (text : List Char) : Option Nat :=
  let digits := match text with
    | '+' :: rest => rest
    | text => text
  let value := Number.Decimal.ofDigits digits
  if !digits.isEmpty && digits.all Char.isDigit && decide (value < Nat.pow 2 64) then some value
  else none

end Stencil.Text
