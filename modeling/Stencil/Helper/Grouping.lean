import Stencil.Number.Decimal

set_option autoImplicit false

/-! Numbers with fixed decimals whose integer digits are put in groups of three. -/

namespace Stencil.Grouping

open Number (Binary64)

/-- Puts a separator before every third digit from the end, but not before the first. -/
def groups (separator : List Char) : List Char → List Char
  | [] => []
  | c :: digits =>
    c :: (if digits.length % 3 = 0 ∧ digits ≠ [] then separator else []) ++ groups separator digits

/-- The digits before the point, and the point with what follows it. -/
def parts (text : List Char) : List Char × List Char := text.span (· != '.')

/-- True if some digit shows that a rendering is not zero. -/
def showsDigit (text : List Char) : Bool := text.any fun c => c.isDigit && c != '0'

/-- The grouped rendering; a number that is rendered as zero loses its sign. -/
def grouped (value : Binary64) (places : Nat) (separator : String) : String :=
  let text := (value.abs.fixed places).toList
  let (whole, fraction) := parts text
  let sign := if value.lt Binary64.zero && showsDigit text then ['-'] else []
  String.ofList (sign ++ groups separator.toList whole ++ fraction)

end Stencil.Grouping
