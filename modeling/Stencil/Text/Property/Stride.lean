set_option autoImplicit false

/-! Runs of code points at even distance, of which the property tables are made. -/

namespace Stencil.Text.Property

/-- The code points `first`, `first + step`, … up to `last`. -/
structure Stride where
  first : Nat
  last : Nat
  step : Nat

namespace Stride

def holds (stride : Stride) (code : Nat) : Bool :=
  decide (stride.first ≤ code) && decide (code ≤ stride.last) &&
    (code - stride.first) % stride.step == 0

end Stride

/-- True if a code point stands in a table. -/
def listed (table : List Stride) (code : Nat) : Bool :=
  table.any (·.holds code)

theorem listed_iff (table : List Stride) (code : Nat) :
    listed table code = true ↔ ∃ stride ∈ table, stride.holds code = true := by
  simp [listed]

end Stencil.Text.Property
