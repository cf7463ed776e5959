import Stencil.Json.Printer

set_option autoImplicit false

/-!
An order of all data values: null, then truth values, numbers, texts, arrays and objects. Two arrays
or two objects are ordered by their printed text.
-/

namespace Stencil.Json

def rank : Json → Nat
  | null => 0
  | bool _ => 1
  | number _ => 2
  | string _ => 3
  | array _ => 4
  | object _ => 5

/-- Texts in the order of their code points. -/
def compareText (left right : String) : Ordering :=
  if left < right then .lt else if right < left then .gt else .eq

def compareValues (left right : Json) : Ordering :=
  match left, right with
  | bool left, bool right => compare left.toNat right.toNat
  | number left, number right => (left.toBinary.compare? right.toBinary).getD .eq
  | string left, string right => compareText left right
  | left, right =>
    (compare left.rank right.rank).then (compareText left.compact right.compact)

/-- True unless the left value comes after the right one. -/
def atMost (left right : Json) : Bool := compareValues left right != .gt

/-- Values in order; equal ones keep the order in which they stand. -/
def sorted (items : List Json) : List Json := items.mergeSort atMost

/-- Values in the order of one of their fields, which counts as null where it is missing. -/
def sortedBy (key : String) (items : List Json) : List Json :=
  items.mergeSort fun left right =>
    atMost ((left.field? key).getD null) ((right.field? key).getD null)

end Stencil.Json
