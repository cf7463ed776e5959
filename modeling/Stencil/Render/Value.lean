import Stencil.Json.Printer

set_option autoImplicit false

/-! How templates show values, and which values count as true in them. -/

namespace Stencil.Json

mutual

/-- The text of a value in a template: arrays show their items, objects only that they are objects. -/
def shown : Json → String
  | null => ""
  | bool value => if value then "true" else "false"
  | number value => value.text
  | string value => value
  | array items => "[" ++ shownItems true items ++ "]"
  | object _ => "[object]"

def shownItems (first : Bool) : List Json → String
  | [] => ""
  | item :: items => (if first then "" else ", ") ++ shown item ++ shownItems false items

end

/-- Conditions hold for numbers that are neither zero nor below the normal range, or for all numbers
where zero is included; and for texts, arrays and objects that are not empty. -/
def holds (includeZero : Bool) : Json → Bool
  | null => false
  | bool value => value
  | number value => includeZero || value.toBinary.isNormal
  | string value => !value.isEmpty
  | array items => !items.isEmpty
  | object fields => !fields.isEmpty

end Stencil.Json
