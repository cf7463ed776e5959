import Stencil.Json.Number

set_option autoImplicit false

/-!
Data values: what templates are rendered with and what helpers take and return.

The fields of an object are kept in ascending order of their keys, so two objects with the same
fields are the same value.
-/

namespace Stencil

/-- A data value. -/
inductive Json where
  | null
  | bool (value : Bool)
  | number (value : Numeral)
  | string (value : String)
  | array (items : List Json)
  | object (fields : List (String × Json))

namespace Json

instance : Inhabited Json := ⟨null⟩

/-- Puts a field at its place in ascending order; a key that is there gets the new value. -/
def insert (key : String) (value : Json) : List (String × Json) → List (String × Json)
  | [] => [(key, value)]
  | (other, old) :: fields =>
    if key < other then (key, value) :: (other, old) :: fields
    else if key = other then (key, value) :: fields
    else (other, old) :: insert key value fields

/-- An object of fields in any order, the last value of a repeated key. -/
def ofFields (fields : List (String × Json)) : Json :=
  object (fields.foldl (fun sorted field => insert field.1 field.2 sorted) [])

/-- The value under a key. -/
def find? (key : String) : List (String × Json) → Option Json
  | [] => none
  | (other, value) :: fields => if key = other then some value else find? key fields

/-- The field of an object; nothing else has fields. -/
def field? (key : String) : Json → Option Json
  | object fields => find? key fields
  | _ => none

def int (value : Int) : Json := number (.int value)

def nat (value : Nat) : Json := int value

def strings (texts : List String) : Json := array (texts.map string)

/-- A number kept integral where it can be; no number at all becomes null. -/
def ofBinary (value : Number.Binary64) : Json :=
  match Numeral.ofBinary? value with
  | some kept => number kept
  | none => null

mutual

/-- Equality of values: numbers of different kinds differ. -/
def same : Json → Json → Bool
  | null, null => true
  | bool left, bool right => left == right
  | number left, number right => left.same right
  | string left, string right => left == right
  | array left, array right => sameItems left right
  | object left, object right => sameFields left right
  | _, _ => false

def sameItems : List Json → List Json → Bool
  | [], [] => true
  | left :: lefts, right :: rights => same left right && sameItems lefts rights
  | _, _ => false

def sameFields : List (String × Json) → List (String × Json) → Bool
  | [], [] => true
  | (key, left) :: lefts, (other, right) :: rights =>
    key == other && same left right && sameFields lefts rights
  | _, _ => false

end

/-- Equality that compares two numbers by value. -/
def looselySame : Json → Json → Bool
  | number left, number right => left.looselySame right
  | left, right => same left right

/-- The name of a value's type. -/
def typeName : Json → String
  | null => "null"
  | bool _ => "boolean"
  | number _ => "number"
  | string _ => "string"
  | array _ => "array"
  | object _ => "object"

/-- Null, false, zero, the empty text and the empty array are false; every object is true. -/
def truthy : Json → Bool
  | null => false
  | bool value => value
  | number value => !value.toBinary.isZero
  | string value => value ≠ ""
  | array items => !items.isEmpty
  | object _ => true

theorem find?_insert_self (key : String) (value : Json) (fields : List (String × Json)) :
    find? key (insert key value fields) = some value := by
  induction fields with
  | nil => simp [insert, find?]
  | cons field fields ih =>
    obtain ⟨other, old⟩ := field
    simp only [insert]
    split
    · simp [find?]
    · split
      · simp [find?]
      · rename_i differs
        simp [find?, differs, ih]

theorem find?_insert_of_ne {key other : String} (value : Json) (fields : List (String × Json))
    (differs : other ≠ key) : find? other (insert key value fields) = find? other fields := by
  induction fields with
  | nil => simp [insert, find?, differs]
  | cons field fields ih =>
    obtain ⟨name, old⟩ := field
    simp only [insert]
    split
    · simp [find?, differs]
    · split
      · rename_i same
        subst same
        simp [find?, differs]
      · by_cases h : other = name <;> simp [find?, h, ih]

end Json

end Stencil
