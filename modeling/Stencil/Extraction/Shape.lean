import Stencil.Extraction.Reference

set_option autoImplicit false

/-! The shapes that a template expects its variables to have. -/

namespace Stencil.Extraction

/-- The shape of a value. -/
inductive Shape where
  /-- Written as it is. -/
  | scalar
  /-- Read through fields. -/
  | object (fields : List (String × Shape))
  /-- Iterated over. -/
  | list (item : Shape)
  /-- Not restricted. -/
  | any

namespace Shape

instance : Inhabited Shape := ⟨.any⟩

/-- Puts a field in place of the one of its name, or behind all others. -/
def setField (key : String) (shape : Shape) : List (String × Shape) → List (String × Shape)
  | [] => [(key, shape)]
  | (other, old) :: fields =>
    if key = other then (key, shape) :: fields else (other, old) :: setField key shape fields

def field? (key : String) : List (String × Shape) → Option Shape
  | [] => none
  | (other, shape) :: fields => if key = other then some shape else field? key fields

mutual

/-- Combines two shapes seen of one value. One that says nothing gives way, fields are united, and
what does not go together says nothing. -/
def merge : Shape → Shape → Shape
  | .any, other => other
  | .scalar, .any => .scalar
  | .scalar, .scalar => .scalar
  | .scalar, _ => .any
  | .list item, .any => .list item
  | .list left, .list right => .list (merge left right)
  | .list _, _ => .any
  | .object fields, .any => .object fields
  | .object left, .object right =>
    .object (mergeFields left right ++ right.filter fun field => (field? field.1 left).isNone)
  | .object _, _ => .any

/-- The fields of the first list, each combined with the field of its name in the second. -/
def mergeFields : List (String × Shape) → List (String × Shape) → List (String × Shape)
  | [], _ => []
  | (key, shape) :: fields, others =>
    (match field? key others with
      | some other => (key, merge shape other)
      | none => (key, shape)) :: mergeFields fields others

end

/-- The shape of a value that is read through fields down to a leaf. -/
def behind (leaf : Shape) : List String → Shape
  | [] => leaf
  | field :: fields => .object [(field, behind leaf fields)]

end Shape

/-- What the references to a variable say: its shape, and whether each of them shows it exactly. -/
structure Observation where
  shape : Shape
  exact : Bool

namespace Observation

/-- What one reference says of its variable. -/
def of (reference : Reference) : Observation :=
  let leaf : Shape × Bool := match reference.role with
    | .value => (.scalar, true)
    | .blockArgument "each" => (.list .any, true)
    | .blockArgument "with" => (.object [], true)
    | .blockArgument _ => (.any, false)
    | .argument => (.any, false)
  ⟨Shape.behind leaf.1 (fieldPath reference.raw), leaf.2 && !reference.shifted⟩

def combine (left right : Observation) : Observation :=
  ⟨left.shape.merge right.shape, left.exact && right.exact⟩

end Observation

/-- Adds what a reference says to the table of variables, in order of their first references. -/
def observe (table : List (String × Observation)) (reference : Reference) :
    List (String × Observation) :=
  match baseVariable? reference.raw with
  | none => table
  | some name =>
    let observation := Observation.of reference
    if table.any (·.1 == name) then
      table.map fun (other, known) =>
        (other, if other == name then known.combine observation else known)
    else table ++ [(name, (Observation.mk .any true).combine observation)]

def observations (references : List Reference) : List (String × Observation) :=
  references.foldl observe []

end Stencil.Extraction
