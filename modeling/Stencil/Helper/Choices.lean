import Stencil.Helper.Objects
import Stencil.Helper.Order

set_option autoImplicit false

/-! The comparing and choosing helpers of the catalog. -/

namespace Stencil.Choices

def equality (wanted : Bool) (call : Call) : Answer Json := do
  let left ← call.argument 0
  let right ← call.argument 1
  return .bool (left.looselySame right == wanted)

def isBool : Json → Bool
  | .bool _ => true
  | _ => false

/-- The order of two texts, or of two values that stand for numbers; all others have none. -/
def order? : Json → Json → Option Ordering
  | .string left, .string right => some (Json.compareText left right)
  | left, right =>
    if isBool left || isBool right then none
    else
      match left.toBinary?, right.toBinary? with
      | some left, some right => left.compare? right
      | _, _ => none

def comparison (test : Ordering → Bool) (call : Call) : Answer Json := do
  let left ← call.argument 0
  let right ← call.argument 1
  return .bool ((order? left right).any test)

def and (call : Call) : Answer Json :=
  return .bool (!call.arguments.isEmpty && call.arguments.all Json.truthy)

def or (call : Call) : Answer Json :=
  return .bool (call.arguments.any Json.truthy)

def not (call : Call) : Answer Json := do
  return .bool !(← call.argument 0).truthy

def typeOf (call : Call) : Answer Json := do
  return .string (← call.argument 0).typeName

def ifThen (call : Call) : Answer Json := do
  let condition ← call.argument 0
  let value ← call.argument 1
  return if condition.truthy then value else (call.argument? 2).getD .null

/-- The result of the first case that a value matches, or what is left over. -/
def match? (value : Json) : List Json → Except (Option Json) Json
  | case :: result :: cases => if value.looselySame case then .ok result else match? value cases
  | [rest] => .error (some rest)
  | [] => .error none

/-- Picks a case; without one the named default counts, then an argument without a partner. -/
def switch (call : Call) : Answer Json := do
  let value ← call.argument 0
  match match? value (← itemsBetween call.arguments 1 call.arguments.length) with
  | .ok result => return result
  | .error rest => return ((call.option? "default").or rest).getD .null

def coalesce (call : Call) : Answer Json :=
  return (call.arguments.find? (!Objects.isBlank ·)).getD .null

def comparing : List CatalogEntry := [
  ⟨"eq", "True if both values are equal", equality true⟩,
  ⟨"ne", "True if the values differ", equality false⟩,
  ⟨"gt", "True if a > b", comparison Ordering.isGT⟩,
  ⟨"gte", "True if a >= b", comparison Ordering.isGE⟩,
  ⟨"lt", "True if a < b", comparison Ordering.isLT⟩,
  ⟨"lte", "True if a <= b", comparison Ordering.isLE⟩,
  ⟨"and", "True if every argument is truthy", and⟩,
  ⟨"or", "True if any argument is truthy", or⟩,
  ⟨"not", "Negates truthiness", not⟩,
  ⟨"typeOf", "JSON type name: null, boolean, number, string, array or object", typeOf⟩]

def choosing : List CatalogEntry := [
  ⟨"ifThen", "The second argument if the first is truthy, else the third", ifThen⟩,
  ⟨"switch", "Matches a value against case/result pairs; falls back to default=", switch⟩,
  ⟨"coalesce", "First argument that is neither null nor an empty string", coalesce⟩]

end Stencil.Choices
