import Stencil.Helper.Basic
import Stencil.Text.Natural
import Stencil.Text.Search
import Stencil.Yaml.Printer

set_option autoImplicit false

/-! The object helpers of the catalog. -/

namespace Stencil.Objects

/-- One step into a value: a field of an object, or an item of an array by its position. -/
def step? (segment : List Char) : Json → Option Json
  | .object fields => Json.find? (String.ofList segment) fields
  | .array items => (Text.natural? segment).bind (items[·]?)
  | _ => none

/-- The value at a dotted path, in which empty segments do not count. -/
def lookup? (value : Json) (path : String) : Option Json :=
  ((Text.splitOn ['.'] path.toList).filter (!·.isEmpty)).foldlM (fun value segment =>
    step? segment value) value

def get (call : Call) : Answer Json := do
  let target ← call.argument 0
  let path ← call.text 1
  return (lookup? target path).getD ((call.argument? 2).getD .null)

def keys (call : Call) : Answer Json := do
  return .strings ((← call.objectOrEmpty 0).map (·.1))

def values (call : Call) : Answer Json := do
  return .array ((← call.objectOrEmpty 0).map (·.2))

def pairs (call : Call) : Answer Json := do
  return .array ((← call.objectOrEmpty 0).map fun (key, value) =>
    .object [("key", .string key), ("value", value)])

def has (call : Call) : Answer Json := do
  let key ← call.text 1
  return .bool ((← call.argument 0).field? key).isSome

/-- Keys given one by one, or as one array. -/
def keyList : List Json → List String
  | [.array items] => items.map Json.toText
  | arguments => arguments.map Json.toText

/-- A helper that keeps the fields of an object by a test on the listed keys. -/
def keeping (keep : Bool → Bool) (call : Call) : Answer Json := do
  let fields ← call.object 0
  let listed := keyList (← itemsBetween call.arguments 1 call.arguments.length)
  return .object (fields.filter fun field => keep (listed.contains field.1))

/-- Adds the fields of an object to those so far; null has none. -/
def mergeInto (call : Call) (fields : List (String × Json)) (argument : Json × Nat) :
    Answer (List (String × Json)) :=
  match argument with
  | (.object more, _) => .ok (more.foldl (fun fields field => Json.insert field.1 field.2 fields) fields)
  | (.null, _) => .ok fields
  | (other, index) =>
    call.refuse ("argument #" ++ toString (index + 1) ++ " is not an object: " ++ other.compact)

def merge (call : Call) : Answer Json := do
  return .object (← call.arguments.zipIdx.foldlM (mergeInto call) [])

def isTrue : Option Json → Bool
  | some (.bool value) => value
  | _ => false

def json (call : Call) : Answer Json := do
  let value ← call.argument 0
  let pretty := isTrue (call.argument? 1) || isTrue (call.option? "pretty")
  return .string (if pretty then value.pretty else value.compact)

def yaml (call : Call) : Answer Json := do
  return .string (Yaml.document (← call.argument 0))

/-- True for null and the empty text. -/
def isBlank : Json → Bool
  | .null => true
  | .string text => text.isEmpty
  | _ => false

def default (call : Call) : Answer Json := do
  let fallback ← call.argument 1
  let value ← itemAt call.arguments 0
  return if isBlank value then fallback else value

def entries : List CatalogEntry := [
  ⟨"get", "Value at a dotted path (a.b.0.c), with an optional fallback", get⟩,
  ⟨"keys", "Keys of an object", keys⟩,
  ⟨"values", "Values of an object", values⟩,
  ⟨"entries", "Array of \x7bkey, value\x7d pairs", pairs⟩,
  ⟨"has", "True if an object has a key", has⟩,
  ⟨"pick", "Object with only the listed keys", keeping id⟩,
  ⟨"omit", "Object without the listed keys", keeping not⟩,
  ⟨"merge", "Shallow merge; later objects win", merge⟩,
  ⟨"json", "Serializes a value as JSON (pass true to pretty-print)", json⟩,
  ⟨"yaml", "Serializes a value as YAML", yaml⟩,
  ⟨"default", "The value, or a fallback when it is null, missing or empty", default⟩]

end Stencil.Objects
