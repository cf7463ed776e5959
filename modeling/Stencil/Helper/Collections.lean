import Stencil.Helper.Basic
import Stencil.Helper.Order
import Stencil.Text.Search

set_option autoImplicit false

/-! The collection helpers of the catalog. -/

namespace Stencil.Collections

/-- The size that a range may have. -/
def maxRange : Nat := 100000

def join (call : Call) : Answer Json := do
  let items ← call.arrayOrEmpty 0
  return .string ((call.textOr 1 ", ").intercalate (items.map Json.toText))

/-- How many items are wanted, if that is said. -/
def count? (call : Call) : Answer (Option Nat) := do
  match ← call.integer? 1 with
  | none => return none
  | some count => if count < 0 then call.refuse "count must not be negative" else return some count.toNat

def first (call : Call) : Answer Json := do
  let items ← call.arrayOrEmpty 0
  match ← count? call with
  | none => return items.head?.getD .null
  | some count => return .array (items.take count)

def last (call : Call) : Answer Json := do
  let items ← call.arrayOrEmpty 0
  match ← count? call with
  | none => return items.getLast?.getD .null
  | some count => return .array (items.drop (items.length - count))

def length (call : Call) : Answer Json := do
  match ← call.argument 0 with
  | .array items => return .nat items.length
  | .string text => return .nat text.length
  | .object fields => return .nat fields.length
  | .null => return .nat 0
  | other => call.refuse ("has no length: " ++ other.compact)

def reverse (call : Call) : Answer Json := do
  match ← call.argument 0 with
  | .string text => return .string (String.ofList text.toList.reverse)
  | _ => return .array (← call.arrayOrEmpty 0).reverse

def sort (call : Call) : Answer Json := do
  let items ← call.arrayOrEmpty 0
  match call.argument? 1 with
  | some (.string key) => return .array (Json.sortedBy key items)
  | _ => return .array (Json.sorted items)

/-- Keeps the first of the same items; those seen so far are kept backwards. -/
def distinct (seen : List Json) : List Json → List Json
  | [] => seen.reverse
  | item :: items =>
    if seen.any (Json.same item) then distinct seen items else distinct (item :: seen) items

def unique (call : Call) : Answer Json := do
  return .array (distinct [] (← call.arrayOrEmpty 0))

/-- A position inside a list, counted from its end if it is negative. -/
def resolve (length : Nat) (index : Int) : Int :=
  if index < 0 then max (length + index) 0 else min index length

def slice (call : Call) : Answer Json := do
  let items ← call.arrayOrEmpty 0
  let start := resolve items.length ((← call.integer? 1).getD 0)
  let finish := resolve items.length ((← call.integer? 2).getD items.length)
  if finish ≤ start then return .array []
  else return .array (← itemsBetween items start finish)

def includes (call : Call) : Answer Json := do
  let needle ← call.argument 1
  match ← call.argument 0 with
  | .string text => return .bool (Text.contains needle.toText.toList text.toList)
  | .array items => return .bool (items.any fun item => item.looselySame needle)
  | .null => return .bool false
  | other => call.refuse ("cannot search in " ++ other.compact)

def pluck (call : Call) : Answer Json := do
  let items ← call.arrayOrEmpty 0
  let key ← call.text 1
  return .array (items.filterMap (Json.field? key))

def filterBy (call : Call) : Answer Json := do
  let items ← call.arrayOrEmpty 0
  let key ← call.text 1
  let expected ← call.argument 2
  return .array (items.filter fun item => (item.field? key).any (Json.looselySame · expected))

/-- Pieces of one size, the last of which may be shorter; `fuel` bounds their number. -/
def pieces (size : Nat) : Nat → List Json → List (List Json)
  | 0, _ => []
  | fuel + 1, items =>
    if items.isEmpty then [] else items.take size :: pieces size fuel (items.drop size)

/-- The pieces of a list; their size must not be zero. -/
def piecesOf (size : Nat) (items : List Json) : Answer (List (List Json)) :=
  if size = 0 then .error .unbounded else .ok (pieces size items.length items)

def chunk (call : Call) : Answer Json := do
  let items ← call.arrayOrEmpty 0
  let size ← call.integer 1
  if size < 1 then call.refuse "chunk size must be at least 1"
  else return .array ((← piecesOf size.toNat items).map Json.array)

/-- The items of an array, or the value itself. -/
def spread : Json → List Json
  | .array items => items
  | other => [other]

def flatten (call : Call) : Answer Json := do
  return .array ((← call.arrayOrEmpty 0).flatMap spread)

/-- True for an integer of 64 bits. -/
def fits (value : Int) : Bool :=
  decide (-(Nat.pow 2 63 : Int) ≤ value) && decide (value < Nat.pow 2 63)

/-- True while a progression has not come to its end. -/
def isBefore (step current finish : Int) : Bool :=
  (decide (0 < step) && decide (current < finish)) || (decide (step < 0) && decide (finish < current))

/-- A quotient cut toward zero; the divisor must not be zero. -/
def quotient (dividend divisor : Int) : Answer Int :=
  if divisor = 0 then .error .unbounded else .ok (dividend.tdiv divisor)

/-- The progression from here up to an end; it stops where 64 bits are left. -/
def progression (step finish current : Int) : List Int :=
  if isBefore step current finish then
    current :: if fits (current + step) then progression step finish (current + step) else []
  else []
termination_by (if 0 < step then finish - current else current - finish).toNat
decreasing_by
  rename_i before _
  simp only [isBefore, Bool.or_eq_true, Bool.and_eq_true, decide_eq_true_eq] at before
  split <;> omega

def range (call : Call) : Answer Json := do
  let (start, finish) ← (do
    match ← call.integer? 1 with
    | some finish => return (← call.integer 0, finish)
    | none => return (0, ← call.integer 0) : Answer (Int × Int))
  let step := (← call.integer? 2).getD 1
  if step = 0 then call.refuse "step must not be zero"
  else
    let span ← quotient (finish - start) step
    if (maxRange : Int) < span then
      call.refuse ("range exceeds " ++ toString maxRange ++ " items")
    else return .array ((progression step finish start).map Json.int)

def compact (call : Call) : Answer Json := do
  return .array ((← call.arrayOrEmpty 0).filter Json.truthy)

def isEmpty (call : Call) : Answer Json := do
  match ← call.argument 0 with
  | .null => return .bool true
  | .string text => return .bool text.isEmpty
  | .array items => return .bool items.isEmpty
  | .object fields => return .bool fields.isEmpty
  | _ => return .bool false

def entries : List CatalogEntry := [
  ⟨"join", "Joins array items with a separator (default ', ')", join⟩,
  ⟨"first", "First item, or the first n items", first⟩,
  ⟨"last", "Last item, or the last n items", last⟩,
  ⟨"length", "Length of an array, string or object", length⟩,
  ⟨"reverse", "Reverses an array or string", reverse⟩,
  ⟨"sort", "Sorts an array, optionally by a field", sort⟩,
  ⟨"unique", "Removes duplicate items, keeping the first", unique⟩,
  ⟨"slice", "Items from start up to (not including) end", slice⟩,
  ⟨"includes", "True if an array holds a value or a string holds a substring", includes⟩,
  ⟨"pluck", "Collects one field from every object in an array", pluck⟩,
  ⟨"filterBy", "Keeps objects whose field equals a value", filterBy⟩,
  ⟨"chunk", "Splits an array into arrays of a given size", chunk⟩,
  ⟨"flatten", "Flattens nested arrays by one level", flatten⟩,
  ⟨"range", "Integers from start up to (not including) end", range⟩,
  ⟨"compact", "Removes falsy items", compact⟩,
  ⟨"isEmpty", "True for null, empty strings, arrays and objects", isEmpty⟩]

end Stencil.Collections
