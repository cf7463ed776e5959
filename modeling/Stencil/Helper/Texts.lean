import Stencil.Helper.Basic
import Stencil.Helper.Padding
import Stencil.Text.Latin
import Stencil.Text.Search
import Stencil.Text.Words

set_option autoImplicit false

/-! The text helpers of the catalog. -/

namespace Stencil.Texts

/-- The most bytes or columns that repeating and padding produce. -/
def maxOutput : Nat := 1000000

/-- A helper that turns its first argument's text into another text. -/
def onText (change : List Char → List Char) (call : Call) : Answer Json := do
  return .string (String.ofList (change (← call.chars 0)))

/-- Shortens a text to a number of characters and appends a mark, unless it is short enough. -/
def truncate (call : Call) : Answer Json := do
  let text ← call.chars 0
  let length ← call.natural 1 "length"
  if text.length ≤ length then return .string (String.ofList text)
  else return .string (String.ofList (text.take length) ++ call.textOr 2 "...")

/-- The text and the fill that it needs to reach the wanted width. -/
def padding (call : Call) : Answer (String × String) := do
  let text ← call.text 0
  let width ← call.natural 1 "width"
  if maxOutput < width then call.refuse ("width exceeds " ++ toString maxOutput)
  else
    match Padding.fill? (call.textOr 2 " ").toList (width - Text.columns text.toList) with
    | some fill => return (text, String.ofList fill)
    | none => .error .endless

def padStart (call : Call) : Answer Json := do
  let (text, fill) ← padding call
  return .string (fill ++ text)

def padEnd (call : Call) : Answer Json := do
  let (text, fill) ← padding call
  return .string (text ++ fill)

/-- A text written `count` times after what has been written. -/
def repeated (text : String) : Nat → String → String
  | 0, written => written
  | count + 1, written => repeated text count (written ++ text)

def repeatText (call : Call) : Answer Json := do
  let text ← call.text 0
  let count ← call.natural 1 "count"
  if text.utf8ByteSize * count ≤ maxOutput then
    return .string (if text.isEmpty then "" else repeated text count "")
  else call.refuse ("output exceeds " ++ toString maxOutput ++ " bytes")

/-- Replaces every occurrence of a text; the empty text occurs nowhere. -/
def replace (call : Call) : Answer Json := do
  let text ← call.chars 0
  let old ← call.chars 1
  let new ← call.chars 2
  return .string (String.ofList (if old.isEmpty then text else Text.replace old new text))

/-- Splits at a separator, or into characters if it is empty. -/
def split (call : Call) : Answer Json := do
  let text ← call.chars 0
  let separator := (call.textOr 1 ",").toList
  let parts := if separator.isEmpty then text.map ([·]) else Text.splitOn separator text
  return .strings (parts.map String.ofList)

def concat (call : Call) : Answer Json :=
  return .string (String.join (call.arguments.map Json.toText))

/-- The characters between two positions, given in either order. -/
def substring (call : Call) : Answer Json := do
  let text ← call.chars 0
  let start ← held 0 text.length ((← call.integer? 1).getD 0)
  let finish ← held 0 text.length ((← call.integer? 2).getD text.length)
  let (low, high) := if start ≤ finish then (start, finish) else (finish, start)
  return .string (String.ofList ((text.drop low.toNat).take (high - low).toNat))

def startsWith (call : Call) : Answer Json := do
  let text ← call.chars 0
  let beginning ← call.chars 1
  return .bool (beginning.isPrefixOf text)

def endsWith (call : Call) : Answer Json := do
  let text ← call.chars 0
  let ending ← call.chars 1
  return .bool (Text.endsWith ending text)

def entries : List CatalogEntry := [
  ⟨"uppercase", "Converts text to upper case", onText Text.upperChars⟩,
  ⟨"lowercase", "Converts text to lower case", onText Text.lowerChars⟩,
  ⟨"capitalize", "Upper-cases the first character", onText Text.capitalize⟩,
  ⟨"titleCase", "Capitalizes every word", onText Text.titleCase⟩,
  ⟨"camelCase", "Converts to camelCase", onText Text.camelCase⟩,
  ⟨"pascalCase", "Converts to PascalCase", onText Text.pascalCase⟩,
  ⟨"snakeCase", "Converts to snake_case", onText (Text.joinedLower "_")⟩,
  ⟨"kebabCase", "Converts to kebab-case", onText (Text.joinedLower "-")⟩,
  ⟨"trim", "Strips leading and trailing whitespace", onText Text.trim⟩,
  ⟨"truncate", "Shortens text to a length, appending a suffix (default '...')", truncate⟩,
  ⟨"padStart", "Pads on the left to a display width", padStart⟩,
  ⟨"padEnd", "Pads on the right to a display width", padEnd⟩,
  ⟨"repeat", "Repeats text n times", repeatText⟩,
  ⟨"replace", "Replaces every occurrence of a substring", replace⟩,
  ⟨"split", "Splits text into an array on a separator", split⟩,
  ⟨"concat", "Joins all arguments as text", concat⟩,
  ⟨"substring", "Characters from start up to (not including) end", substring⟩,
  ⟨"startsWith", "True if text starts with a prefix", startsWith⟩,
  ⟨"endsWith", "True if text ends with a suffix", endsWith⟩,
  ⟨"slugify", "URL-safe ASCII slug", onText (Text.slugify Text.toLatin)⟩]

end Stencil.Texts
