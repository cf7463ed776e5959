import Stencil.Number.Decimal
import Stencil.Text.Natural
import Stencil.Text.Trim

set_option autoImplicit false

/-!
The variable that an expression reads: the first name of its path. Parent and current contexts before
it do not count; loop data and the context itself are no variables.
-/

namespace Stencil.Extraction

/-- Drops `../` and `./` as often as they stand; `fuel` bounds the number of times. -/
def dropRelative : Nat → List Char → List Char
  | 0, text => text
  | fuel + 1, text =>
    match (Text.after? "../".toList text).or (Text.after? "./".toList text) with
    | some rest => dropRelative fuel rest
    | none => text

/-- Drops one `this.` or `this/`. -/
def dropThis (text : List Char) : List Char :=
  ((Text.after? "this.".toList text).or (Text.after? "this/".toList text)).getD text

def isSegmentEnd (c : Char) : Bool := c == '.' || c == '/' || c == '['

/-- The base variable of an expression. -/
def baseVariable? (expression : String) : Option String :=
  let trimmed := Text.trim expression.toList
  let text := dropThis (dropRelative trimmed.length trimmed)
  if text.head? = some '@' then none
  else
    let base := text.takeWhile fun c => !isSegmentEnd c
    if base.isEmpty || base == "this".toList then none else some (String.ofList base)

/-- Splits a text at every character that passes a test. -/
def splitWhere (test : Char → Bool) : List Char → List Char → List (List Char)
  | part, [] => [part.reverse]
  | part, c :: text =>
    if test c then part.reverse :: splitWhere test [] text else splitWhere test (c :: part) text

/-- A segment that chooses an item of an array, or none at all. -/
def endsFields (segment : List Char) : Bool :=
  segment.isEmpty || segment.contains '[' || (Text.natural? segment).isSome

/-- The fields behind the base variable, up to the first segment that chooses an item. -/
def fieldPath (raw : String) : List String :=
  let trimmed := Text.trim raw.toList
  let text := dropThis (Text.dropAll "./".toList (Text.dropAll "../".toList trimmed))
  match splitWhere (fun c => c == '.' || c == '/') [] text with
  | [] => []
  | base :: segments =>
    if base.contains '[' then []
    else (segments.takeWhile fun segment => !endsFields segment).map String.ofList

/-- True for what is written as a value: a text in quotes, a fixed word or a number. -/
def isLiteral (token : List Char) : Bool :=
  token.head? == some '"' || token.head? == some '\'' ||
    ["true", "false", "null", "undefined"].contains (String.ofList token) ||
    ((token.head?.map fun c => c.isDigit || c == '-' || c == '+').getD false &&
      (Number.Decimal.read? token).isSome)

/-- Adds a name behind those that are there, unless it is one of them. -/
def addName (names : List String) (name : String) : List String :=
  if names.contains name then names else names ++ [name]

/-- The different names of a list, in order of their first places. -/
def distinctNames (names : List String) : List String := names.foldl addName []

end Stencil.Extraction
