import Stencil.Text.Case
import Stencil.Text.Natural
import Stencil.Text.Trim

set_option autoImplicit false

/-! Places that an error text names. -/

namespace Stencil.Diagnostic

/-- A line and a column, as far as they are known. -/
structure Place where
  line : Option Nat
  column : Option Nat
  deriving DecidableEq

/-- Drops a word in any case. -/
def word? (word : List Char) (text : List Char) : Option (List Char) :=
  if (text.take word.length).map Char.toLower = word then some (text.drop word.length) else none

/-- Reads digits of any script. -/
def digits? (text : List Char) : Option (List Char × List Char) :=
  let digits := text.takeWhile Text.isDecimal
  if digits.isEmpty then none else some (digits, text.dropWhile Text.isDecimal)

/-- The column after its word; the short word is tried where the long one leads nowhere. -/
def column? (text : List Char) : Option (List Char × List Char) := do
  let short ← word? "col".toList text
  let long := (word? "umn".toList short).bind fun rest => digits? (Text.trimStart rest)
  long.or (digits? (Text.trimStart short))

/-- A place in words: `line 4, column 7`. -/
def wordedPlace? (text : List Char) : Option Place := do
  let rest ← word? "line".toList text
  let (line, rest) ← digits? (Text.trimStart rest)
  let rest := Text.trimStart rest
  let rest := match rest with
    | c :: after => if c = ',' ∨ c = ':' then Text.trimStart after else rest
    | [] => rest
  let (column, _) ← column? rest
  return ⟨Text.natural? line, Text.natural? column⟩

/-- A place in numbers: `:4:7`. -/
def numberedPlace? (text : List Char) : Option Place := do
  let (line, rest) ← digits? (← Text.after? [':'] text)
  let (column, _) ← digits? (← Text.after? [':'] rest)
  return ⟨Text.natural? line, Text.natural? column⟩

/-- The first place of a form in a text. -/
def firstPlace? (form : List Char → Option Place) : List Char → Option Place
  | [] => none
  | c :: text => (form (c :: text)).or (firstPlace? form text)

/-- The place that a text names; one in words is preferred. -/
def locate (message : List Char) : Place :=
  ((firstPlace? wordedPlace? message).or (firstPlace? numberedPlace? message)).getD ⟨none, none⟩

end Stencil.Diagnostic
