import Stencil.Extraction.Variable
import Stencil.Text.Class

set_option autoImplicit false

/-! Names of helpers and partials, found in the text of a source whether it has a reading or not. -/

namespace Stencil.Extraction

/-- The names that a pattern finds from left to right; after a find the search goes on behind it. -/
def findAll (pattern : List Char → Option (List Char × List Char)) :
    Nat → List Char → List String
  | 0, _ => []
  | _, [] => []
  | fuel + 1, c :: text =>
    match pattern (c :: text) with
    | some (name, rest) => String.ofList name :: findAll pattern fuel rest
    | none => findAll pattern fuel text

def dropOne (c : Char) (text : List Char) : List Char := (Text.after? [c] text).getD text

/-- Drops two braces, a tilde and a hash. -/
def tagStart? (text : List Char) : Option (List Char) :=
  (Text.after? "\x7b\x7b".toList text).map fun rest => dropOne '#' (dropOne '~' rest)

/-- A tag whose name is followed by blanks and the beginning of an argument. -/
def helperMention? (text : List Char) : Option (List Char × List Char) := do
  let rest := Text.trimStart (← tagStart? text)
  let first ← rest.head?
  let isPart (c : Char) := Text.isWord c || c == '-'
  let name := first :: rest.tail.takeWhile isPart
  let rest := rest.tail.dropWhile isPart
  match Text.trimStart rest with
  | c :: after =>
    if (first.isAlpha || first == '_') && (rest.head?.map Text.isBlank).getD false && c != '\x7d' &&
        c != '~' then
      some (name, after)
    else none
  | [] => none

/-- A tag that includes a partial under a plain name. -/
def partialMention? (text : List Char) : Option (List Char × List Char) := do
  let rest ← Text.after? ['>'] (← tagStart? text)
  let rest := Text.trimStart rest
  let isPart (c : Char) := Text.isWord c || c == '.' || c == '/' || c == '-'
  let name := rest.takeWhile isPart
  if name.isEmpty then none else some (name, rest.dropWhile isPart)

/-- The blocks and helpers that belong to the language itself. -/
def control : List String := ["if", "unless", "each", "with", "else", "lookup", "log", "raw"]

def mentions (pattern : List Char → Option (List Char × List Char)) (source : String) :
    List String :=
  findAll pattern source.length source.toList

/-- The helpers that a source calls with an argument. -/
def helperNames (source : String) : List String :=
  distinctNames ((mentions helperMention? source).filter fun name => !control.contains name)

def partialNames (source : String) : List String :=
  distinctNames (mentions partialMention? source)

end Stencil.Extraction
