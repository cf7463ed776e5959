import Stencil.Extraction.Variable
import Stencil.Text.Class

set_option autoImplicit false

/-!
Variables of a source that has no reading. Each region between double braces is looked at on its own:
its words that stand where a value is expected are taken for paths.
-/

namespace Stencil.Extraction

/-- Splits a text at the first occurrence of an ending, which is dropped. -/
def beforeEnding? (ending : List Char) : List Char → Option (List Char × List Char)
  | [] => none
  | c :: text =>
    match Text.after? ending (c :: text) with
    | some rest => some ([], rest)
    | none => (beforeEnding? ending text).map fun (body, rest) => (c :: body, rest)

/-- The contents of the regions of a source; `fuel` bounds their number. -/
def regionsFrom : Nat → List Char → List (List Char)
  | 0, _ => []
  | fuel + 1, text =>
    match (beforeEnding? "\x7b\x7b".toList text).bind fun (_, rest) =>
      beforeEnding? "\x7d\x7d".toList rest with
    | some (content, rest) => content :: regionsFrom fuel rest
    | none => []

def regions (source : String) : List (List Char) := regionsFrom source.length source.toList

/-- The content without a third brace, tildes, an ampersand and outer blanks. -/
def cleaned (content : List Char) : List Char :=
  let text := (Text.trim content).dropWhile (· == '\x7b')
  let text := Text.dropEndWhile (· == '~') (text.dropWhile (· == '~'))
  Text.trim (text.dropWhile (· == '&'))

/-- The content of a region that may hold values; blocks, ends, partials and comments hold none. -/
def valuePart? (content : List Char) : Option (List Char) :=
  let text := cleaned content
  let marked := (text.head?.map fun c => "#/^>!".toList.contains c).getD true
  if marked || text == "else".toList then none
  else some (Text.trim ((Text.after? "else ".toList text).getD text))

/-- Words between blanks, where blanks in quotes do not separate. The word being read is kept
backwards, and the quote that is open. -/
def wordsFrom : List Char → Option Char → List Char → List (List Char)
  | word, _, [] => if word.isEmpty then [] else [word.reverse]
  | word, some quote, c :: text =>
    wordsFrom (c :: word) (if c = quote then none else some quote) text
  | word, none, c :: text =>
    if Text.isBlank c then
      if word.isEmpty then wordsFrom [] none text else word.reverse :: wordsFrom [] none text
    else wordsFrom (c :: word) (if c = '"' ∨ c = '\'' then some c else none) text

/-- The words that may be paths: all after the first if that names a helper, or else the first. -/
def candidates : List (List Char) → List (List Char)
  | [] => []
  | [word] => [word]
  | first :: words =>
    if first.any (fun c => c == '.' || c == '[') then [first] else words

/-- The value of an option, or the word itself. -/
def optionValue (word : List Char) : List Char :=
  let quoted := word.head? == some '"' || word.head? == some '\''
  match word.dropWhile (· != '=') with
  | _ :: value => if quoted then word else value
  | [] => word

def beginsName (c : Char) : Bool := c.isAlpha || c == '_' || c == '$'

/-- The name before an opening bracket, if a plain name stands there. -/
def indexedName? (word : List Char) : Option (List Char) :=
  match word with
  | [] => none
  | c :: text =>
    let isPart (c : Char) := Text.isWord c || c == '$' || c == '-'
    if beginsName c && (text.dropWhile isPart).head? == some '[' then
      some (c :: text.takeWhile isPart)
    else none

/-- The variable that a word names. -/
def wordVariable? (word : List Char) : Option String :=
  if word.head? = some '(' then none
  else
    let value := optionValue (Text.dropEndWhile (· == ')') word)
    if value.isEmpty || isLiteral value then none
    else baseVariable? (String.ofList ((indexedName? value).getD value))

def regionVariables (content : List Char) : List String :=
  match valuePart? content with
  | some text => (candidates (wordsFrom [] none text)).filterMap wordVariable?
  | none => []

/-- The variables of all regions, each once. -/
def scannedVariables (source : String) : List String :=
  distinctNames ((regions source).flatMap regionVariables)

end Stencil.Extraction
