import Stencil.Text.Case
import Stencil.Text.Property.Spelling

set_option autoImplicit false

/-!
Text in plain ASCII: a table of spellings for single characters, and the slugs made from them.
-/

namespace Stencil.Text

/-- What stands for a character that has no spelling. -/
def unspelled : String := "[?]"

/-- The spelling of a character; printable ASCII and the controls before it stand for themselves. -/
def spell (c : Char) : List Char :=
  if c.toNat < 0x7F then [c] else ((Property.spelling? c.toNat).getD unspelled).toList

/-- Removes the space after a spelled word where the text ends or a space follows anyway. -/
def trimSpelling (word next : List Char) : List Char :=
  let last := word.getLast?
  let follows := next.head? == none || next.head? == some ' '
  if 1 < word.length && last == some ' ' && follows then word.dropLast else word

/-- Joins spellings; a character that follows with an empty spelling keeps the space. -/
def joinSpellings : List (List Char) → List (List Char)
  | [] => []
  | [word] => [trimSpelling word []]
  | word :: next :: words =>
    (if next.isEmpty then word else trimSpelling word next) :: joinSpellings (next :: words)

/-- A text spelled in ASCII. -/
def toLatin (text : List Char) : List Char := (joinSpellings (text.map spell)).flatten

/-- Adds a character to a slug that is written backwards; runs of others become one hyphen. -/
def slugStep (slug : List Char) (c : Char) : List Char :=
  if isPlainAlphanumeric c then c :: slug
  else if slug.isEmpty || slug.head? == some '-' then slug
  else '-' :: slug

/-- Letters and digits of a lowered text, with single hyphens where others stood between them. -/
def slugOf (text : List Char) : List Char :=
  ((text.foldl slugStep []).dropWhile (· == '-')).reverse

/-- A slug of a text through a given spelling. -/
def slugify (spelled : List Char → List Char) (text : List Char) : List Char :=
  slugOf (lowerChars (spelled text))

end Stencil.Text
