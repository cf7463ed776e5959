import Stencil.Text.Case

set_option autoImplicit false

/-!
Words of identifiers and prose. A word ends at every character that is no letter or number, and
where a capital follows a lower case letter or a number.
-/

namespace Stencil.Text

/-- Collects words; `word` is the one being read, backwards, and `low` tells how it ends so far. -/
def wordsFrom : List Char → Bool → List Char → List (List Char)
  | word, _, [] => if word.isEmpty then [] else [word.reverse]
  | word, low, c :: text =>
    if !isAlphanumeric c then
      if word.isEmpty then wordsFrom [] false text
      else word.reverse :: wordsFrom [] false text
    else
      let low' := isLower c || isNumeric c
      if isUpper c && low && !word.isEmpty then word.reverse :: wordsFrom [c] low' text
      else wordsFrom (c :: word) low' text

def words (text : List Char) : List (List Char) := wordsFrom [] false text

/-- The words of a text in lower case, joined by a separator. -/
def joinedLower (separator : String) (text : List Char) : List Char :=
  separator.toList.intercalate ((words text).map lowerChars)

/-- Words run together, each but the first with a capital. -/
def camelCase (text : List Char) : List Char :=
  match (words text).map lowerChars with
  | [] => []
  | word :: others => word ++ (others.map capitalize).flatten

/-- Words run together, each with a capital. -/
def pascalCase (text : List Char) : List Char :=
  (((words text).map lowerChars).map capitalize).flatten

/-- One step through prose: whether a word starts here, and what has been written, backwards. -/
def titleStep (state : Bool × List (List Char)) (c : Char) : Bool × List (List Char) :=
  if isBlank c then (true, [c] :: state.2)
  else (false, (if state.1 then upperChar c else lowerChar c) :: state.2)

/-- Every word of prose with a capital and otherwise in lower case, letter by letter. -/
def titleCase (text : List Char) : List Char :=
  (text.foldl titleStep (true, [])).2.reverse.flatten

end Stencil.Text
