import Stencil.Text.Trim

set_option autoImplicit false

/-!
Finding one text in another: the leftmost occurrences that do not overlap decide how a text is
split, and a replacement puts new text between the parts.
-/

namespace Stencil.Text

/-- Splits at the leftmost occurrences; `skip` characters of the last occurrence are still to pass. -/
def splitFrom (separator : List Char) : Nat → List Char → List Char → List (List Char)
  | _, part, [] => [part.reverse]
  | skip + 1, part, _ :: text => splitFrom separator skip part text
  | 0, part, c :: text =>
    if separator.isPrefixOf (c :: text) then
      part.reverse :: splitFrom separator (separator.length - 1) [] text
    else splitFrom separator 0 (c :: part) text

/-- The parts of a text between the occurrences of a separator that is not empty. -/
def splitOn (separator text : List Char) : List (List Char) := splitFrom separator 0 [] text

/-- Parts with a separator between each two. -/
def join (separator : List Char) : List (List Char) → List Char
  | [] => []
  | [part] => part
  | part :: parts => part ++ separator ++ join separator parts

/-- Strings with a separator between each two. -/
def joinStrings (separator : String) (parts : List String) : String :=
  separator.intercalate parts

/-- Every occurrence of a text that is not empty, replaced. -/
def replace (old new text : List Char) : List Char :=
  new.intercalate (splitOn old text)

def contains (needle : List Char) : List Char → Bool
  | [] => needle.isEmpty
  | c :: text => needle.isPrefixOf (c :: text) || contains needle text

def endsWith (ending text : List Char) : Bool := ending.reverse.isPrefixOf text.reverse

/-- The lines of a text without their breaks; a break at the very end starts no further line. -/
def linesFrom : List Char → List Char → List (List Char)
  | [], [] => []
  | line, [] => [line.reverse]
  | '\r' :: line, '\n' :: text => line.reverse :: linesFrom [] text
  | line, '\n' :: text => line.reverse :: linesFrom [] text
  | line, c :: text => linesFrom (c :: line) text

def lines (text : String) : List String := (linesFrom [] text.toList).map String.ofList

end Stencil.Text
